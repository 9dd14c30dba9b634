/-!
Sets of characters as lists of code point ranges. A set is cut down range by range, so the
members of a difference, an intersection or a complement are read off the members of its parts.
-/

namespace RouteTemplate.Unicode

/-- The code points from `lo` to `hi`, both included. -/
structure CodeRange where
  lo : Nat
  hi : Nat
  deriving DecidableEq, Repr, Inhabited

namespace CodeRange

def contains (r : CodeRange) (n : Nat) : Bool := r.lo ≤ n && n ≤ r.hi

/-- The last code point of all. -/
def maxCode : Nat := 0x10FFFF

def full : CodeRange := ⟨0, maxCode⟩

/-- What is left of `r` once `cut` is taken out: at most a piece below it and a piece above it. -/
def minus (r cut : CodeRange) : List CodeRange :=
  if cut.hi < r.lo ∨ r.hi < cut.lo then [r]
  else
    (if r.lo < cut.lo then [⟨r.lo, cut.lo - 1⟩] else []) ++
      (if cut.hi < r.hi then [⟨cut.hi + 1, r.hi⟩] else [])

/-- What two ranges have in common. -/
def common? (r s : CodeRange) : Option CodeRange :=
  let lo := max r.lo s.lo
  let hi := min r.hi s.hi
  if lo ≤ hi then some ⟨lo, hi⟩ else none

theorem any_contains_common? (r : CodeRange) (l : List CodeRange) (n : Nat) :
    (l.filterMap r.common?).any (·.contains n) = (r.contains n && l.any (·.contains n)) := by
  induction l with
  | nil => simp
  | cons s l ih =>
    rw [List.filterMap_cons, List.any_cons]
    cases h : r.common? s with
    | none => simp only [common?, contains] at h ih ⊢; grind
    | some p => simp only [common?, contains, List.any_cons] at h ih ⊢; grind

theorem any_contains_minus (r cut : CodeRange) (n : Nat) :
    (r.minus cut).any (·.contains n) = (r.contains n && !cut.contains n) := by
  unfold minus
  split <;> (try split) <;> (try split) <;> simp [contains] <;> grind

end CodeRange

/-- A set of characters, as ranges in increasing order that neither meet nor touch. -/
structure CharSet where
  ranges : List CodeRange
  deriving DecidableEq, Repr, Inhabited

namespace CharSet

def hasCode (s : CharSet) (n : Nat) : Bool := s.ranges.any (·.contains n)

def contains (s : CharSet) (c : Char) : Bool := s.hasCode c.toNat

/-! ### Normal form -/

/-- Joins a range to those after it as long as they meet or touch, and these among themselves. -/
def coalesceFrom (r : CodeRange) : List CodeRange → List CodeRange
  | [] => [r]
  | s :: rest =>
    if r.lo ≤ s.lo ∧ s.lo ≤ r.hi + 1 then coalesceFrom ⟨r.lo, max r.hi s.hi⟩ rest
    else r :: coalesceFrom s rest

/-- Joins each range to the next where they meet or touch. -/
def coalesce : List CodeRange → List CodeRange
  | [] => []
  | r :: rest => coalesceFrom r rest

theorem any_contains_coalesceFrom (r : CodeRange) (l : List CodeRange) (n : Nat) :
    (coalesceFrom r l).any (·.contains n) = (r.contains n || l.any (·.contains n)) := by
  induction l generalizing r with
  | nil => rfl
  | cons s rest ih =>
    unfold coalesceFrom
    split
    · rw [ih, List.any_cons, ← Bool.or_assoc]
      congr 1
      simp only [CodeRange.contains]
      grind
    · rw [List.any_cons, ih, List.any_cons]

theorem any_contains_coalesce (l : List CodeRange) (n : Nat) :
    (coalesce l).any (·.contains n) = l.any (·.contains n) := by
  cases l with
  | nil => rfl
  | cons r rest => exact any_contains_coalesceFrom r rest n

/-- Merges a range, and then what `merge` does, into a list. -/
def mergeWith (r : CodeRange) (merge : List CodeRange → List CodeRange) :
    List CodeRange → List CodeRange
  | [] => r :: merge []
  | s :: m => if r.lo ≤ s.lo then r :: merge (s :: m) else s :: mergeWith r merge m

/-- Merges two lists of ranges by where they begin. -/
def merge : List CodeRange → List CodeRange → List CodeRange
  | [], m => m
  | r :: l, m => mergeWith r (merge l) m

theorem any_contains_merge (l m : List CodeRange) (n : Nat) :
    (merge l m).any (·.contains n) = (l.any (·.contains n) || m.any (·.contains n)) := by
  induction l generalizing m with
  | nil => rfl
  | cons r l ih =>
    unfold merge
    induction m with
    | nil => rw [mergeWith, List.any_cons, ih]; simp
    | cons s m ihm =>
      unfold mergeWith
      split
      · rw [List.any_cons, ih, List.any_cons (a := r), Bool.or_assoc]
      · rw [List.any_cons, ihm, List.any_cons (a := s), Bool.or_left_comm]

/-- Puts a range before the first one that does not begin below it. -/
def insertRange (r : CodeRange) : List CodeRange → List CodeRange
  | [] => [r]
  | s :: rest => if r.lo ≤ s.lo then r :: s :: rest else s :: insertRange r rest

theorem any_contains_insertRange (r : CodeRange) (l : List CodeRange) (n : Nat) :
    (insertRange r l).any (·.contains n) = (r.contains n || l.any (·.contains n)) := by
  induction l with
  | nil => rfl
  | cons s rest ih =>
    unfold insertRange
    split
    · rfl
    · rw [List.any_cons, ih, List.any_cons, Bool.or_left_comm]

/-- The set of the characters in the given ranges. -/
def ofRanges (l : List CodeRange) : CharSet := ⟨coalesce (l.foldr insertRange [])⟩

@[simp] theorem hasCode_ofRanges (l : List CodeRange) (n : Nat) :
    (ofRanges l).hasCode n = l.any (·.contains n) := by
  rw [hasCode, ofRanges, any_contains_coalesce]
  induction l with
  | nil => rfl
  | cons r l ih => rw [List.foldr_cons, any_contains_insertRange, ih, List.any_cons]

/-! ### Operations -/

def empty : CharSet := ⟨[]⟩

def all : CharSet := ⟨[.full]⟩

def interval (lo hi : Char) : CharSet := ⟨[⟨lo.toNat, hi.toNat⟩]⟩

def singleton (c : Char) : CharSet := interval c c

def ofChars (cs : List Char) : CharSet := ofRanges (cs.map fun c => ⟨c.toNat, c.toNat⟩)

def union (s t : CharSet) : CharSet := ⟨coalesce (merge s.ranges t.ranges)⟩

def unions (ss : List CharSet) : CharSet := ss.foldr union empty

def minusRange (s : CharSet) (cut : CodeRange) : CharSet := ⟨s.ranges.flatMap (·.minus cut)⟩

def difference (s t : CharSet) : CharSet := t.ranges.foldl minusRange s

def inter (s t : CharSet) : CharSet := ⟨s.ranges.flatMap fun r => t.ranges.filterMap r.common?⟩

def symmDiff (s t : CharSet) : CharSet := (s.difference t).union (t.difference s)

def compl (s : CharSet) : CharSet := all.difference s

def isEmpty (s : CharSet) : Bool := s.ranges.isEmpty

/-- Holds no code point above the ASCII ones. -/
def isAscii (s : CharSet) : Bool := s.ranges.all fun r => r.hi < 128

/-! ### Membership -/

@[simp] theorem hasCode_interval (lo hi : Char) (n : Nat) :
    (interval lo hi).hasCode n = (lo.toNat ≤ n && n ≤ hi.toNat) := by
  simp [interval, hasCode, CodeRange.contains]

@[simp] theorem hasCode_union (s t : CharSet) (n : Nat) :
    (s.union t).hasCode n = (s.hasCode n || t.hasCode n) := by
  rw [union, hasCode, any_contains_coalesce, any_contains_merge]; rfl

@[simp] theorem hasCode_unions (ss : List CharSet) (n : Nat) :
    (unions ss).hasCode n = ss.any (·.hasCode n) := by
  induction ss with
  | nil => rfl
  | cons s ss ih => rw [List.any_cons, ← ih, ← hasCode_union]; rfl

theorem hasCode_minusRange (s : CharSet) (cut : CodeRange) (n : Nat) :
    (s.minusRange cut).hasCode n = (s.hasCode n && !cut.contains n) := by
  obtain ⟨l⟩ := s
  simp only [minusRange, hasCode]
  induction l with
  | nil => rfl
  | cons r l ih => grind [CodeRange.any_contains_minus]

@[simp] theorem hasCode_difference (s t : CharSet) (n : Nat) :
    (s.difference t).hasCode n = (s.hasCode n && !t.hasCode n) := by
  obtain ⟨l⟩ := t
  simp only [difference]
  induction l generalizing s with
  | nil => simp [hasCode]
  | cons r l ih =>
    rw [List.foldl_cons, ih, hasCode_minusRange]
    simp [hasCode, Bool.and_assoc]

@[simp] theorem hasCode_inter (s t : CharSet) (n : Nat) :
    (s.inter t).hasCode n = (s.hasCode n && t.hasCode n) := by
  obtain ⟨l⟩ := s
  simp only [inter, hasCode]
  induction l with
  | nil => rfl
  | cons r l ih =>
    rw [List.flatMap_cons, List.any_append, ih, CodeRange.any_contains_common?, List.any_cons,
      Bool.and_or_distrib_right]

@[simp] theorem hasCode_symmDiff (s t : CharSet) (n : Nat) :
    (s.symmDiff t).hasCode n = (s.hasCode n != t.hasCode n) := by
  simp only [symmDiff, hasCode_union, hasCode_difference]
  cases s.hasCode n <;> cases t.hasCode n <;> rfl

@[simp] theorem contains_compl (s : CharSet) (c : Char) : s.compl.contains c = !s.contains c := by
  have h : c.toNat ≤ CodeRange.maxCode := by
    have := c.valid
    simp only [UInt32.isValidChar, Nat.isValidChar] at this
    simp only [CodeRange.maxCode, Char.toNat]
    omega
  simp only [contains, compl, hasCode_difference]
  simp [all, hasCode, CodeRange.full, CodeRange.contains, h]

end CharSet

end RouteTemplate.Unicode
