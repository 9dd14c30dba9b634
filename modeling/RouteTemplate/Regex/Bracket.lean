import RouteTemplate.Regex.Escape

/-!
Bracketed classes such as `[^a-z&&[^x]]`: items, ranges, nested classes and operations between
them, read with a stack of the brackets that are still open.
-/

namespace RouteTemplate.Regex

namespace AsciiClass

def ofName? (name : List Char) : Option AsciiClass :=
  match String.ofList name with
  | "alnum" => some .alnum
  | "alpha" => some .alpha
  | "ascii" => some .ascii
  | "blank" => some .blank
  | "cntrl" => some .cntrl
  | "digit" => some .digit
  | "graph" => some .graph
  | "lower" => some .lower
  | "print" => some .print
  | "punct" => some .punct
  | "space" => some .space
  | "upper" => some .upper
  | "word" => some .word
  | "xdigit" => some .xdigit
  | _ => none

/-- Reads what follows the colon of a class such as `[:alpha:]`. -/
def readName? (s : List Char) : Option (AsciiClass × List Char) :=
  match s.dropWhile (· ≠ ':') with
  | ':' :: ']' :: rest => (ofName? (s.takeWhile (· ≠ ':'))).map (·, rest)
  | _ => none

/-- Reads what follows the bracket of a class such as `[:alpha:]` or `[:^alpha:]`; anything else is
no such class and begins a nested one. -/
def read? : List Char → Option (ClassTree × List Char)
  | ':' :: '^' :: r => (readName? r).map fun (cls, rest) => (.ascii cls true, rest)
  | ':' :: r => (readName? r).map fun (cls, rest) => (.ascii cls false, rest)
  | _ => none

theorem length_of_readName? {s rest : List Char} {cls : AsciiClass}
    (h : readName? s = some (cls, rest)) : rest.length ≤ s.length := by
  unfold readName? at h
  split at h
  · next rest' hd =>
    obtain ⟨_, -, h2⟩ := Option.map_eq_some_iff.1 h
    simp only [Prod.mk.injEq] at h2
    obtain ⟨-, rfl⟩ := h2
    have hle := (List.dropWhile_sublist (· ≠ ':') (l := s)).length_le
    simp only [hd, List.length_cons] at hle
    omega
  · simp at h

theorem length_of_read? {s rest : List Char} {t : ClassTree} (h : read? s = some (t, rest)) :
    rest.length < s.length := by
  unfold read? at h
  split at h
  · obtain ⟨_, h1, h2⟩ := Option.map_eq_some_iff.1 h
    have := length_of_readName? h1
    simp only [Prod.mk.injEq] at h2
    obtain ⟨-, rfl⟩ := h2
    simp only [List.length_cons]; omega
  · obtain ⟨_, h1, h2⟩ := Option.map_eq_some_iff.1 h
    have := length_of_readName? h1
    simp only [Prod.mk.injEq] at h2
    obtain ⟨-, rfl⟩ := h2
    simp only [List.length_cons]; omega
  · simp at h

end AsciiClass

/-! ### Items -/

/-- The first character that is no blank, where one `#` counts as a blank too. -/
def firstPastBlanks (sawComment : Bool) : List Char → Option Char
  | [] => none
  | c :: r =>
    if Unicode.isBlank c then firstPastBlanks sawComment r
    else if !sawComment && c = '#' then firstPastBlanks true r
    else some c

/-- The character that decides whether a hyphen before it makes a range. -/
def afterHyphen? (ignore : Bool) (s : List Char) : Option Char :=
  if ignore then (firstPastBlanks false s).or s.head? else s.head?

/-- Reads one end of a range, or an item that is no range. -/
def readClassAtom (ignore : Bool) : List Char → Reading Atom
  | [] => .error .unclosedClass
  | c :: r => if c = '\\' then readEscape ignore r else .ok (.literal ⟨c, false⟩, r)

def Atom.classItem : Atom → Except SyntaxError ClassTree
  | .literal l => .ok (.literal l)
  | .short cls negated => .ok (.short cls negated)
  | .property query negated => .ok (.property query negated)
  | _ => .error .badClassItem

/-- The class of the characters between two atoms, which must be literals in order. -/
def Atom.rangeTo : Atom → Atom → Except SyntaxError ClassTree
  | .literal lo, .literal hi =>
    if lo.char ≤ hi.char then .ok (.range lo hi) else .error .badClassRange
  | _, _ => .error .badClassRange

/-- Reads an item of a class: a range, or what stands alone. -/
def readClassItem (ignore : Bool) (s : List Char) : Reading ClassTree :=
  match readClassAtom ignore s with
  | .error e => .error e
  | .ok (lo, r) =>
    match skip ignore r with
    | [] => .error .unclosedClass
    | c :: r' =>
      if c ≠ '-' ∨ afterHyphen? ignore r' = some ']' ∨ afterHyphen? ignore r' = some '-' then
        (lo.classItem).map fun item => (item, c :: r')
      else
        match skip ignore r' with
        | [] => .error .unclosedClass
        | s' =>
          match readClassAtom ignore s' with
          | .error e => .error e
          | .ok (hi, rest) => (lo.rangeTo hi).map fun item => (item, rest)

theorem length_of_readClassAtom {ignore : Bool} {s r : List Char} {a : Atom}
    (h : readClassAtom ignore s = .ok (a, r)) : r.length < s.length := by
  unfold readClassAtom at h
  split at h
  · simp at h
  · split at h
    · have := length_of_readEscape h
      simp only [List.length_cons]; omega
    · simp only [Except.ok.injEq, Prod.mk.injEq] at h
      obtain ⟨-, rfl⟩ := h; simp

theorem eq_ok_of_map_eq_ok {ε α β : Type} {f : α → β} {x : Except ε α} {y : β}
    (h : x.map f = .ok y) : ∃ a, x = .ok a ∧ f a = y := by
  cases x with
  | error e => simp [Except.map] at h
  | ok a => exact ⟨a, rfl, by simpa [Except.map] using h⟩

theorem eq_ok_of_bind_eq_ok {ε α β : Type} {x : Except ε α} {f : α → Except ε β} {y : β}
    (h : (x >>= f) = .ok y) : ∃ a, x = .ok a ∧ f a = .ok y := by
  cases x with
  | error e => cases h
  | ok a => exact ⟨a, rfl, h⟩

theorem length_of_readClassItem {ignore : Bool} {s r : List Char} {t : ClassTree}
    (h : readClassItem ignore s = .ok (t, r)) : r.length < s.length := by
  unfold readClassItem at h
  split at h
  · simp at h
  · next lo r1 h1 =>
    have := length_of_readClassAtom h1
    have hs1 := length_skip_le ignore r1
    split at h
    · simp at h
    · next c r2 h2 =>
      rw [h2, List.length_cons] at hs1
      have hs2 := length_skip_le ignore r2
      split at h
      · obtain ⟨_, -, h⟩ := eq_ok_of_map_eq_ok h
        simp only [Prod.mk.injEq] at h
        obtain ⟨-, rfl⟩ := h
        simp only [List.length_cons]; omega
      · split at h
        · simp at h
        · split at h
          · simp at h
          · next hi rest h3 =>
            have := length_of_readClassAtom h3
            obtain ⟨_, -, h⟩ := eq_ok_of_map_eq_ok h
            simp only [Prod.mk.injEq] at h
            obtain ⟨-, rfl⟩ := h
            omega

/-! ### Brackets -/

/-- A bracket that is not closed yet: what stands before the last operation in it, if there is one,
and the items since, last first. -/
structure OpenBracket where
  negated : Bool
  left : Option (SetOp × ClassTree)
  items : List ClassTree
  deriving Repr, Inhabited

namespace OpenBracket

def add (b : OpenBracket) (item : ClassTree) : OpenBracket := { b with items := item :: b.items }

/-- All that the bracket holds so far. -/
def inside (b : OpenBracket) : ClassTree :=
  let right := ClassTree.ofItems b.items.reverse
  match b.left with
  | none => right
  | some (op, left) => .operation op left right

def operate (b : OpenBracket) (op : SetOp) : OpenBracket :=
  { b with left := some (op, b.inside), items := [] }

end OpenBracket

/-- Reads the hyphens that a class begins with. -/
def readHyphens (ignore : Bool) (items : List ClassTree) (s : List Char) :
    List ClassTree × List Char :=
  match s with
  | '-' :: r => readHyphens ignore (.literal ⟨'-', false⟩ :: items) (skip ignore r)
  | s => (items, s)
  termination_by s.length
  decreasing_by have := length_skip_le ignore r; simp only [List.length_cons]; omega

/-- Reads the `^` of a class of all other characters, if there is one. -/
def readCaret (ignore : Bool) (s : List Char) : Bool × List Char :=
  match skip ignore s with
  | '^' :: r => (true, skip ignore r)
  | s => (false, s)

/-- Reads a `]` that comes first in a class and so is a literal. -/
def readFirstClose (ignore : Bool) (items : List ClassTree) (s : List Char) :
    List ClassTree × List Char :=
  match items, s with
  | [], ']' :: r => ([.literal ⟨']', false⟩], skip ignore r)
  | items, s => (items, s)

/-- Reads what follows an opening bracket: a `^`, hyphens, and a `]` if it comes first. -/
def openBracket (ignore : Bool) (s : List Char) : Reading OpenBracket :=
  let caret := readCaret ignore s
  let hyphens := readHyphens ignore [] caret.2
  let first := readFirstClose ignore hyphens.1 hyphens.2
  if first.2.isEmpty then .error .unclosedClass else .ok (⟨caret.1, none, first.1⟩, first.2)

theorem length_readHyphens_le (ignore : Bool) (items : List ClassTree) (s : List Char) :
    (readHyphens ignore items s).2.length ≤ s.length := by
  fun_induction readHyphens ignore items s with
  | case1 items r ih => have := length_skip_le ignore r; simp only [List.length_cons]; omega
  | case2 => simp

theorem length_readCaret_le (ignore : Bool) (s : List Char) :
    (readCaret ignore s).2.length ≤ s.length := by
  have hs := length_skip_le ignore s
  unfold readCaret
  split
  · next r hr =>
    have := length_skip_le ignore r
    rw [hr, List.length_cons] at hs
    simp only; omega
  · exact hs

theorem length_readFirstClose_le (ignore : Bool) (items : List ClassTree) (s : List Char) :
    (readFirstClose ignore items s).2.length ≤ s.length := by
  unfold readFirstClose
  split
  · next r => have := length_skip_le ignore r; simp only [List.length_cons]; omega
  · exact Nat.le_refl _

theorem length_of_openBracket {ignore : Bool} {s r : List Char} {b : OpenBracket}
    (h : openBracket ignore s = .ok (b, r)) : r.length ≤ s.length := by
  have h1 := length_readCaret_le ignore s
  have h2 := length_readHyphens_le ignore [] (readCaret ignore s).2
  have h3 := length_readFirstClose_le ignore (readHyphens ignore [] (readCaret ignore s).2).1
    (readHyphens ignore [] (readCaret ignore s).2).2
  unfold openBracket at h
  simp only at h
  split at h
  · simp at h
  · simp only [Except.ok.injEq, Prod.mk.injEq] at h
    obtain ⟨-, rfl⟩ := h
    omega

/-- Reads on inside the bracket `b`, which lies in the brackets `outer`, up to the end of the
outermost one. -/
def readBrackets (ignore : Bool) (b : OpenBracket) (outer : List OpenBracket) (s : List Char) :
    Reading OpenBracket :=
  match _hs : skip ignore s with
  | [] => .error .unclosedClass
  | '&' :: '&' :: r => readBrackets ignore (b.operate .inter) outer r
  | '-' :: '-' :: r => readBrackets ignore (b.operate .difference) outer r
  | '~' :: '~' :: r => readBrackets ignore (b.operate .symmDiff) outer r
  | ']' :: r =>
    match outer with
    | [] => .ok (b, r)
    | o :: outer => readBrackets ignore (o.add (.bracketed b.negated b.inside)) outer r
  | '[' :: r =>
    match _hr : AsciiClass.read? r with
    | some (item, rest) => readBrackets ignore (b.add item) outer rest
    | none =>
      match _ho : openBracket ignore r with
      | .ok (inner, rest) => readBrackets ignore inner (b :: outer) rest
      | .error e => .error e
  | c :: r =>
    match _hi : readClassItem ignore (c :: r) with
    | .ok (item, rest) => readBrackets ignore (b.add item) outer rest
    | .error e => .error e
  termination_by s.length
  decreasing_by
    all_goals
      have hle := length_skip_le ignore s
      rw [_hs] at hle
      simp only [List.length_cons] at hle
      first
        | omega
        | have := AsciiClass.length_of_read? _hr
          omega
        | have := length_of_openBracket _ho
          omega
        | have := length_of_readClassItem _hi
          simp only [List.length_cons] at this
          omega

/-- Reads a class, from the character after its opening bracket on. -/
def readBracket (ignore : Bool) (s : List Char) : Reading Atom :=
  match openBracket ignore s with
  | .error e => .error e
  | .ok (b, r) =>
    (readBrackets ignore b [] r).map fun (b, rest) => (.bracket b.negated b.inside, rest)

theorem length_of_readBrackets {ignore : Bool} {a b : OpenBracket} {outer : List OpenBracket}
    {s r : List Char} (h : readBrackets ignore b outer s = .ok (a, r)) : r.length < s.length := by
  fun_induction readBrackets ignore b outer s with
  | case1 => simp at h
  | case2 b outer s r' hs ih | case3 b outer s r' hs ih | case4 b outer s r' hs ih =>
    have := length_skip_le ignore s
    have := ih h
    simp only [hs, List.length_cons] at *; omega
  | case5 b s r' hs =>
    have := length_skip_le ignore s
    simp only [Except.ok.injEq, Prod.mk.injEq] at h
    obtain ⟨-, rfl⟩ := h
    simp only [hs, List.length_cons] at this; omega
  | case6 b s r' hs o outer ih =>
    have := length_skip_le ignore s
    have := ih h
    simp only [hs, List.length_cons] at *; omega
  | case7 b outer s r' hs item rest hr ih =>
    have := length_skip_le ignore s
    have := AsciiClass.length_of_read? hr
    have := ih h
    simp only [hs, List.length_cons] at *; omega
  | case8 b outer s r' hs hr inner rest ho ih =>
    have := length_skip_le ignore s
    have := length_of_openBracket ho
    have := ih h
    simp only [hs, List.length_cons] at *; omega
  | case9 => simp at h
  | case10 b outer s c r' _ _ _ _ _ hs item rest hi ih =>
    have := length_skip_le ignore s
    have := length_of_readClassItem hi
    have := ih h
    simp only [hs, List.length_cons] at *; omega
  | case11 => simp at h

theorem length_of_readBracket {ignore : Bool} {s r : List Char} {a : Atom}
    (h : readBracket ignore s = .ok (a, r)) : r.length < s.length := by
  unfold readBracket at h
  split at h
  · simp at h
  · next b s' ho =>
    have := length_of_openBracket ho
    obtain ⟨p, h1, h⟩ := eq_ok_of_map_eq_ok h
    have := length_of_readBrackets (a := p.1) (r := p.2) h1
    simp only [Prod.mk.injEq] at h
    obtain ⟨-, rfl⟩ := h
    omega

end RouteTemplate.Regex
