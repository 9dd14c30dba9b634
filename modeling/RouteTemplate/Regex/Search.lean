import RouteTemplate.Regex.Program

/-!
The search for a match. Threads are tried in order of preference; where two of them come to the same
place of the program and of the text, the later one is dropped, for all that it could reach is tried
before. So no more threads are tried than there are such places.
-/

namespace RouteTemplate.Regex

/-- The slots marked on the way through a program and where, the last one first. -/
abbrev Marks := List (Nat × Nat)

def charBefore? (text : Array Char) : (position : Nat) → Option Char
  | 0 => none
  | i + 1 => text[i]?

/-- A place of the program and of the text, and the way there. -/
structure Thread where
  state : Nat
  position : Nat
  marks : Marks
  deriving DecidableEq, Repr, Inhabited

namespace Thread

/-- Where a thread goes on, the preferred way first. -/
def next (p : Program) (text : Array Char) (t : Thread) : List Thread :=
  match p[t.state]? with
  | none | some .accept => []
  | some (.read s state) =>
    if text[t.position]?.any s.contains then [⟨state, t.position + 1, t.marks⟩] else []
  | some (.check l state) =>
    if l.holds (charBefore? text t.position) text[t.position]? then [{ t with state }] else []
  | some (.mark slot state) => [⟨state, t.position, (slot, t.position) :: t.marks⟩]
  | some (.fork preferred other) => [{ t with state := preferred }, { t with state := other }]
  | some (.jump state) => [{ t with state }]

theorem length_next_le (p : Program) (text : Array Char) (t : Thread) :
    (t.next p text).length ≤ 2 := by
  unfold next
  repeat' split
  all_goals simp

end Thread

/-- The places that threads have come to: for each place of the text, the states as bits. -/
structure Visited where
  states : Nat
  rows : Array Nat

namespace Visited

def none (p : Program) (text : Array Char) : Visited := ⟨p.size, .replicate (text.size + 1) 0⟩

/-- Whether a thread has come to a place, or the place lies outside. -/
def has (v : Visited) (t : Thread) : Bool :=
  v.states ≤ t.state || v.rows[t.position]?.all (·.testBit t.state)

def add (v : Visited) (t : Thread) : Visited :=
  { v with rows := v.rows.modify t.position (· ||| (1 <<< t.state)) }

/-- How many of the first bits of a row are not set. -/
def unset (row : Nat) : (states : Nat) → Nat
  | 0 => 0
  | n + 1 => unset row n + if row.testBit n then 0 else 1

/-- How many places are left in rows. -/
def leftIn (states : Nat) : (rows : List Nat) → Nat
  | [] => 0
  | row :: rows => unset row states + leftIn states rows

/-- How many places are left. -/
def left (v : Visited) : Nat := leftIn v.states v.rows.toList

theorem testBit_or_shift (row s n : Nat) :
    (row ||| (1 <<< s)).testBit n = (row.testBit n || decide (s = n)) := by
  rw [Nat.testBit_or, Nat.one_shiftLeft, Nat.testBit_two_pow]

theorem unset_or_of_le {row s n : Nat} (h : n ≤ s) : unset (row ||| (1 <<< s)) n = unset row n := by
  induction n with
  | zero => rfl
  | succ n ih =>
    have hne : s ≠ n := by omega
    rw [unset, unset, ih (by omega), testBit_or_shift]
    simp [hne]

theorem unset_or {row s n : Nat} (h : s < n) (hbit : row.testBit s = false) :
    unset (row ||| (1 <<< s)) n + 1 = unset row n := by
  induction n with
  | zero => omega
  | succ n ih =>
    rw [unset, unset, testBit_or_shift]
    by_cases hn : s = n
    · subst hn
      rw [unset_or_of_le (Nat.le_refl s)]
      simp [hbit]
    · have := ih (by omega)
      simp only [hn, decide_false, Bool.or_false]
      omega

theorem leftIn_modify {states s i : Nat} {rows : List Nat} {row : Nat} (hs : s < states)
    (hrow : rows[i]? = some row) (hbit : row.testBit s = false) :
    leftIn states (rows.modify i (· ||| (1 <<< s))) + 1 = leftIn states rows := by
  induction rows generalizing i with
  | nil => simp at hrow
  | cons r rows ih =>
    cases i with
    | zero =>
      simp only [List.getElem?_cons_zero, Option.some.injEq] at hrow
      subst hrow
      have := unset_or hs hbit
      simp only [List.modify_zero_cons, leftIn]
      omega
    | succ i =>
      have := ih (i := i) (by simpa using hrow)
      simp only [List.modify_succ_cons, leftIn]
      omega

theorem left_add {v : Visited} {t : Thread} (h : v.has t = false) :
    (v.add t).left + 1 = v.left := by
  simp only [has, Bool.or_eq_false_iff, decide_eq_false_iff_not, Nat.not_le] at h
  obtain ⟨hs, hrow⟩ := h
  cases hget : v.rows[t.position]? with
  | none => simp [hget] at hrow
  | some row =>
    simp only [hget, Option.all_some] at hrow
    simp only [left, add, Array.toList_modify]
    exact leftIn_modify hs (by simpa using hget) hrow

end Visited

namespace Program

def accepts (p : Program) (t : Thread) : Bool := p[t.state]? = some .accept

/-- The marks of the first thread that gets to the end of the program. -/
def run (p : Program) (text : Array Char) (seen : Visited) : List Thread → Option Marks
  | [] => none
  | t :: threads =>
    match _h : seen.has t with
    | true => run p text seen threads
    | false =>
      if p.accepts t then some t.marks
      else run p text (seen.add t) (t.next p text ++ threads)
  termination_by threads => 2 * seen.left + threads.length
  decreasing_by
    · simp
    · have := Visited.left_add _h
      have := t.length_next_le p text
      simp
      omega

/-- The marks of the match that begins furthest to the left and is preferred of all that begin
there. -/
def search (p : Program) (text : Array Char) : Option Marks :=
  run p text (.none p text) ((List.range (text.size + 1)).map (⟨0, ·, []⟩))

end Program

end RouteTemplate.Regex
