import RouteTemplate.Regex.Tree
import RouteTemplate.Text.Digits

/-!
What a backslash begins: a literal, a class or an assertion. Every reader takes the text that is
left and gives back what remains of it, which is never longer.
-/

namespace RouteTemplate.Regex

/-- What a reader found and the text after it, or what was wrong. -/
abbrev Reading (α : Type) := Except SyntaxError (α × List Char)

/-! ### Blanks -/

/-- Drops blanks and comments, which run from `#` to the end of the line. -/
def skipBlanks (inComment : Bool) : List Char → List Char
  | [] => []
  | c :: r =>
    if inComment then skipBlanks (c != '\n') r
    else if Unicode.isBlank c then skipBlanks false r
    else if c = '#' then skipBlanks true r
    else c :: r

theorem length_skipBlanks_le (inComment : Bool) (s : List Char) :
    (skipBlanks inComment s).length ≤ s.length := by
  fun_induction skipBlanks inComment s <;> simp_all <;> omega

/-- Drops blanks and comments if they are to be ignored. -/
def skip (ignore : Bool) (s : List Char) : List Char := if ignore then skipBlanks false s else s

@[simp] theorem skip_false (s : List Char) : skip false s = s := rfl

theorem length_skip_le (ignore : Bool) (s : List Char) : (skip ignore s).length ≤ s.length := by
  unfold skip; split
  · exact length_skipBlanks_le ..
  · exact Nat.le_refl _

theorem length_lt_of_skip_eq_cons {ignore : Bool} {s : List Char} {c : Char} {r : List Char}
    (h : skip ignore s = c :: r) : r.length < s.length := by
  have := length_skip_le ignore s
  rw [h, List.length_cons] at this; omega

/-! ### Code points -/

/-- Reads exactly `k` hexadecimal digits. -/
def readHexDigits (ignore : Bool) : (k : Nat) → (value : Nat) → List Char → Reading Nat
  | 0, value, s => .ok (value, s)
  | k + 1, value, c :: r =>
    match Text.hexDigit? c with
    | some d => readHexDigits ignore k (16 * value + d) (skip ignore r)
    | none => .error .badEscape
  | _ + 1, _, [] => .error .badEscape

/-- Reads hexadecimal digits up to a closing brace; there must be at least one. -/
def readHexToBrace (ignore : Bool) (value? : Option Nat) (s : List Char) : Reading Nat :=
  match _h : skip ignore s with
  | [] => .error .badEscape
  | c :: r =>
    if c = '}' then
      match value? with
      | some value => .ok (value, skip ignore r)
      | none => .error .badEscape
    else
      match Text.hexDigit? c with
      | some d => readHexToBrace ignore (some (16 * value?.getD 0 + d)) r
      | none => .error .badEscape
  termination_by s.length
  decreasing_by exact length_lt_of_skip_eq_cons _h

/-- The character of a code point that was read. -/
def literalOfCode (byteEscape : Bool) : Nat × List Char → Reading Atom
  | (n, r) =>
    match Text.charOfCode? n with
    | some c => .ok (.literal ⟨c, byteEscape⟩, r)
    | none => .error .badCodePoint

/-- Reads a code point of `digits` hexadecimal digits or between braces. -/
def readCodePoint (ignore : Bool) (digits : Nat) (s : List Char) : Reading Atom :=
  match skip ignore s with
  | '{' :: r => (readHexToBrace ignore none r).bind (literalOfCode false)
  | s => (readHexDigits ignore digits 0 s).bind (literalOfCode (digits == 2))

/-! ### Properties -/

/-- The text before and after the first occurrence of `sep`. -/
def cutAt (sep : List Char) : List Char → Option (List Char × List Char)
  | [] => if sep.isEmpty then some ([], []) else none
  | c :: r =>
    if sep.isPrefixOf (c :: r) then some ([], (c :: r).drop sep.length)
    else (cutAt sep r).map fun p => (c :: p.1, p.2)

/-- What the text between the braces of a property asks for, and whether it asks for the rest. -/
def propertyQuery (s : List Char) : Unicode.PropertyQuery × Bool :=
  match cutAt ['!', '='] s with
  | some (name, value) => (.valued name value, true)
  | none =>
    match (cutAt [':'] s).or (cutAt ['='] s) with
    | some (name, value) => (.valued name value, false)
    | none => (.named s, false)

def readNameToBrace (ignore : Bool) (name : List Char) (s : List Char) : Reading (List Char) :=
  match _h : skip ignore s with
  | [] => .error .badProperty
  | c :: r => if c = '}' then .ok (name.reverse, r) else readNameToBrace ignore (c :: name) r
  termination_by s.length
  decreasing_by exact length_lt_of_skip_eq_cons _h

/-- Reads a property: one letter, or a name between braces. -/
def readProperty (ignore negated : Bool) (s : List Char) : Reading Atom :=
  match skip ignore s with
  | [] => .error .badProperty
  | '{' :: r =>
    (readNameToBrace ignore [] r).map fun (name, r) =>
      let (query, others) := propertyQuery name
      (.property query (negated != others), r)
  | c :: r =>
    if c = '\\' then .error .badProperty
    else .ok (.property (.named [c]) negated, skip ignore r)

/-! ### Word boundaries -/

def isPlaceNameChar (c : Char) : Bool := c.isAlpha || c = '-'

def readPlaceName (ignore : Bool) (name : List Char) (s : List Char) :
    List Char × List Char :=
  match s with
  | [] => (name.reverse, [])
  | c :: r =>
    if isPlaceNameChar c then readPlaceName ignore (c :: name) (skip ignore r)
    else (name.reverse, c :: r)
  termination_by s.length
  decreasing_by have := length_skip_le ignore r; simp only [List.length_cons]; omega

/-- Reads what may follow `\b`: the name of a place between braces. Braces that begin otherwise are
left alone, as they may be a count. -/
def readWordPlace (ignore : Bool) (s : List Char) : Reading Atom :=
  match s with
  | '{' :: r =>
    match skip ignore r with
    | [] => .error .badRepetition
    | c :: r' =>
      if isPlaceNameChar c then
        match readPlaceName ignore [] (c :: r') with
        | (name, '}' :: rest) =>
          match String.ofList name with
          | "start" => .ok (.assertion (.word .start), rest)
          | "end" => .ok (.assertion (.word .stop), rest)
          | "start-half" => .ok (.assertion (.word .startHalf), rest)
          | "end-half" => .ok (.assertion (.word .stopHalf), rest)
          | _ => .error .badEscape
        | _ => .error .badEscape
      else .ok (.assertion (.word .boundary), s)
  | _ => .ok (.assertion (.word .boundary), s)

/-! ### Escapes -/

/-- A character other than a letter, a digit or an angle bracket stands for itself after a
backslash, if it is an ASCII one. -/
def isEscapable (c : Char) : Bool :=
  c.toNat < 128 && !(c.isAlphanum || c = '<' || c = '>')

/-- Reads what a backslash begins, from the character after it on. -/
def readEscape (ignore : Bool) : List Char → Reading Atom
  | [] => .error .badEscape
  | c :: r =>
    match c with
    | 'x' => readCodePoint ignore 2 r
    | 'u' => readCodePoint ignore 4 r
    | 'U' => readCodePoint ignore 8 r
    | 'p' => readProperty ignore false r
    | 'P' => readProperty ignore true r
    | 'd' => .ok (.short .digit false, r)
    | 'D' => .ok (.short .digit true, r)
    | 's' => .ok (.short .space false, r)
    | 'S' => .ok (.short .space true, r)
    | 'w' => .ok (.short .word false, r)
    | 'W' => .ok (.short .word true, r)
    | 'a' => .ok (.literal ⟨'\x07', false⟩, r)
    | 'f' => .ok (.literal ⟨'\x0C', false⟩, r)
    | 't' => .ok (.literal ⟨'\t', false⟩, r)
    | 'n' => .ok (.literal ⟨'\n', false⟩, r)
    | 'r' => .ok (.literal ⟨'\r', false⟩, r)
    | 'v' => .ok (.literal ⟨'\x0B', false⟩, r)
    | 'A' => .ok (.assertion .textStart, r)
    | 'z' => .ok (.assertion .textEnd, r)
    | 'b' => readWordPlace ignore r
    | 'B' => .ok (.assertion (.word .notBoundary), r)
    | '<' => .ok (.assertion (.word .start), r)
    | '>' => .ok (.assertion (.word .stop), r)
    | _ => if isEscapable c then .ok (.literal ⟨c, false⟩, r) else .error .badEscape

/-! ### What remains -/

theorem length_of_readHexDigits {ignore : Bool} {k v n : Nat} {s r : List Char}
    (h : readHexDigits ignore k v s = .ok (n, r)) : r.length ≤ s.length := by
  fun_induction readHexDigits ignore k v s with
  | case1 => simp_all
  | case2 k v c s d hd ih =>
    have := length_skip_le ignore s
    have := ih h
    simp only [List.length_cons]; omega
  | case3 => simp at h
  | case4 => simp at h

theorem length_of_readHexToBrace {ignore : Bool} {v : Option Nat} {n : Nat} {s r : List Char}
    (h : readHexToBrace ignore v s = .ok (n, r)) : r.length ≤ s.length := by
  fun_induction readHexToBrace ignore v s with
  | case1 => simp at h
  | case2 s r' value h' =>
    have := length_lt_of_skip_eq_cons h'
    have := length_skip_le ignore r'
    simp only [Except.ok.injEq, Prod.mk.injEq] at h
    obtain ⟨-, rfl⟩ := h; omega
  | case3 => simp at h
  | case4 v s c r' h' hc d hd ih =>
    have := length_lt_of_skip_eq_cons h'
    have := ih h; omega
  | case5 => simp at h

theorem length_of_literalOfCode {b : Bool} {p : Nat × List Char} {a : Atom} {r : List Char}
    (h : literalOfCode b p = .ok (a, r)) : r = p.2 := by
  obtain ⟨n, r'⟩ := p
  unfold literalOfCode at h
  cases h1 : Text.charOfCode? n <;> simp_all

theorem length_of_readCodePoint {ignore : Bool} {digits : Nat} {s r : List Char} {a : Atom}
    (h : readCodePoint ignore digits s = .ok (a, r)) : r.length ≤ s.length := by
  have hs := length_skip_le ignore s
  unfold readCodePoint at h
  split at h
  · next r' hr =>
    rw [hr, List.length_cons] at hs
    cases h1 : readHexToBrace ignore none r' with
    | error e => simp [h1, Except.bind] at h
    | ok p =>
      simp only [h1, Except.bind] at h
      have := length_of_readHexToBrace h1
      rw [length_of_literalOfCode h]; omega
  · cases h1 : readHexDigits ignore digits 0 (skip ignore s) with
    | error e => simp [h1, Except.bind] at h
    | ok p =>
      simp only [h1, Except.bind] at h
      have := length_of_readHexDigits h1
      rw [length_of_literalOfCode h]; omega

theorem length_of_readNameToBrace {ignore : Bool} {name name' : List Char} {s r : List Char}
    (h : readNameToBrace ignore name s = .ok (name', r)) : r.length ≤ s.length := by
  fun_induction readNameToBrace ignore name s with
  | case1 => simp at h
  | case2 name s r' h' =>
    have := length_lt_of_skip_eq_cons h'
    simp only [Except.ok.injEq, Prod.mk.injEq] at h
    obtain ⟨-, rfl⟩ := h; omega
  | case3 name s c r' h' hc ih =>
    have := length_lt_of_skip_eq_cons h'
    have := ih h; omega

theorem length_of_readProperty {ignore negated : Bool} {s r : List Char} {a : Atom}
    (h : readProperty ignore negated s = .ok (a, r)) : r.length ≤ s.length := by
  have hs := length_skip_le ignore s
  unfold readProperty at h
  split at h
  · simp at h
  · next r' hr =>
    rw [hr, List.length_cons] at hs
    cases h1 : readNameToBrace ignore [] r' with
    | error e => simp [h1, Except.map] at h
    | ok p =>
      have := length_of_readNameToBrace h1
      simp only [h1, Except.map, Except.ok.injEq, Prod.mk.injEq] at h
      obtain ⟨-, rfl⟩ := h; omega
  · next c r' _ hr =>
    rw [hr, List.length_cons] at hs
    have := length_skip_le ignore r'
    split at h
    · simp at h
    · simp only [Except.ok.injEq, Prod.mk.injEq] at h
      obtain ⟨-, rfl⟩ := h; omega

theorem length_readPlaceName_le (ignore : Bool) (name s : List Char) :
    (readPlaceName ignore name s).2.length ≤ s.length := by
  fun_induction readPlaceName ignore name s with
  | case1 => simp
  | case2 name c r hc ih => have := length_skip_le ignore r; simp only [List.length_cons]; omega
  | case3 => simp

theorem length_of_readWordPlace {ignore : Bool} {s r : List Char} {a : Atom}
    (h : readWordPlace ignore s = .ok (a, r)) : r.length ≤ s.length := by
  unfold readWordPlace at h
  split at h
  · next r' =>
    have hs := length_skip_le ignore r'
    split at h
    · simp at h
    · next c r'' hr =>
      rw [hr, List.length_cons] at hs
      split at h
      · split at h
        · next name rest hp =>
          have := length_readPlaceName_le ignore [] (c :: r'')
          rw [hp] at this
          simp only [List.length_cons] at this ⊢
          split at h <;> simp only [Except.ok.injEq, Prod.mk.injEq, reduceCtorEq] at h <;>
            (obtain ⟨-, rfl⟩ := h; omega)
        · simp at h
      · simp only [Except.ok.injEq, Prod.mk.injEq] at h
        obtain ⟨-, rfl⟩ := h; exact Nat.le_refl _
  · simp only [Except.ok.injEq, Prod.mk.injEq] at h
    obtain ⟨-, rfl⟩ := h; exact Nat.le_refl _

theorem length_of_readEscape {ignore : Bool} {s r : List Char} {a : Atom}
    (h : readEscape ignore s = .ok (a, r)) : r.length < s.length := by
  unfold readEscape at h
  split at h
  · simp at h
  · next c s' =>
    rw [List.length_cons, Nat.lt_succ_iff]
    split at h
    case h_1 | h_2 | h_3 => exact length_of_readCodePoint h
    case h_4 | h_5 => exact length_of_readProperty h
    case h_20 => exact length_of_readWordPlace h
    case h_24 =>
      split at h
      · simp only [Except.ok.injEq, Prod.mk.injEq] at h
        obtain ⟨-, rfl⟩ := h; exact Nat.le_refl _
      · simp at h
    all_goals
      simp only [Except.ok.injEq, Prod.mk.injEq] at h
      obtain ⟨-, rfl⟩ := h; exact Nat.le_refl _

end RouteTemplate.Regex
