import RouteTemplate.Text.Digits

/-!
Strings of a TOML document: on one line or on several, with escapes in quotation marks and without
them in apostrophes.
-/

namespace RouteTemplate.Toml

/-! ### Blanks and line ends -/

/-- Blanks within a line. -/
def isGap (c : Char) : Bool := c = ' ' || c = '\t'

def dropGap (s : List Char) : List Char := s.dropWhile isGap

/-- Reads the end of a line. -/
def newline? : List Char → Option (List Char)
  | '\n' :: r => some r
  | '\r' :: '\n' :: r => some r
  | _ => none

/-- Drops blanks and line ends. -/
def dropSpace : List Char → List Char
  | ' ' :: r | '\t' :: r | '\n' :: r | '\r' :: '\n' :: r => dropSpace r
  | s => s

theorem length_dropSpace_le (s : List Char) : (dropSpace s).length ≤ s.length := by
  fun_induction dropSpace s <;> simp_all <;> omega

/-- Whether a character may stand for itself within a line: no control character but the tab. -/
def isPlain (c : Char) : Bool := c = '\t' || (' ' ≤ c && c ≠ '\x7f')

/-! ### Escapes -/

/-- The character with a code point in exactly `n` hexadecimal digits. -/
def codeDigits? (n : Nat) (s : List Char) : Option (Char × List Char) :=
  let digits := s.take n
  if digits.length = n && digits.all (Text.hexDigit? · |>.isSome) then
    (Text.charOfCode? (Text.ofDigits 16 digits)).map (·, s.drop n)
  else none

theorem length_of_codeDigits? {n : Nat} {s rest : List Char} {c : Char}
    (h : codeDigits? n s = some (c, rest)) : rest.length ≤ s.length := by
  simp only [codeDigits?] at h
  split at h
  · obtain ⟨d, -, heq⟩ := Option.map_eq_some_iff.1 h
    simp only [Prod.mk.injEq] at heq
    simp [← heq.2]
  · simp at h

/-- Reads what follows the backslash of an escape. -/
def escape? : List Char → Option (Char × List Char)
  | 'b' :: r => some ('\x08', r)
  | 't' :: r => some ('\t', r)
  | 'n' :: r => some ('\n', r)
  | 'f' :: r => some ('\x0c', r)
  | 'r' :: r => some ('\r', r)
  | '"' :: r => some ('"', r)
  | '\\' :: r => some ('\\', r)
  | 'u' :: r => codeDigits? 4 r
  | 'U' :: r => codeDigits? 8 r
  | _ => none

theorem length_of_escape? {s rest : List Char} {c : Char} (h : escape? s = some (c, rest)) :
    rest.length ≤ s.length := by
  unfold escape? at h
  split at h
  case h_8 | h_9 =>
    have := length_of_codeDigits? h
    simp
    omega
  all_goals simp at h
  all_goals simp [← h.2]

/-- Reads what follows a backslash at the end of a line: all blanks and line ends up to the next
character. -/
def joinLines? (s : List Char) : Option (List Char) := (newline? (dropGap s)).map dropSpace

theorem length_of_joinLines? {s rest : List Char} (h : joinLines? s = some rest) :
    rest.length ≤ s.length := by
  obtain ⟨r, hr, rfl⟩ := Option.map_eq_some_iff.1 h
  have hgap : (dropGap s).length ≤ s.length := (List.dropWhile_suffix _).length_le
  have := length_dropSpace_le r
  generalize dropGap s = t at hr hgap
  unfold newline? at hr
  grind

/-! ### Strings -/

/-- Reads up to the closing quotation mark. -/
def basic (s : List Char) : Option (List Char × List Char) :=
  match s with
  | [] => none
  | '"' :: r => some ([], r)
  | '\\' :: r =>
    match _h : escape? r with
    | some (c, r) => (basic r).map fun (s, rest) => (c :: s, rest)
    | none => none
  | c :: r => if isPlain c then (basic r).map fun (s, rest) => (c :: s, rest) else none
  termination_by s.length
  decreasing_by
    · have := length_of_escape? _h
      simp
      omega
    · simp

/-- Reads up to the closing apostrophe. -/
def literal : List Char → Option (List Char × List Char)
  | [] => none
  | '\'' :: r => some ([], r)
  | c :: r => if isPlain c then (literal r).map fun (s, rest) => (c :: s, rest) else none

/-- Reads up to the three closing quotation marks. One or two may stand before anything else, and
before the three. -/
def multilineBasic (s : List Char) : Option (List Char × List Char) :=
  match s with
  | [] => none
  | '"' :: '"' :: '"' :: '"' :: '"' :: r => some (['"', '"'], r)
  | '"' :: '"' :: '"' :: '"' :: r => some (['"'], r)
  | '"' :: '"' :: '"' :: r => some ([], r)
  | '\r' :: '\n' :: r => (multilineBasic r).map fun (s, rest) => ('\n' :: s, rest)
  | '\\' :: r =>
    match _h : joinLines? r with
    | some r => multilineBasic r
    | none =>
      match _h : escape? r with
      | some (c, r) => (multilineBasic r).map fun (s, rest) => (c :: s, rest)
      | none => none
  | c :: r =>
    if c = '\n' || isPlain c then (multilineBasic r).map fun (s, rest) => (c :: s, rest) else none
  termination_by s.length
  decreasing_by
    · simp only [List.length_cons]
      omega
    · have := length_of_joinLines? _h
      simp
      omega
    · have := length_of_escape? _h
      simp
      omega
    · simp

/-- Reads up to the three closing apostrophes. One or two may stand before anything else, and before
the three. -/
def multilineLiteral : List Char → Option (List Char × List Char)
  | [] => none
  | '\'' :: '\'' :: '\'' :: '\'' :: '\'' :: r => some (['\'', '\''], r)
  | '\'' :: '\'' :: '\'' :: '\'' :: r => some (['\''], r)
  | '\'' :: '\'' :: '\'' :: r => some ([], r)
  | '\r' :: '\n' :: r => (multilineLiteral r).map fun (s, rest) => ('\n' :: s, rest)
  | c :: r =>
    if c = '\n' || isPlain c then (multilineLiteral r).map fun (s, rest) => (c :: s, rest) else none

/-- A line end right after the opening of a string on several lines is no part of it. -/
def dropNewline (s : List Char) : List Char := (newline? s).getD s

/-- Reads a string on one line. -/
def lineString? : List Char → Option (List Char × List Char)
  | '"' :: r => basic r
  | '\'' :: r => literal r
  | _ => none

def string? : List Char → Option (List Char × List Char)
  | '"' :: '"' :: '"' :: r => multilineBasic (dropNewline r)
  | '\'' :: '\'' :: '\'' :: r => multilineLiteral (dropNewline r)
  | s => lineString? s

end RouteTemplate.Toml
