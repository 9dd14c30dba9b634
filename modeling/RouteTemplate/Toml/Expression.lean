import RouteTemplate.Toml.Scalar
import RouteTemplate.Toml.Table

/-!
Keys and values of a TOML document as they are written, arrays and tables in braces among them.
-/

namespace RouteTemplate.Toml

/-! ### Comments -/

/-- Drops a comment up to the end of its line, or up to a character that it cannot have. -/
def dropComment : List Char → List Char
  | '#' :: r => r.dropWhile isPlain
  | s => s

/-- Reads the rest of a line after an expression. -/
def lineEnd? (s : List Char) : Option (List Char) :=
  match dropComment (dropGap s) with
  | [] => some []
  | c :: r => newline? (c :: r)

theorem length_dropComment_le (s : List Char) : (dropComment s).length ≤ s.length := by
  unfold dropComment
  split
  next r =>
    have := (List.dropWhile_suffix isPlain (l := r)).length_le
    simp
    omega
  · simp

/-- Drops blanks, line ends and comments. -/
def dropLines (s : List Char) : List Char :=
  match _h : newline? (dropComment (dropGap s)) with
  | some r => dropLines r
  | none => dropGap s
  termination_by s.length
  decreasing_by
    have := length_dropComment_le (dropGap s)
    have : (dropGap s).length ≤ s.length := (List.dropWhile_suffix _).length_le
    generalize dropComment (dropGap s) = t at *
    unfold newline? at _h
    split at _h <;> simp at _h <;> subst _h <;> simp at * <;> omega

/-! ### Rows -/

/-- Reads a row of parts with a separator between them. -/
def row (part : List Char → Option (α × List Char)) (separator : Char) :
    (fuel : Nat) → List Char → Option (List α × List Char)
  | 0, _ => none
  | fuel + 1, s => do
    let (x, r) ← part s
    match expect? separator r with
    | some r => do
      let (xs, rest) ← row part separator fuel r
      return (x :: xs, rest)
    | none => return ([x], r)

/-- Reads a row of parts. Each takes up a separator, so that there are no more than characters. -/
def separated (part : List Char → Option (α × List Char)) (separator : Char) (s : List Char) :
    Option (List α × List Char) :=
  row part separator (s.length + 1) s

/-! ### Keys -/

def isBareKeyChar (c : Char) : Bool := c.isAlphanum || c = '-' || c = '_'

def bareKey? (s : List Char) : Option (Key × List Char) :=
  let key := s.takeWhile isBareKeyChar
  if key.isEmpty then none else some (key, s.dropWhile isBareKeyChar)

/-- Reads one part of a key, with the blanks around it. -/
def keyPart? (s : List Char) : Option (Key × List Char) :=
  let s := dropGap s
  ((lineString? s).or (bareKey? s)).map fun (key, rest) => (key, dropGap rest)

/-- The most parts that a key may have, and the most arrays and tables that may lie within one
another in a value. -/
def maxNesting : Nat := 79

/-- Reads a key of one or more parts. -/
def key? (s : List Char) : Option (List Key × List Char) := do
  let (path, rest) ← separated keyPart? '.' s
  if path.length ≤ maxNesting then some (path, rest) else none

/-! ### Values -/

/-- Reads the items of an array and the closing bracket. A separator may stand before it. -/
def items (value : List Char → Option (Value × List Char)) :
    (fuel : Nat) → List Char → Option (List Value × List Char)
  | 0, _ => none
  | fuel + 1, s => do
    let (x, r) ← value (dropLines s)
    match dropLines r with
    | ']' :: rest => return ([x], rest)
    | ',' :: r =>
      match dropLines r with
      | ']' :: rest => return ([x], rest)
      | r => do
        let (xs, rest) ← items value fuel r
        return (x :: xs, rest)
    | _ => none

def array (value : List Char → Option (Value × List Char)) (s : List Char) :
    Option (Value × List Char) :=
  match dropLines s with
  | ']' :: rest => some (.array [], rest)
  | s => (items value (s.length + 1) s).map fun (xs, rest) => (.array xs, rest)

/-- Reads a key and its value. -/
def keyValue? (value : List Char → Option (Value × List Char)) (s : List Char) :
    Option ((List Key × Value) × List Char) := do
  let (path, r) ← key? s
  let (x, rest) ← value (dropGap (← expect? '=' r))
  return ((path, x), dropGap rest)

/-- The entries of a table in braces. -/
def inlineEntries (entries : List (List Key × Value)) : Option Entries :=
  entries.foldlM
    (fun table (path, x) => do Entries.insert table .inline path.dropLast (← path.getLast?) x) []

def inlineTable (value : List Char → Option (Value × List Char)) (s : List Char) :
    Option (Value × List Char) :=
  match dropGap s with
  | '}' :: rest => some (.table .inline [], rest)
  | s => do
    let (entries, r) ← separated (keyValue? value) ',' s
    return (.table .inline (← inlineEntries entries), ← expect? '}' r)

/-- Reads a value in which at most so many arrays and tables lie within one another. -/
def value? : (nesting : Nat) → List Char → Option (Value × List Char)
  | n + 1, '[' :: r => array (value? n) r
  | n + 1, '{' :: r => inlineTable (value? n) r
  | _, s => scalar? s

end RouteTemplate.Toml
