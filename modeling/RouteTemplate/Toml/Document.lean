import RouteTemplate.Toml.Expression

/-!
TOML documents: the lines of a text, and the table that they make up. A header opens a table, the
entries after it go there, and the table is put into its place before the next header.
-/

namespace RouteTemplate.Toml

/-! ### Lines -/

inductive Line where
  | entry (path : List Key) (key : Key) (value : Value)
  | header (path : List Key)
  | arrayHeader (path : List Key)
  deriving Repr, Inhabited

/-- Reads a line that is not blank, up to its end. -/
def line? : List Char → Option (Line × List Char)
  | '[' :: '[' :: s => do
    let (path, r) ← key? s
    return (.arrayHeader path, ← lineEnd? (← expect? ']' (← expect? ']' r)))
  | '[' :: s => do
    let (path, r) ← key? s
    return (.header path, ← lineEnd? (← expect? ']' r))
  | s => do
    let ((path, x), r) ← keyValue? (value? maxNesting) s
    return (.entry path.dropLast (← path.getLast?) x, ← lineEnd? r)

/-- Reads lines. A comment that nothing ends is the last of them. -/
def readLines : (fuel : Nat) → List Char → Option (List Line)
  | 0, _ => none
  | fuel + 1, s =>
    match dropLines s with
    | [] => some []
    | '#' :: r => if (dropComment ('#' :: r)).isEmpty then some [] else none
    | s => do
      let (line, rest) ← line? s
      return line :: (← readLines fuel rest)

/-- The lines of a text that are not blank. Each takes up a character, so that there are no more. -/
def lines? (s : List Char) : Option (List Line) := readLines (s.length + 1) s

/-! ### Assembly -/

/-- Where the entries of a table go once it is complete. -/
inductive Place where
  | root
  | table (path : List Key)
  | element (path : List Key)
  deriving DecidableEq, Repr, Inhabited

/-- The tables that are in their places, and the one that is still open. -/
structure Assembly where
  root : Entries
  place : Place
  entries : Entries
  deriving Repr, Inhabited

namespace Assembly

def start : Assembly := ⟨[], .root, []⟩

/-- Puts the open table into its place. -/
def close? (a : Assembly) : Option Entries :=
  match a.place with
  | .root => some a.entries
  | .table path => a.root.close? path a.entries
  | .element path => a.root.push? path a.entries

/-- Takes in one line. -/
def take (a : Assembly) : Line → Option Assembly
  | .entry path key x => do
    return { a with entries := ← a.entries.insert .header path key x }
  | .header path => do
    let root ← a.close?
    return ⟨root, .table path, ← root.opened? path⟩
  | .arrayHeader path => do
    return ⟨← a.close?, .element path, []⟩

end Assembly

/-- The table of a text. A byte order mark may stand before it. -/
def parse? (s : List Char) : Option Entries := do
  let s := if s.head? = some '\ufeff' then s.tail else s
  let a ← (← lines? s).foldlM Assembly.take .start
  a.close?

end RouteTemplate.Toml
