import RouteTemplate.Regex.Tree

/-!
Regular expressions by what they match. The constructors below the type simplify as they build:
rows and alternatives are flat, alternatives that begin alike share their beginning, and a
repetition that repeats nothing is left out, with the groups inside it.
-/

namespace RouteTemplate.Regex

open Unicode (CharSet)

/-- A condition on a place in a text. -/
inductive Look where
  | textStart
  | textEnd
  | lineStart (crlf : Bool)
  | lineEnd (crlf : Bool)
  | word (place : WordPlace) (unicode : Bool)
  deriving DecidableEq, Repr, Inhabited

namespace Look

def isWordChar (unicode : Bool) (c : Char) : Bool :=
  if unicode then Unicode.isWord c else Unicode.asciiWordChars.contains c

/-- Whether a word assertion holds between a side that is or is no word character and another. -/
def wordPlace (place : WordPlace) (before after : Bool) : Bool :=
  match place with
  | .boundary => before != after
  | .notBoundary => before == after
  | .start => !before && after
  | .stop => before && !after
  | .startHalf => !before
  | .stopHalf => !after

/-- Whether the condition holds between the characters before and after a place; there is none at an
end of the text. -/
def holds (before after : Option Char) : Look → Bool
  | .textStart => before.isNone
  | .textEnd => after.isNone
  | .lineStart false => before.all (· = '\n')
  | .lineStart true =>
    before.all (· = '\n') || (before = some '\r' && after != some '\n')
  | .lineEnd false => after.all (· = '\n')
  | .lineEnd true =>
    after.all (· = '\r') || (after = some '\n' && before != some '\r')
  | .word place unicode =>
    wordPlace place (before.any (isWordChar unicode)) (after.any (isWordChar unicode))

end Look

inductive Node where
  | empty
  | set (s : CharSet)
  | look (l : Look)
  | capture (index : Nat) (name : Option (List Char)) (inside : Node)
  | repetition (r : Repetition) (inside : Node)
  | seq (first second : Node)
  | alt (first second : Node)
  deriving DecidableEq, Repr, Inhabited

namespace Node

/-- Matches nothing at all. -/
def fail : Node := .set .empty

/-! ### Lengths -/

/-- The least number of characters in a match; none where a part matches nothing at all. -/
def minLength? : Node → Option Nat
  | .empty | .look _ => some 0
  | .set s => if s.isEmpty then none else some 1
  | .capture _ _ inside => inside.minLength?
  | .repetition r inside => inside.minLength?.map (· * r.min)
  | .seq first second => do return (← first.minLength?) + (← second.minLength?)
  | .alt first second => do return min (← first.minLength?) (← second.minLength?)

/-- Every match takes at least one character. -/
def consumes (n : Node) : Bool := n.minLength?.any (0 < ·)

/-- No match takes any character. -/
def onlyEmpty : Node → Bool
  | .empty | .look _ => true
  | .set _ => false
  | .capture _ _ inside | .repetition _ inside => inside.onlyEmpty
  | .seq first second | .alt first second => first.onlyEmpty && second.onlyEmpty

/-! ### Rows -/

/-- The nodes of a row. -/
def factors : Node → List Node
  | .empty => []
  | .seq first second => first.factors ++ second.factors
  | n => [n]

def ofFactors : List Node → Node
  | [] => .empty
  | [n] => n
  | n :: ns => .seq n (ofFactors ns)

/-- One node after another. -/
def concat (ns : List Node) : Node := ofFactors (ns.flatMap factors)

/-! ### Alternatives -/

def branches : Node → List Node
  | .alt first second => first.branches ++ second.branches
  | n => [n]

def ofBranches : List Node → Node
  | [] => .fail
  | [n] => n
  | n :: ns => .alt n (ofBranches ns)

def set? : Node → Option CharSet
  | .set s => some s
  | _ => none

/-- One node or another, the earlier ones first. If all of them are sets, so is the outcome. -/
def choice (ns : List Node) : Node :=
  let ns := ns.flatMap branches
  match ns.mapM set? with
  | some ss => if ss.length = 1 then ofBranches ns else .set (.unions ss)
  | none => ofBranches ns

/-- What two rows begin with alike. -/
def commonStart : List Node → List Node → List Node
  | n :: ns, m :: ms => if n = m then n :: commonStart ns ms else []
  | _, _ => []

/-- One node or another, where rows that all begin alike are read as that beginning followed by the
choice between their ends. -/
def alternation (ns : List Node) : Node :=
  match (ns.flatMap branches).map factors with
  | [] => .fail
  | [row] => ofFactors row
  | row :: rows =>
    let start := rows.foldl commonStart row
    if start.isEmpty || (row :: rows).any (·.length < 2) then choice ns
    else concat (start ++ [choice ((row :: rows).map fun row => ofFactors (row.drop start.length))])

/-! ### Repetitions -/

/-- Repeats a node. What takes no characters is matched at most once. -/
def replicate (r : Repetition) (n : Node) : Node :=
  let r := if n.onlyEmpty then ⟨min r.min 1, some (min (r.max.getD 1) 1), r.greedy⟩ else r
  if r.max = some 0 then .empty
  else if r.min = 1 ∧ r.max = some 1 then n
  else .repetition r n

/-! ### Groups -/

/-- The groups with their names, in the order in which they open. -/
def groups : Node → List (Nat × Option (List Char))
  | .empty | .set _ | .look _ => []
  | .capture index name inside => (index, name) :: inside.groups
  | .repetition _ inside => inside.groups
  | .seq first second | .alt first second => first.groups ++ second.groups

end Node

end RouteTemplate.Regex
