import RouteTemplate.Regex.Meaning
import RouteTemplate.Regex.Search

/-!
Regular expressions that are ready to be matched against a text, and what they find there.
-/

namespace RouteTemplate

open Regex (Node Program Marks)

/-- A program and the names of its groups. Group 0 is the whole match and has no name. -/
structure Regex where
  program : Program
  groupNames : List (Option (List Char))
  deriving Repr, Inhabited

/-- A match in a text. -/
structure Regex.Match where
  text : Array Char
  marks : Marks
  deriving Repr, Inhabited

/-- Which patterns the engine allows by the size of their programs. The engine limits the size of the
programs that it makes and measures it by its own means, so the limit comes with the engine. -/
class Regex.SizeLimit where
  allows (pattern : List Char) : Bool

namespace Regex

/-- The limit that no pattern reaches. -/
instance SizeLimit.unlimited : SizeLimit := ⟨fun _ => true⟩

/-- The names of the groups of a node by their numbers. A number that no group has is kept free. -/
def Node.groupNames (n : Node) : List (Option (List Char)) :=
  let groups := n.groups
  let last := groups.foldl (fun i g => max i g.1) 0
  (List.range (last + 1)).map fun i => (groups.lookup i).join

def ofNode (n : Node) : Regex := ⟨n.program, n.groupNames⟩

def compile [SizeLimit] (pattern : List Char) : Except CompileError Regex := do
  let n ← (Node.parse pattern).mapError .malformed
  if SizeLimit.allows pattern then return ofNode n else throw .tooLarge

/-- How many groups there are, with the whole match. -/
def groupCount (r : Regex) : Nat := r.groupNames.length

/-- The names in the order of their groups. -/
def names (r : Regex) : List (List Char) := r.groupNames.filterMap id

def isMatch (r : Regex) (text : List Char) : Bool := (r.program.search text.toArray).isSome

def find? (r : Regex) (text : List Char) : Option Match :=
  let text := text.toArray
  (r.program.search text).map fun marks => ⟨text, marks⟩

/-- Where a group begins and ends, if it took part in a match. -/
def Match.span? (m : Match) (group : Nat) : Option (Nat × Nat) := do
  return (← m.marks.lookup (2 * group), ← m.marks.lookup (2 * group + 1))

/-- The text of a group, if it took part in a match. -/
def Match.group? (m : Match) (group : Nat) : Option (List Char) :=
  (m.span? group).map fun (start, stop) => (m.text.extract start stop).toList

/-- The named groups that took part in a match, in the order of the groups. -/
def captures (r : Regex) (m : Match) : List (List Char × List Char) :=
  r.groupNames.zipIdx.filterMap fun (name, i) => do return (← name, ← m.group? i)

end Regex

end RouteTemplate
