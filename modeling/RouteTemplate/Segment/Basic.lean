/-!
The segments of a route template: literal text, and placeholders written as `<name>` or
`<name:pattern>`.
-/

namespace RouteTemplate

structure Placeholder where
  name : List Char
  pattern : Option (List Char)
  deriving DecidableEq, Repr, Inhabited

namespace Placeholder

/-- A placeholder as it is written. -/
def text (p : Placeholder) : List Char :=
  match p.pattern with
  | none => '<' :: p.name ++ ['>']
  | some pattern => '<' :: p.name ++ ':' :: pattern ++ ['>']

/-- The group that captures what a fragment matches under the placeholder's name. -/
def captureGroup (p : Placeholder) (fragment : List Char) : List Char :=
  "(?P<".toList ++ p.name ++ '>' :: fragment ++ [')']

/-- What a fragment is looked up by. -/
def key (p : Placeholder) : List Char := p.pattern.getD p.name

end Placeholder

inductive Segment where
  | literal (text : List Char)
  | placeholder (p : Placeholder)
  deriving DecidableEq, Repr, Inhabited

namespace Segment

/-- A segment as it is written. -/
def text : Segment → List Char
  | .literal text => text
  | .placeholder p => p.text

def placeholder? : Segment → Option Placeholder
  | .literal _ => none
  | .placeholder p => some p

/-- The template that has the given segments. -/
def join (segments : List Segment) : List Char := segments.flatMap text

end Segment

end RouteTemplate
