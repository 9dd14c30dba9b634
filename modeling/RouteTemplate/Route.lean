import RouteTemplate.Error
import RouteTemplate.Expander
import RouteTemplate.Regex

/-!
Routes: templates whose patterns are ready to be matched against paths.
-/

namespace RouteTemplate

structure Route where
  template : List Char
  pattern : List Char
  regex : Regex
  deriving Repr, Inhabited

namespace Expander

/-- The regular expression of a template. -/
def compile [Regex.SizeLimit] (e : Expander) (template : List Char) (o : Overrides) :
    Except Error Regex :=
  let pattern := e.expand template o
  (Regex.compile pattern).mapError (.invalidRegex template pattern)

/-- The route of a template. -/
def route [Regex.SizeLimit] (e : Expander) (template : List Char) (o : Overrides) :
    Except Error Route :=
  (e.compile template o).map (⟨template, e.expand template o, ·⟩)

end Expander

namespace Route

/-- The names of the groups, in the order in which they open. -/
def names (r : Route) : List (List Char) := r.regex.names

def isMatch (r : Route) (path : List Char) : Bool := r.regex.isMatch path

/-- What the named groups capture in a path; groups that took no part are left out. -/
def captures (r : Route) (path : List Char) : Option (List (List Char × List Char)) :=
  (r.regex.find? path).map r.regex.captures

end Route

end RouteTemplate
