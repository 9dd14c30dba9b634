import RouteTemplate.FragmentTable
import RouteTemplate.Segment.Scan
import RouteTemplate.Settings

/-!
Expanding templates into patterns. Each placeholder gives way to a group around its fragment, all
other text stays, and the settings say what is put around the outcome.
-/

namespace RouteTemplate

structure Expander where
  table : FragmentTable
  settings : Settings
  deriving DecidableEq, Repr

namespace Expander

def standard : Expander := ⟨.standard, .standard⟩

instance : Inhabited Expander := ⟨standard⟩

def insert (e : Expander) (name fragment : List Char) : Expander :=
  { e with table := e.table.insert name fragment }

/-- Replaces settings for good. -/
def override (e : Expander) (o : Overrides) : Expander :=
  { e with settings := e.settings.merge o }

end Expander

/-- What a segment expands to. -/
def Segment.expand (table : FragmentTable) (default : List Char) : Segment → List Char
  | .literal text => text
  | .placeholder p => p.captureGroup (table.resolve p.name p.pattern default)

/-- A template with its placeholders filled in. -/
def substitute (table : FragmentTable) (default template : List Char) : List Char :=
  (segments template).flatMap (Segment.expand table default)

/-! ### Ends of patterns -/

def anchor (pattern : List Char) : List Char :=
  if pattern.head? = some '^' then pattern else '^' :: pattern

def appendSlash (pattern : List Char) : List Char :=
  if pattern.getLast? = some '$' || pattern.getLast? = some '/' then pattern else pattern ++ ['/']

def terminate (pattern : List Char) : List Char :=
  if pattern.getLast? = some '$' then pattern else pattern ++ ['$']

/-- Puts an anchor, a slash and a terminator around the body of a pattern, as the settings say and
where they are missing. The empty template gets no slash. -/
def Settings.finish (s : Settings) (template body : List Char) : List Char :=
  let pattern := if s.anchor then RouteTemplate.anchor body else body
  let pattern :=
    if s.appendSlash && !template.isEmpty then RouteTemplate.appendSlash pattern else pattern
  if s.terminate then RouteTemplate.terminate pattern else pattern

namespace Expander

/-- The pattern of a template. -/
def expand (e : Expander) (template : List Char) (o : Overrides) : List Char :=
  let s := e.settings.merge o
  s.finish template (substitute e.table s.defaultFragment template)

end Expander

/-- The pattern of a template by the standard table and settings, for those who have no expander. -/
def standardPattern (template : List Char) (o : Overrides) : List Char :=
  Expander.standard.expand template o

end RouteTemplate
