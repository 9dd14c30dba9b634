/-!
Settings of an expander, and overrides of them for one call.
-/

namespace RouteTemplate

/-- What is done to a template besides filling in its placeholders. -/
structure Settings where
  /-- The fragment for a name without an entry in the table. -/
  defaultFragment : List Char
  /-- Begin with `^`. -/
  anchor : Bool
  /-- End with `$`. -/
  terminate : Bool
  /-- Put a `/` before the end. -/
  appendSlash : Bool
  deriving DecidableEq, Repr, Inhabited

/-- The settings that are to be replaced. -/
structure Overrides where
  defaultFragment : Option (List Char)
  anchor : Option Bool
  terminate : Option Bool
  appendSlash : Option Bool
  deriving DecidableEq, Repr, Inhabited

namespace Settings

/-- Without an entry a name stands for digits, and patterns are anchored on both sides. -/
def standard : Settings := ⟨"\\d+".toList, true, true, true⟩

def merge (s : Settings) (o : Overrides) : Settings where
  defaultFragment := o.defaultFragment.getD s.defaultFragment
  anchor := o.anchor.getD s.anchor
  terminate := o.terminate.getD s.terminate
  appendSlash := o.appendSlash.getD s.appendSlash

end Settings

namespace Overrides

def none : Overrides := ⟨.none, .none, .none, .none⟩

/-- Turns everything off that is added to a template. -/
def bare : Overrides := ⟨.none, some false, some false, some false⟩

/-- Overrides of overrides. -/
def merge (o p : Overrides) : Overrides where
  defaultFragment := p.defaultFragment.or o.defaultFragment
  anchor := p.anchor.or o.anchor
  terminate := p.terminate.or o.terminate
  appendSlash := p.appendSlash.or o.appendSlash

end Overrides

end RouteTemplate
