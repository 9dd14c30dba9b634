import RouteTemplate.Route
import RouteTemplate.Shared

/-!
Tables, expanders, shared expanders and routes under names. Tables, expanders and routes are held as
values of their own; of a shared expander only a handle is held, and handles that were cloned from
one another lead to the same expander.
-/

namespace RouteTemplate

/-- What a name stands for. A shared expander is held by its number. -/
inductive Held where
  | table (t : FragmentTable)
  | expander (e : Expander)
  | shared (handle : Nat)
  | route (r : Route)
  deriving Repr, Inhabited

/-- The names with what was stored under them, the last first, and all shared expanders. -/
structure Store where
  slots : List (List Char × Held)
  shared : List SharedExpander
  deriving Repr, Inhabited

namespace Store

def empty : Store := ⟨[], []⟩

def find? (s : Store) (name : List Char) : Option Held := s.slots.lookup name

/-- Stores something under a name, over what was there. -/
def put (s : Store) (name : List Char) (x : Held) : Store :=
  { s with slots := (name, x) :: s.slots }

/-- Stores a handle on a new shared expander under a name. -/
def share (s : Store) (name : List Char) (e : Expander) : Store :=
  { s.put name (.shared s.shared.length) with shared := s.shared ++ [.new e] }

/-- Changes a shared expander, for all handles on it. -/
def changeShared (s : Store) (handle : Nat) (f : SharedExpander → SharedExpander) : Store :=
  { s with shared := s.shared.modify handle f }

@[simp] theorem find?_put (s : Store) (name n : List Char) (x : Held) :
    (s.put name x).find? n = if n = name then some x else s.find? n := by
  by_cases h : n = name
  · simp [find?, put, h]
  · simp [find?, put, List.lookup_cons, beq_false_of_ne h, h]

@[simp] theorem find?_share (s : Store) (name n : List Char) (e : Expander) :
    (s.share name e).find? n = if n = name then some (.shared s.shared.length) else s.find? n :=
  find?_put s name n _

@[simp] theorem find?_changeShared (s : Store) (handle : Nat) (f : SharedExpander → SharedExpander)
    (n : List Char) : (s.changeShared handle f).find? n = s.find? n := rfl

end Store

end RouteTemplate
