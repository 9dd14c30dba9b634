import RouteTemplate.Expander

/-!
An expander that several handles share behind a lock. A writer that fails while it has the lock
leaves the lock poisoned; as it has changed nothing by then, the expander is used on regardless.
-/

namespace RouteTemplate

structure SharedExpander where
  expander : Expander
  poisoned : Bool
  deriving DecidableEq, Repr, Inhabited

namespace SharedExpander

def new (e : Expander) : SharedExpander := ⟨e, false⟩

/-- Takes the lock. A poisoned lock gives the expander too, but with a warning. -/
def acquire (s : SharedExpander) : Except Expander Expander :=
  if s.poisoned then .error s.expander else .ok s.expander

/-- The expander behind the lock, whatever became of earlier writers. -/
def read (s : SharedExpander) : Expander :=
  match s.acquire with
  | .ok e | .error e => e

def insert (s : SharedExpander) (name fragment : List Char) : SharedExpander :=
  { s with expander := s.read.insert name fragment }

/-- A writer fails before it has changed anything. -/
def poison (s : SharedExpander) : SharedExpander := { s with expander := s.read, poisoned := true }

def expand (s : SharedExpander) (template : List Char) (o : Overrides) : List Char :=
  s.read.expand template o

/-- A copy of the expander as it is now. -/
def snapshot (s : SharedExpander) : Expander := s.read

@[simp] theorem read_eq (s : SharedExpander) : s.read = s.expander := by
  cases h : s.poisoned <;> simp [read, acquire, h]

@[simp] theorem expander_insert (s : SharedExpander) (name fragment : List Char) :
    (s.insert name fragment).expander = s.expander.insert name fragment := by
  simp [insert]

@[simp] theorem expander_poison (s : SharedExpander) : s.poison.expander = s.expander := by
  simp [poison]

@[simp] theorem expand_eq (s : SharedExpander) (template : List Char) (o : Overrides) :
    s.expand template o = s.expander.expand template o := by
  simp [expand]

@[simp] theorem snapshot_eq (s : SharedExpander) : s.snapshot = s.expander := by
  simp [snapshot]

end SharedExpander

end RouteTemplate
