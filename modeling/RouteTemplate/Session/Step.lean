import RouteTemplate.Session.Store
import RouteTemplate.SettingsFile

/-!
Steps of a session: each makes a value and stores it under a name, or does something with the value
of a name. A step that is refused changes nothing.
-/

namespace RouteTemplate

/-! ### Steps -/

/-- A step that makes a value. -/
inductive Creation where
  | table (t : FragmentTable)
  | expander (e : Expander)
  /-- An expander over a copy of a table. -/
  | expanderOver (table : List Char) (settings : Settings)
  /-- The expander of a settings file. -/
  | load (file : List Char) (content : FileContent)
  | shared (e : Expander)
  /-- A shared expander that begins as a copy of an expander. -/
  | share (expander : List Char)
  | snapshot (shared : List Char)
  | tableOf (expander : List Char)
  | clone (source : List Char)
  /-- A copy of an expander with one more entry. -/
  | withEntry (expander name fragment : List Char)
  | route (expander template : List Char) (o : Overrides)

inductive TableStep where
  | insert (name fragment : List Char)
  | extend (entries : List (List Char × List Char))
  | get (name : List Char)
  | contains (name : List Char)
  | size
  | sorted
  | resolve (name : List Char) (pattern : Option (List Char)) (default : List Char)
  | same (table : List Char)

inductive ExpanderStep where
  | insert (name fragment : List Char)
  | get (name : List Char)
  | sorted
  | settings
  | override (o : Overrides)
  | expand (template : List Char) (o : Overrides)
  | compile (template : List Char) (o : Overrides) (paths : List (List Char))

inductive SharedStep where
  | insert (name fragment : List Char)
  | expand (template : List Char) (o : Overrides)
  /-- Several readers expand a template at the same time. -/
  | expandAll (template : List Char) (readers : Nat)
  | poison

inductive RouteStep where
  | matchAll (paths : List (List Char))

inductive Step where
  | create (c : Creation)
  | table (t : TableStep)
  | expander (e : ExpanderStep)
  | shared (s : SharedStep)
  | route (r : RouteStep)

/-! ### Answers -/

/-- What a path gives: whether it matches and what is captured. -/
structure PathMatch where
  isMatch : Bool
  captures : Option (List (List Char × List Char))
  deriving DecidableEq, Repr, Inhabited

structure RouteReport where
  template : List Char
  pattern : List Char
  names : List (List Char)
  groupCount : Nat
  results : List PathMatch
  deriving DecidableEq, Repr, Inhabited

def Route.report (r : Route) (paths : List (List Char)) : RouteReport where
  template := r.template
  pattern := r.pattern
  names := r.names
  groupCount := r.regex.groupCount
  results := paths.map fun path => ⟨r.isMatch path, r.captures path⟩

inductive Answer where
  | done
  | text (s : List Char)
  | fragment (s : Option (List Char))
  | truth (b : Bool)
  | inserted (replaced : Option (List Char)) (size : Nat)
  | extended (size : Nat)
  | size (n : Nat)
  | entries (es : List (List Char × List Char))
  | settings (s : Settings)
  /-- The size of the table of an expander, and the entry that was written. -/
  | written (size : Nat) (value : Option (List Char))
  | compiled (pattern : List Char) (results : List Bool)
  | texts (ss : List (List Char))
  | writerFailed
  | report (r : RouteReport)
  deriving DecidableEq, Repr, Inhabited

/-- Why a step changes nothing and has no answer. -/
inductive Refusal where
  | noSuchSlot
  | wrongKind
  | failed (e : Error)
  deriving DecidableEq, Repr, Inhabited

/-! ### Looking up -/

namespace Store

def held (s : Store) (name : List Char) : Except Refusal Held :=
  match s.find? name with
  | some x => .ok x
  | none => .error .noSuchSlot

def table (s : Store) (name : List Char) : Except Refusal FragmentTable := do
  match ← s.held name with
  | .table t => .ok t
  | _ => .error .wrongKind

def expander (s : Store) (name : List Char) : Except Refusal Expander := do
  match ← s.held name with
  | .expander e => .ok e
  | _ => .error .wrongKind

/-- A handle and the expander that it leads to. -/
def sharedExpander (s : Store) (name : List Char) : Except Refusal (Nat × SharedExpander) := do
  match ← s.held name with
  | .shared handle =>
    match s.shared[handle]? with
    | some x => .ok (handle, x)
    | none => .error .noSuchSlot
  | _ => .error .wrongKind

def route (s : Store) (name : List Char) : Except Refusal Route := do
  match ← s.held name with
  | .route r => .ok r
  | _ => .error .wrongKind

/-! ### Doing -/

/-- The store with a new value under a name. -/
def create [Regex.SizeLimit] (s : Store) (name : List Char) : Creation → Except Refusal Store
  | .table t => .ok (s.put name (.table t))
  | .expander e => .ok (s.put name (.expander e))
  | .expanderOver table settings => do
    return s.put name (.expander ⟨← s.table table, settings⟩)
  | .load file content => do
    let loaded ← (SettingsFile.load file content).mapError .failed
    return s.put name (.expander loaded.expander)
  | .shared e => .ok (s.share name e)
  | .share expander => do return s.share name (← s.expander expander)
  | .snapshot shared => do
    let (_, x) ← s.sharedExpander shared
    return s.put name (.expander x.snapshot)
  | .tableOf expander => do return s.put name (.table (← s.expander expander).table)
  | .clone source => do return s.put name (← s.held source)
  | .withEntry expander n fragment => do
    return s.put name (.expander ((← s.expander expander).insert n fragment))
  | .route expander template o => do
    let r ← ((← s.expander expander).route template o).mapError .failed
    return s.put name (.route r)

def onTable (s : Store) (name : List Char) (t : FragmentTable) :
    TableStep → Except Refusal (Answer × Store)
  | .insert n fragment =>
    let u := t.insert n fragment
    .ok (.inserted (t.get? n) u.size, s.put name (.table u))
  | .extend entries =>
    let u := t.extend entries
    .ok (.extended u.size, s.put name (.table u))
  | .get n => .ok (.fragment (t.get? n), s)
  | .contains n => .ok (.truth (t.contains n), s)
  | .size => .ok (.size t.size, s)
  | .sorted => .ok (.entries t.sorted, s)
  | .resolve n pattern default => .ok (.text (t.resolve n pattern default), s)
  | .same table => do return (.truth (t.same (← s.table table)), s)

def onExpander [Regex.SizeLimit] (s : Store) (name : List Char) (e : Expander) :
    ExpanderStep → Except Refusal (Answer × Store)
  | .insert n fragment =>
    let f := e.insert n fragment
    .ok (.written f.table.size (f.table.get? n), s.put name (.expander f))
  | .get n => .ok (.fragment (e.table.get? n), s)
  | .sorted => .ok (.entries e.table.sorted, s)
  | .settings => .ok (.settings e.settings, s)
  | .override o =>
    let f := e.override o
    .ok (.settings f.settings, s.put name (.expander f))
  | .expand template o => .ok (.text (e.expand template o), s)
  | .compile template o paths => do
    let regex ← (e.compile template o).mapError .failed
    return (.compiled (e.expand template o) (paths.map regex.isMatch), s)

def onShared (s : Store) (handle : Nat) (x : SharedExpander) : SharedStep → Answer × Store
  | .insert n fragment => (.done, s.changeShared handle (·.insert n fragment))
  | .expand template o => (.text (x.expand template o), s)
  | .expandAll template readers => (.texts (.replicate readers (x.expand template .none)), s)
  | .poison => (.writerFailed, s.changeShared handle SharedExpander.poison)

/-- Does a step on a name. -/
def perform [Regex.SizeLimit] (s : Store) (name : List Char) : Step → Except Refusal (Answer × Store)
  | .create c => do return (.done, ← s.create name c)
  | .table t => do s.onTable name (← s.table name) t
  | .expander e => do s.onExpander name (← s.expander name) e
  | .shared x => do
    let (handle, shared) ← s.sharedExpander name
    return s.onShared handle shared x
  | .route (.matchAll paths) => do return (.report ((← s.route name).report paths), s)

/-- The outcome of a step, and the store after it. -/
def step [Regex.SizeLimit] (s : Store) (name : List Char) (x : Step) :
    Except Refusal Answer × Store :=
  match s.perform name x with
  | .ok (answer, s') => (.ok answer, s')
  | .error e => (.error e, s)

/-- The store after steps on names, one after another. -/
def run [Regex.SizeLimit] (s : Store) (steps : List (List Char × Step)) : Store :=
  steps.foldl (fun s (name, x) => (s.step name x).2) s

theorem run_append [Regex.SizeLimit] (s : Store) (xs ys : List (List Char × Step)) :
    s.run (xs ++ ys) = (s.run xs).run ys :=
  List.foldl_append

end Store

end RouteTemplate
