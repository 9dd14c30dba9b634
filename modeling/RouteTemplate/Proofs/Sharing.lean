import RouteTemplate.Session.Step

/-!
Calls through handles on one shared expander. Any number of handles is cloned from the first one, in
any number of steps, and calls through them come in any order, each as one step under the lock; a row
of calls with their handles is one such order. Every call is shown to be answered as by a plain
expander that has had the entries written before it and no others. Writers that fail with the lock in
hand are answered like that too, so a run without them gives all other calls the same answers.
-/

namespace RouteTemplate

/-! ### Runs of calls -/

/-- What is done through a handle. -/
inductive HandleCall where
  | on (x : SharedStep)
  /-- Stores a copy of the expander under a name. -/
  | snapshot (into : List Char)
  /-- Stores another handle under a name. -/
  | clone (into : List Char)

namespace HandleCall

/-- The name on which a call is done as a step, and the step. -/
def step (handle : List Char) : HandleCall → List Char × Step
  | .on x => (handle, .shared x)
  | .snapshot into => (into, .create (.snapshot handle))
  | .clone into => (into, .create (.clone handle))

/-- The names that hold handles after a call. -/
def handles (names : List (List Char)) : HandleCall → List (List Char)
  | .on _ => names
  | .snapshot into => names.filter (· ≠ into)
  | .clone into => into :: names

/-- The entry that a call writes. -/
def written? : HandleCall → Option (List Char × List Char)
  | .on (.insert name fragment) => some (name, fragment)
  | _ => none

/-- Whether a call is that of a writer that fails. -/
def fails : HandleCall → Bool
  | .on .poison => true
  | _ => false

/-- Each call goes through a name that holds a handle by then. -/
def Through : List (List Char) → List (List Char × HandleCall) → Prop
  | _, [] => True
  | names, (handle, c) :: calls => handle ∈ names ∧ Through (c.handles names) calls

/-- A call with its answer, and the copy that it made if it is a snapshot. -/
structure Record where
  handle : List Char
  call : HandleCall
  answer : Except Refusal Answer
  copy : Option Expander

end HandleCall

open HandleCall (Record Through)

namespace Store

def call [Regex.SizeLimit] (s : Store) (handle : List Char) (c : HandleCall) :
    Except Refusal Answer × Store :=
  s.step (c.step handle).1 (c.step handle).2

/-- The copy that a snapshot has stored. -/
def copy? (s : Store) : HandleCall → Option Expander
  | .snapshot into => (s.expander into).toOption
  | _ => none

/-- The calls of a run, one after another, with their answers. -/
def history [Regex.SizeLimit] : Store → List (List Char × HandleCall) → List Record
  | _, [] => []
  | s, (handle, c) :: calls =>
    let outcome := s.call handle c
    ⟨handle, c, outcome.1, outcome.2.copy? c⟩ :: outcome.2.history calls

end Store

/-! ### Plain expanders -/

namespace Expander

def insertAll (e : Expander) (entries : List (List Char × List Char)) : Expander :=
  entries.foldl (fun e entry => e.insert entry.1 entry.2) e

/-- What a plain expander is after a call. -/
def after (e : Expander) (c : HandleCall) : Expander := e.insertAll c.written?.toList

/-- What a plain expander answers. -/
def answer (e : Expander) : HandleCall → Answer
  | .on (.insert _ _) => .done
  | .on (.expand template o) => .text (e.expand template o)
  | .on (.expandAll template readers) => .texts (.replicate readers (e.expand template .none))
  | .on .poison => .writerFailed
  | .snapshot _ => .done
  | .clone _ => .done

def copy? (e : Expander) : HandleCall → Option Expander
  | .snapshot _ => some e
  | _ => none

def record (e : Expander) (handle : List Char) (c : HandleCall) : Record :=
  ⟨handle, c, .ok (e.answer c), e.copy? c⟩

/-- The same calls on a plain expander. -/
def history : Expander → List (List Char × HandleCall) → List Record
  | _, [] => []
  | e, (handle, c) :: calls => e.record handle c :: (e.after c).history calls

theorem insertAll_append (e : Expander) (xs ys : List (List Char × List Char)) :
    e.insertAll (xs ++ ys) = (e.insertAll xs).insertAll ys :=
  List.foldl_append

theorem length_history (e : Expander) (calls : List (List Char × HandleCall)) :
    (e.history calls).length = calls.length := by
  induction calls generalizing e with
  | nil => rfl
  | cons call calls ih => exact congrArg (· + 1) (ih _)

/-- A call finds the entries that were written before it. -/
theorem getElem?_history {e : Expander} {calls : List (List Char × HandleCall)} {i : Nat}
    {handle : List Char} {c : HandleCall} (h : calls[i]? = some (handle, c)) :
    (e.history calls)[i]? =
      some ((e.insertAll ((calls.take i).filterMap (·.2.written?))).record handle c) := by
  induction calls generalizing e i with
  | nil => cases h
  | cons call calls ih =>
    cases i with
    | zero =>
      obtain rfl := Option.some.inj h
      rfl
    | succ i =>
      have htake : ((call :: calls).take (i + 1)).filterMap (·.2.written?) =
          call.2.written?.toList ++ (calls.take i).filterMap (·.2.written?) := by
        rw [List.take_succ_cons, List.filterMap_cons]
        cases call.2.written? <;> rfl
      rw [htake, insertAll_append]
      exact ih h

theorem after_of_fails {e : Expander} {c : HandleCall} (h : c.fails) : e.after c = e := by
  match c, h with
  | .on .poison, _ => rfl

/-- Calls that fail leave no trace but their own. -/
theorem history_filter (e : Expander) (calls : List (List Char × HandleCall)) :
    e.history (calls.filter (!·.2.fails)) = (e.history calls).filter (!·.call.fails) := by
  induction calls generalizing e with
  | nil => rfl
  | cons call calls ih =>
    obtain ⟨handle, c⟩ := call
    cases hc : c.fails with
    | true => simp [history, record, hc, ih, after_of_fails hc]
    | false => simp [history, record, hc, ih]

end Expander

/-! ### Shared expanders -/

namespace Store

/-- All names of a list hold handles on one shared expander, and behind the lock there is `e`, whatever
became of the lock. -/
structure Leads (s : Store) (handle : Nat) (names : List (List Char)) (e : Expander) : Prop where
  find? : ∀ name ∈ names, s.find? name = some (.shared handle)
  expander : ∃ poisoned, s.shared[handle]? = some ⟨e, poisoned⟩

theorem leads_share (s : Store) (root : List Char) (e : Expander) :
    (s.share root e).Leads s.shared.length [root] e where
  find? name hname := by
    obtain rfl := List.mem_singleton.1 hname
    exact (find?_put s name name _).trans (if_pos rfl)
  expander := ⟨false, List.getElem?_concat_length⟩

namespace Leads

variable {s : Store} {n : Nat} {names : List (List Char)} {e : Expander}

theorem held (h : s.Leads n names e) {handle : List Char} (hmem : handle ∈ names) :
    s.held handle = .ok (.shared n) := by
  rw [Store.held, h.find? handle hmem]

theorem sharedExpander (h : s.Leads n names e) {handle : List Char} (hmem : handle ∈ names) :
    ∃ poisoned, s.sharedExpander handle = .ok (n, ⟨e, poisoned⟩) := by
  obtain ⟨poisoned, hx⟩ := h.expander
  refine ⟨poisoned, ?_⟩
  simp [Store.sharedExpander, h.held hmem, hx, bind, Except.bind]

theorem put (h : s.Leads n names e) {into : List Char} (x : Held) :
    (s.put into x).Leads n (names.filter (· ≠ into)) e where
  find? name hname := by
    obtain ⟨hmem, hne⟩ := List.mem_filter.1 hname
    rw [find?_put, if_neg (of_decide_eq_true hne), h.find? name hmem]
  expander := h.expander

theorem clone (h : s.Leads n names e) (into : List Char) :
    (s.put into (.shared n)).Leads n (into :: names) e where
  find? name hname := by
    rw [find?_put]
    split
    · rfl
    next hne => exact h.find? name ((List.mem_cons.1 hname).resolve_left hne)
  expander := h.expander

theorem changeShared (h : s.Leads n names e) {f : SharedExpander → SharedExpander} {e' : Expander}
    (hf : ∀ poisoned, (f ⟨e, poisoned⟩).expander = e') : (s.changeShared n f).Leads n names e' where
  find? := h.find?
  expander := by
    obtain ⟨poisoned, hx⟩ := h.expander
    refine ⟨(f ⟨e, poisoned⟩).poisoned, ?_⟩
    rw [← hf poisoned]
    simp [Store.changeShared, hx]

variable [Regex.SizeLimit]

theorem call_on (h : s.Leads n names e) {handle : List Char} (hmem : handle ∈ names)
    (x : SharedStep) : ∃ poisoned, s.call handle (.on x) =
      (.ok (s.onShared n ⟨e, poisoned⟩ x).1, (s.onShared n ⟨e, poisoned⟩ x).2) := by
  obtain ⟨poisoned, hshared⟩ := h.sharedExpander hmem
  refine ⟨poisoned, ?_⟩
  simp [Store.call, HandleCall.step, Store.step, Store.perform, hshared, bind, Except.bind, pure,
    Except.pure]

theorem call_snapshot (h : s.Leads n names e) {handle : List Char} (hmem : handle ∈ names)
    (into : List Char) :
    s.call handle (.snapshot into) = (.ok .done, s.put into (.expander e)) := by
  obtain ⟨poisoned, hshared⟩ := h.sharedExpander hmem
  simp [Store.call, HandleCall.step, Store.step, Store.perform, Store.create, hshared,
    bind, Except.bind, pure, Except.pure]

theorem call_clone (h : s.Leads n names e) {handle : List Char} (hmem : handle ∈ names)
    (into : List Char) : s.call handle (.clone into) = (.ok .done, s.put into (.shared n)) := by
  simp [Store.call, HandleCall.step, Store.step, Store.perform, Store.create, h.held hmem, bind,
    Except.bind, pure, Except.pure]

/-- One call: it is answered as by a plain expander, and names of handles stay names of handles on what
the plain expander has become. -/
theorem call (h : s.Leads n names e) {handle : List Char} (hmem : handle ∈ names) (c : HandleCall) :
    (s.call handle c).1 = .ok (e.answer c) ∧ (s.call handle c).2.copy? c = e.copy? c ∧
      (s.call handle c).2.Leads n (c.handles names) (e.after c) := by
  cases c with
  | on x =>
    obtain ⟨poisoned, hcall⟩ := h.call_on hmem x
    rw [hcall]
    cases x with
    | insert name fragment =>
      exact ⟨rfl, rfl, h.changeShared fun _ => SharedExpander.expander_insert ..⟩
    | expand template o => exact ⟨by simp [Store.onShared, Expander.answer], rfl, h⟩
    | expandAll template readers => exact ⟨by simp [Store.onShared, Expander.answer], rfl, h⟩
    | poison => exact ⟨rfl, rfl, h.changeShared fun _ => SharedExpander.expander_poison _⟩
  | snapshot into =>
    rw [h.call_snapshot hmem]
    refine ⟨rfl, ?_, h.put _⟩
    simp [Store.copy?, Store.expander, Store.held, bind, Except.bind, Except.toOption,
      Expander.copy?]
  | clone into =>
    rw [h.call_clone hmem]
    exact ⟨rfl, rfl, h.clone into⟩

/-- A run of calls through handles is the run of a plain expander. -/
theorem history_eq (h : s.Leads n names e) {calls : List (List Char × HandleCall)}
    (hcalls : Through names calls) : s.history calls = e.history calls := by
  induction calls generalizing s names e with
  | nil => rfl
  | cons call calls ih =>
    obtain ⟨handle, c⟩ := call
    obtain ⟨hmem, hcalls⟩ := hcalls
    obtain ⟨hanswer, hcopy, hleads⟩ := h.call hmem c
    rw [Store.history, Expander.history, Expander.record, hanswer, hcopy, ih hleads hcalls]

end Leads

end Store

theorem HandleCall.handles_of_fails {names : List (List Char)} {c : HandleCall} (h : c.fails) :
    c.handles names = names := by
  match c, h with
  | .on .poison, _ => rfl

theorem HandleCall.Through.filter {names : List (List Char)}
    {calls : List (List Char × HandleCall)} (h : Through names calls) :
    Through names (calls.filter (!·.2.fails)) := by
  induction calls generalizing names with
  | nil => trivial
  | cons call calls ih =>
    obtain ⟨handle, c⟩ := call
    obtain ⟨hmem, hcalls⟩ := h
    cases hc : c.fails with
    | true =>
      rw [HandleCall.handles_of_fails hc] at hcalls
      rw [List.filter_cons_of_neg (by simp [hc])]
      exact ih hcalls
    | false =>
      rw [List.filter_cons_of_pos (by simp [hc])]
      exact ⟨hmem, ih hcalls⟩

/-- However many handles are cloned from one shared expander, and in whatever order calls go through
them, each call is answered, and as by a plain expander into which exactly the entries written before it
have been inserted, in their order; a snapshot is that expander. If the writers that fail are left out
of a run, all other calls are answered as before. -/
theorem history_linearizable [Regex.SizeLimit] (s : Store) (root : List Char) (e : Expander)
    {calls : List (List Char × HandleCall)} (h : Through [root] calls) :
    ((s.share root e).history calls).length = calls.length ∧
      (∀ i handle c, calls[i]? = some (handle, c) →
        let plain := e.insertAll ((calls.take i).filterMap (·.2.written?))
        ((s.share root e).history calls)[i]? =
          some ⟨handle, c, .ok (plain.answer c), plain.copy? c⟩) ∧
      (s.share root e).history (calls.filter (!·.2.fails)) =
        ((s.share root e).history calls).filter (!·.call.fails) := by
  have hleads := s.leads_share root e
  rw [hleads.history_eq h, hleads.history_eq h.filter]
  exact ⟨e.length_history calls, fun i handle c hi => Expander.getElem?_history hi,
    e.history_filter calls⟩

/-- Two handles, with writers that fail before and after an entry is written. -/
def interruptedRun : List (List Char × HandleCall) :=
  [(['a'], .clone ['b']), (['a'], .on .poison), (['b'], .on (.insert ['n'] ['.'])),
    (['b'], .on .poison), (['a'], .on (.expand "<n>".toList .none)), (['b'], .snapshot ['c'])]

theorem history_linearizable_of_interruptedRun :
    Through [['a']] interruptedRun ∧
      ((Store.empty.share ['a'] .standard).history interruptedRun)[4]? =
        some ⟨['a'], .on (.expand "<n>".toList .none),
          .ok (.text ((Expander.standard.insert ['n'] ['.']).expand "<n>".toList .none)), none⟩ ∧
      ((Store.empty.share ['a'] .standard).history interruptedRun)[5]? =
        some ⟨['b'], .snapshot ['c'], .ok .done, some (Expander.standard.insert ['n'] ['.'])⟩ := by
  have hthrough : Through [['a']] interruptedRun := by
    simp [interruptedRun, Through, HandleCall.handles]
  have hrecord := (history_linearizable .empty ['a'] .standard hthrough).2.1
  exact ⟨hthrough, hrecord 4 _ _ rfl, hrecord 5 _ _ rfl⟩

end RouteTemplate
