import RouteTemplate.Proofs.Isolation
import RouteTemplate.Proofs.Naming
import Mathlib.Data.Finset.Card

/-!
The state of a table or an expander after any steps. A name has the fragment that was written for it
last, and a setting is what it was last set to; of all that was done before and in between, nothing
shows. So two tables that have the same fragments are equal, and expanders over them with the same
settings expand every template to the same pattern.
-/

namespace RouteTemplate

/-! ### Tables -/

namespace FragmentTable

variable {t u : FragmentTable}

theorem get?_eq_some_iff {name fragment : List Char} :
    t.get? name = some fragment ↔ (name, fragment) ∈ t.entries :=
  lookup_eq_some_iff t.nodup

theorem mem_names_iff {name : List Char} :
    name ∈ t.entries.map (·.1) ↔ ∃ fragment, t.get? name = some fragment := by
  simp [get?_eq_some_iff]

theorem size_eq_card (t : FragmentTable) : t.size = (t.entries.map (·.1)).toFinset.card := by
  rw [List.toFinset_card_of_nodup t.nodup, List.length_map, size]

theorem foldl_extend {α : Type} (t : FragmentTable) (entries : α → List (List Char × List Char))
    (xs : List α) : xs.foldl (fun t x => t.extend (entries x)) t = t.extend (xs.flatMap entries) := by
  induction xs generalizing t with
  | nil => rfl
  | cons x xs ih => rw [List.foldl_cons, ih, List.flatMap_cons, extend_append]

theorem mem_names_extend {entries : List (List Char × List Char)} {name : List Char} :
    name ∈ (t.extend entries).entries.map (·.1) ↔
      name ∈ t.entries.map (·.1) ∨ name ∈ entries.map (·.1) := by
  induction entries generalizing t with
  | nil => simp [extend]
  | cons e entries ih =>
    have hcons : t.extend (e :: entries) = (t.insert e.1 e.2).extend entries := rfl
    rw [hcons, ih, insert, mem_names_put, List.map_cons, List.mem_cons]
    tauto

/-- Entries under distinct names may be written in any order. -/
theorem get?_extend_of_nodup {entries : List (List Char × List Char)}
    (h : (entries.map (·.1)).Nodup) (name : List Char) :
    (t.extend entries).get? name = (entries.lookup name).or (t.get? name) := by
  rw [get?_extend, ← lookup_eq_of_perm h entries.reverse_perm.symm]

theorem get?_extend_of_perm {entries entries' : List (List Char × List Char)}
    (h : (entries.map (·.1)).Nodup) (hperm : entries.Perm entries') (name : List Char) :
    (t.extend entries).get? name = (t.extend entries').get? name := by
  have h' : (entries'.map (·.1)).Nodup := (hperm.map (·.1)).nodup_iff.1 h
  rw [get?_extend_of_nodup h, get?_extend_of_nodup h', lookup_eq_of_perm h hperm]

/-- What a table is after entries have been written over those it began with: it has the last fragment
for each name, and as many entries as there are names. -/
structure LastWritten (u t : FragmentTable) (entries : List (List Char × List Char)) : Prop where
  get? : ∀ name, u.get? name = (entries.reverse.lookup name).or (t.get? name)
  size : u.size = ((t.entries ++ entries).map (·.1)).toFinset.card

theorem lastWritten_extend (t : FragmentTable) (entries : List (List Char × List Char)) :
    (t.extend entries).LastWritten t entries where
  get? := t.get?_extend entries
  size := by
    rw [size_eq_card]
    congr 1
    ext name
    rw [List.mem_toFinset, mem_names_extend, List.mem_toFinset, List.map_append, List.mem_append]

/-- The order in which the entries of a table were written is not seen when tables are compared. -/
theorem same_of_get?_eq (h : ∀ name, t.get? name = u.get? name) : t.same u = true := by
  have hsize : t.size = u.size := by
    rw [size_eq_card, size_eq_card]
    congr 1
    ext name
    simp only [List.mem_toFinset, mem_names_iff, h]
  have hall : ∀ e ∈ t.entries, u.get? e.1 = some e.2 := by
    intro e he
    rw [← h]
    exact get?_eq_some_iff.2 he
  simpa [same, hsize] using fun name fragment he => hall (name, fragment) he

theorem resolve_congr (h : ∀ name, t.get? name = u.get? name) (name : List Char)
    (pattern : Option (List Char)) (default : List Char) :
    t.resolve name pattern default = u.resolve name pattern default := by
  cases pattern <;> simp only [resolve, h]

end FragmentTable

theorem substitute_congr {t u : FragmentTable} (h : ∀ name, t.get? name = u.get? name)
    (default template : List Char) : substitute t default template = substitute u default template := by
  have hexpand : Segment.expand t default = Segment.expand u default := by
    funext x
    cases x with
    | literal => rfl
    | placeholder p => simp only [Segment.expand, FragmentTable.resolve_congr h]
  rw [substitute, substitute, hexpand]

/-- An expansion depends on nothing but the fragments of the table and the settings. -/
theorem Expander.expand_congr {e f : Expander} (htable : ∀ name, e.table.get? name = f.table.get? name)
    (hsettings : e.settings = f.settings) (template : List Char) (o : Overrides) :
    e.expand template o = f.expand template o := by
  simp only [expand, hsettings, substitute_congr htable]

/-! ### Settings -/

namespace Settings

/-- The settings of which each is what the last overrides set it to that say anything of it. -/
def lastSet (s : Settings) (merges : List Overrides) : Settings where
  defaultFragment := (merges.filterMap (·.defaultFragment)).getLast?.getD s.defaultFragment
  anchor := (merges.filterMap (·.anchor)).getLast?.getD s.anchor
  terminate := (merges.filterMap (·.terminate)).getLast?.getD s.terminate
  appendSlash := (merges.filterMap (·.appendSlash)).getLast?.getD s.appendSlash

theorem getLast?_filterMap_cons {α : Type} (get : Overrides → Option α) (o : Overrides)
    (merges : List Overrides) (x : α) :
    ((o :: merges).filterMap get).getLast?.getD x =
      (merges.filterMap get).getLast?.getD ((get o).getD x) := by
  rw [List.filterMap_cons]
  cases get o with
  | none => rfl
  | some y => simp [List.getLast?_cons]

theorem lastSet_cons (s : Settings) (o : Overrides) (merges : List Overrides) :
    s.lastSet (o :: merges) = (s.merge o).lastSet merges := by
  simp only [lastSet, getLast?_filterMap_cons, merge]

end Settings

/-! ### Steps that write -/

/-- The steps that are done on a name. -/
def stepsOn (on : List Char) (steps : List (List Char × Step)) : List Step :=
  (steps.filter (·.1 = on)).map (·.2)

theorem stepsOn_cons_self (on : List Char) (x : Step) (steps : List (List Char × Step)) :
    stepsOn on ((on, x) :: steps) = x :: stepsOn on steps := by
  simp [stepsOn]

theorem stepsOn_cons_of_ne {on n : List Char} (h : n ≠ on) (x : Step)
    (steps : List (List Char × Step)) : stepsOn on ((n, x) :: steps) = stepsOn on steps := by
  simp [stepsOn, h]

namespace Step

/-- The entries that a step on the name of a table writes. -/
def tableEntries : Step → List (List Char × List Char)
  | .table (.insert name fragment) => [(name, fragment)]
  | .table (.extend entries) => entries
  | _ => []

/-- The entries that a step on the name of an expander writes. -/
def expanderEntries : Step → List (List Char × List Char)
  | .expander (.insert name fragment) => [(name, fragment)]
  | .create (.withEntry _ name fragment) => [(name, fragment)]
  | _ => []

/-- The settings that a step on the name of an expander replaces. -/
def merged? : Step → Option Overrides
  | .expander (.override o) => some o
  | _ => none

/-- Whether a step makes no new value, unless it is the value on a name itself with one entry more. -/
def edits (on : List Char) : Step → Bool
  | .create (.withEntry source _ _) => source = on
  | .create _ => false
  | _ => true

end Step

/-- What becomes of an expander by a step on its name. -/
def Expander.edited (e : Expander) (x : Step) : Expander where
  table := e.table.extend x.expanderEntries
  settings := x.merged?.elim e.settings e.settings.merge

theorem Expander.foldl_edited (e : Expander) (steps : List Step) :
    steps.foldl Expander.edited e =
      ⟨e.table.extend (steps.flatMap Step.expanderEntries),
        e.settings.lastSet (steps.filterMap Step.merged?)⟩ := by
  induction steps generalizing e with
  | nil => rfl
  | cons x steps ih =>
    rw [List.foldl_cons, ih, List.flatMap_cons, FragmentTable.extend_append, List.filterMap_cons]
    cases h : x.merged? with
    | none => simp only [edited, h, Option.elim_none]
    | some o => simp only [edited, h, Option.elim_some, Settings.lastSet_cons]

namespace Store

variable {s : Store} {o : Origins} {i : Nat} {on : List Char} {t : FragmentTable} {e : Expander}

theorem content?_put_table : (s.put on (.table t)).content? on = some (.table t) := by
  simp [content?]

variable [Regex.SizeLimit]

theorem perform_table (h : s.content? on = some (.table t)) (x : TableStep) :
    s.perform on (.table x) = s.onTable on t x := by
  simp [perform, table, held, content?_eq_table_iff.1 h, bind, Except.bind]

theorem perform_expander (h : s.content? on = some (.expander e)) (x : ExpanderStep) :
    s.perform on (.expander x) = s.onExpander on e x := by
  simp [perform, expander_of_content? h, bind, Except.bind]

/-- A step for values of another kind than the one on a name is refused. -/
theorem step_of_wrongKind {x : Step} (h : s.perform on x = .error .wrongKind) :
    (s.step on x).2 = s := by
  simp [step, h]

theorem step_tableInsert (h : s.content? on = some (.table t)) (name fragment : List Char) :
    (s.step on (.table (.insert name fragment))).1 =
      .ok (.inserted (t.get? name) (t.insert name fragment).size) := by
  simp [step, perform_table h, onTable]

theorem content?_step_expanderOver (h : s.content? on = some (.table t)) {settings : Settings} :
    (s.step on (.create (.expanderOver on settings))).2.content? on =
      some (.expander ⟨t, settings⟩) := by
  simp [step, perform, create, table, held, content?_eq_table_iff.1 h, bind, Except.bind, pure,
    Except.pure, content?_put_expander]

theorem content?_step_table (h : s.content? on = some (.table t)) {x : Step}
    (hx : x.creates = false) :
    (s.step on x).2.content? on = some (.table (t.extend x.tableEntries)) := by
  have hfind := content?_eq_table_iff.1 h
  cases x with
  | create => cases hx
  | table y =>
    simp only [step, perform_table h]
    cases y with
    | insert | extend => exact content?_put_table
    | same other =>
      simp only [onTable]
      cases s.table other <;> exact h
    | _ => exact h
  | expander | shared | route =>
    rw [step_of_wrongKind]
    · exact h
    · simp [perform, expander, sharedExpander, route, held, hfind, bind, Except.bind]

theorem content?_step_expander (h : s.content? on = some (.expander e)) {x : Step}
    (hx : x.edits on) :
    (s.step on x).2.content? on = some (.expander (e.edited x)) := by
  have hfind := content?_eq_expander_iff.1 h
  cases x with
  | create c =>
    cases c with
    | withEntry source name fragment =>
      obtain rfl : source = on := by simpa [Step.edits] using hx
      simp only [step, perform, create, expander_of_content? h]
      exact content?_put_expander
    | _ => cases hx
  | expander y =>
    simp only [step, perform_expander h]
    cases y with
    | insert | override => exact content?_put_expander
    | compile template o paths =>
      simp only [onExpander]
      cases (e.compile template o).mapError Refusal.failed <;> exact h
    | _ => exact h
  | table | shared | route =>
    rw [step_of_wrongKind]
    · exact h
    · simp [perform, table, sharedExpander, route, held, hfind, bind, Except.bind]

/-- What becomes of a value in a run, if its own steps change it as `f` says: steps on other names do not
matter. -/
theorem content?_run_foldl {α : Type} {c : α → Content} {f : α → Step → α} {P : Step → Prop} {a : α}
    (hc : ∀ a e, c a ≠ .shared e)
    (hstep : ∀ (s : Store) a x, s.content? on = some (c a) → P x →
      (s.step on x).2.content? on = some (c (f a x)))
    (ht : s.Traced o i) (h : s.content? on = some (c a)) {steps : List (List Char × Step)}
    (hsteps : ∀ x ∈ stepsOn on steps, P x) :
    (s.run steps).content? on = some (c ((stepsOn on steps).foldl f a)) := by
  induction steps generalizing s o i a with
  | nil => exact h
  | cons y steps ih =>
    obtain ⟨n, x⟩ := y
    by_cases hn : n = on
    · subst hn
      rw [stepsOn_cons_self] at hsteps ⊢
      have hx := hstep s a x h (hsteps x List.mem_cons_self)
      exact ih (ht.step n x) hx fun z hz => hsteps z (List.mem_cons_of_mem _ hz)
    · rw [stepsOn_cons_of_ne hn] at hsteps ⊢
      have hakin : ¬o.Akin n on := not_akin ht (by simp [h, hc])
      have hx := (content?_step (x := x) ht (Ne.symm hn) fun _ => hakin).1
      exact ih (ht.step n x) (hx.trans h) hsteps

theorem content?_run_table (ht : s.Traced o i) (h : s.content? on = some (.table t))
    {steps : List (List Char × Step)} (hsteps : ∀ x ∈ stepsOn on steps, x.creates = false) :
    (s.run steps).content? on =
      some (.table (t.extend ((stepsOn on steps).flatMap Step.tableEntries))) := by
  have hstep (s : Store) (t : FragmentTable) (x : Step) (h : s.content? on = some (.table t))
      (hx : x.creates = false) :
      (s.step on x).2.content? on = some (.table (t.extend x.tableEntries)) :=
    content?_step_table h hx
  rw [content?_run_foldl (by simp) hstep ht h hsteps, FragmentTable.foldl_extend]

theorem content?_run_expander (ht : s.Traced o i) (h : s.content? on = some (.expander e))
    {steps : List (List Char × Step)} (hsteps : ∀ x ∈ stepsOn on steps, x.edits on) :
    (s.run steps).content? on = some (.expander
      ⟨e.table.extend ((stepsOn on steps).flatMap Step.expanderEntries),
        e.settings.lastSet ((stepsOn on steps).filterMap Step.merged?)⟩) := by
  have hstep (s : Store) (e : Expander) (x : Step) (h : s.content? on = some (.expander e))
      (hx : x.edits on) : (s.step on x).2.content? on = some (.expander (e.edited x)) :=
    content?_step_expander h hx
  rw [content?_run_foldl (by simp) hstep ht h hsteps, Expander.foldl_edited]

end Store

/-! ### Whole runs -/

/-- A table begins as `t` with `first` put in, and is filled in the run `filling`; then it becomes the table
of an expander, which is written to in the run `editing`. In both runs there may be any other steps, on
this and on other names, refused ones too. At the end of each run every name has the fragment that was
written for it last, and each setting is what it was last set to. An insertion answers with the fragment
that it replaces. Another expander with the same fragments and settings, whatever its history, has an
equal table and expands all templates to the same patterns. -/
theorem state_of_last_writes [Regex.SizeLimit] (before filling editing : List (List Char × Step))
    (on : List Char) (t : FragmentTable) (first : List (List Char × List Char)) (settings : Settings)
    (hfilling : ∀ x ∈ stepsOn on filling, x.creates = false)
    (hediting : ∀ x ∈ stepsOn on editing, x.edits on) :
    let started := Store.empty.run (before ++ [(on, .create (.table (t.extend first)))])
    let filled := started.run filling
    let edited := (filled.step on (.create (.expanderOver on settings))).2.run editing
    let filled' := (stepsOn on filling).flatMap Step.tableEntries
    let edited' := (stepsOn on editing).flatMap Step.expanderEntries
    (∃ u, filled.content? on = some (.table u) ∧ u.LastWritten t (first ++ filled')) ∧
      (∀ i name fragment, filling[i]? = some (on, .table (.insert name fragment)) →
        let written := first ++ (stepsOn on (filling.take i)).flatMap Step.tableEntries
        ((started.run (filling.take i)).step on (.table (.insert name fragment))).1 =
          .ok (.inserted ((written.reverse.lookup name).or (t.get? name))
            ((t.entries ++ (written ++ [(name, fragment)])).map (·.1)).toFinset.card)) ∧
      ∃ e, edited.content? on = some (.expander e) ∧
        e.table.LastWritten t (first ++ filled' ++ edited') ∧
        e.settings = settings.lastSet ((stepsOn on editing).filterMap Step.merged?) ∧
        ∀ f : Expander, (∀ name, f.table.get? name = e.table.get? name) → f.settings = e.settings →
          e.table.same f.table ∧ ∀ template o, f.expand template o = e.expand template o := by
  intro started filled edited filled' edited'
  have hstarted : started.content? on = some (.table (t.extend first)) := by
    simp only [started, Store.run_append]
    exact Store.content?_put_table
  have htraced := Store.traced_run (before ++ [(on, .create (.table (t.extend first)))])
  have hfilled := Store.content?_run_table htraced hstarted hfilling
  rw [← FragmentTable.extend_append] at hfilled
  refine ⟨⟨_, hfilled, FragmentTable.lastWritten_extend _ _⟩, ?_, ?_⟩
  · intro i name fragment _ written
    have htake : ∀ x ∈ stepsOn on (filling.take i), x.creates = false := fun x hx =>
      hfilling x (((List.take_sublist i filling).filter _).map _ |>.subset hx)
    have hbefore := Store.content?_run_table htraced hstarted htake
    rw [← FragmentTable.extend_append] at hbefore
    have hinsert : (t.extend written).insert name fragment =
        t.extend (written ++ [(name, fragment)]) := (t.extend_append written [(name, fragment)]).symm
    rw [Store.step_tableInsert hbefore, hinsert, FragmentTable.get?_extend,
      (FragmentTable.lastWritten_extend _ _).size]
  · have hcreated : (filled.step on (.create (.expanderOver on settings))).2.content? on =
        some (.expander ⟨t.extend (first ++ filled'), settings⟩) :=
      Store.content?_step_expanderOver hfilled
    have hedited := Store.content?_run_expander ((htraced.run filling).step _ _) hcreated hediting
    rw [← FragmentTable.extend_append] at hedited
    refine ⟨_, hedited, FragmentTable.lastWritten_extend _ _, rfl, fun f htable hsettings => ?_⟩
    exact ⟨FragmentTable.same_of_get?_eq fun name => (htable name).symm,
      Expander.expand_congr htable hsettings⟩

/-- A table that is written to twice for one name, with steps in between that are done on another name or
refused. -/
def fillingRun : List (List Char × Step) :=
  [(['t'], .table (.insert ['n'] ['1'])), (['u'], .create (.tableOf ['t'])),
    (['t'], .expander (.insert ['n'] ['2'])), (['t'], .table (.extend [(['m'], ['3'])]))]

/-- An expander that is written to, with a template between the writes that has no route. -/
def editingRun : List (List Char × Step) :=
  [(['t'], .expander (.override ⟨none, some false, none, none⟩)),
    (['t'], .create (.withEntry ['t'] ['n'] ['4'])), (['r'], .create (.route ['t'] ['('] .none)),
    (['t'], .expander (.override ⟨none, none, some false, none⟩))]

theorem state_of_last_writes_of_editingRun :
    (∀ x ∈ stepsOn ['t'] fillingRun, x.creates = false) ∧
      (∀ x ∈ stepsOn ['t'] editingRun, x.edits ['t']) ∧
      ∃ e : Expander, e.table.get? ['n'] = some ['4'] ∧ e.table.get? ['m'] = some ['3'] ∧
        e.table.size = 2 ∧ e.settings = ⟨"\\d+".toList, false, false, true⟩ := by
  have hfilling : ∀ x ∈ stepsOn ['t'] fillingRun, x.creates = false := by
    simp [stepsOn, fillingRun, Step.creates]
  have hediting : ∀ x ∈ stepsOn ['t'] editingRun, x.edits ['t'] := by
    simp [stepsOn, editingRun, Step.edits]
  obtain ⟨-, -, e, -, htable, hsettings, -⟩ := state_of_last_writes [] fillingRun editingRun ['t']
    .empty [(['n'], ['0'])] .standard hfilling hediting
  refine ⟨hfilling, hediting, e, (htable.get? _).trans rfl, (htable.get? _).trans rfl, ?_, hsettings⟩
  exact htable.size.trans (by decide)

end RouteTemplate
