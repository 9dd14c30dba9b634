import RouteTemplate.Session.Step
import Mathlib.Logic.Function.Basic

/-!
Which values the steps of a session change. Tables, expanders and routes are values of their own, and a
step changes none but the one that it is done on. A shared expander is seen through all handles that
were cloned from the one that came with it: an entry that is written through one of them is seen through
exactly these. Where a handle comes from is read off the steps of the session, without a look at what the
store does with handles.
-/

namespace RouteTemplate

/-! ### Where handles come from -/

/-- For each name that holds a handle, the number of the step that made the shared expander. -/
abbrev Origins := List Char → Option Nat

/-- Both names hold handles, and these were cloned from one and the same in any number of steps. -/
def Origins.Akin (o : Origins) (m n : List Char) : Prop := ∃ i, o m = some i ∧ o n = some i

/-- Where a value comes from that step number `i` makes. A clone comes from where its source does. -/
def Creation.origin (o : Origins) (i : Nat) : Creation → Option Nat
  | .shared _ | .share _ => some i
  | .clone source => o source
  | _ => none

/-- Where handles come from after step number `i`, if it is not refused. -/
def Step.origins (o : Origins) (i : Nat) (on : List Char) : Step → Origins
  | .create c => Function.update o on (c.origin o i)
  | _ => o

namespace Store

/-- Where handles come from after steps with numbers from `i` on. -/
def origins [Regex.SizeLimit] : Store → Origins → Nat → List (List Char × Step) → Origins
  | _, o, _, [] => o
  | s, o, i, (on, x) :: steps =>
    let outcome := s.step on x
    outcome.2.origins (if outcome.1.isOk then x.origins o i on else o) (i + 1) steps

end Store

/-- Where handles come from at the end of a session. -/
def originsOf [Regex.SizeLimit] (steps : List (List Char × Step)) : Origins :=
  Store.empty.origins (fun _ => none) 0 steps

/-! ### What can be observed of a value -/

/-- What a name stands for. A handle stands for the expander that it leads to, whatever became of the
lock. -/
inductive Content where
  | table (t : FragmentTable)
  | expander (e : Expander)
  | shared (e : Expander)
  | route (r : Route)

/-- Whether a step only asks for something about the value that it is done on. -/
def Step.asks : Step → Bool
  | .create _ => false
  | .table (.insert _ _) | .table (.extend _) | .table (.same _) => false
  | .expander (.insert _ _) | .expander (.override _) => false
  | .shared (.insert _ _) | .shared .poison => false
  | _ => true

/-- Whether a step writes an entry through a handle. -/
def Step.writesThrough : Step → Bool
  | .shared (.insert _ _) => true
  | _ => false

/-- Whether a step makes a value. -/
def Step.creates : Step → Bool
  | .create _ => true
  | _ => false

namespace Store

def content? (s : Store) (name : List Char) : Option Content :=
  match s.find? name with
  | some (.table t) => some (.table t)
  | some (.expander e) => some (.expander e)
  | some (.shared handle) => s.shared[handle]?.map fun x => .shared x.snapshot
  | some (.route r) => some (.route r)
  | none => none

section Content

variable {s : Store} {name : List Char}

theorem content?_eq_table_iff {t : FragmentTable} :
    s.content? name = some (.table t) ↔ s.find? name = some (.table t) := by
  unfold content?
  split <;> simp_all

theorem content?_eq_expander_iff {e : Expander} :
    s.content? name = some (.expander e) ↔ s.find? name = some (.expander e) := by
  unfold content?
  split <;> simp_all

theorem content?_eq_route_iff {r : Route} :
    s.content? name = some (.route r) ↔ s.find? name = some (.route r) := by
  unfold content?
  split <;> simp_all

theorem content?_eq_shared_iff {e : Expander} :
    s.content? name = some (.shared e) ↔
      ∃ handle poisoned, s.find? name = some (.shared handle) ∧
        s.shared[handle]? = some ⟨e, poisoned⟩ := by
  constructor
  · intro h
    unfold content? at h
    split at h
    case h_3 handle hfind =>
      obtain ⟨⟨e', poisoned⟩, hx, heq⟩ := Option.map_eq_some_iff.1 h
      obtain rfl : e' = e := by simpa using heq
      exact ⟨handle, poisoned, hfind, hx⟩
    all_goals cases h
  · rintro ⟨handle, poisoned, hfind, hx⟩
    simp [content?, hfind, hx]

end Content

/-! ### What a step does -/

/-- What a step that is not refused does to a store. -/
inductive Effect (s : Store) (on : List Char) : Step → Store → Prop where
  | nothing {x : Step} (hx : x.creates = false) : Effect s on x s
  | editTable {x : TableStep} {t : FragmentTable} (u : FragmentTable)
      (hasks : Step.asks (.table x) = false) (hon : s.find? on = some (.table t)) :
      Effect s on (.table x) (s.put on (.table u))
  | editExpander {x : ExpanderStep} {e : Expander} (f : Expander)
      (hasks : Step.asks (.expander x) = false) (hon : s.find? on = some (.expander e)) :
      Effect s on (.expander x) (s.put on (.expander f))
  | make {c : Creation} {v : Held} (hc : ∀ o i, c.origin o i = none)
      (hv : ∀ handle, v ≠ .shared handle) : Effect s on (.create c) (s.put on v)
  | share {c : Creation} (e : Expander) (hc : ∀ o i, c.origin o i = some i) :
      Effect s on (.create c) (s.share on e)
  | clone {source : List Char} {v : Held} (hv : s.find? source = some v) :
      Effect s on (.create (.clone source)) (s.put on v)
  | write {handle : Nat} (name fragment : List Char) (hon : s.find? on = some (.shared handle)) :
      Effect s on (.shared (.insert name fragment)) (s.changeShared handle (·.insert name fragment))
  | poison {handle : Nat} (hon : s.find? on = some (.shared handle)) :
      Effect s on (.shared .poison) (s.changeShared handle SharedExpander.poison)

section Effect

open Regex (eq_ok_of_bind_eq_ok)

variable {s s' : Store} {on : List Char}

theorem find?_of_held {v : Held} (h : s.held on = .ok v) : s.find? on = some v := by
  unfold held at h
  split at h
  next hfind => rw [hfind, Except.ok.inj h]
  · cases h

theorem find?_of_table {t : FragmentTable} (h : s.table on = .ok t) :
    s.find? on = some (.table t) := by
  obtain ⟨v, hv, h⟩ := eq_ok_of_bind_eq_ok h
  cases v <;> cases h
  exact find?_of_held hv

theorem find?_of_expander {e : Expander} (h : s.expander on = .ok e) :
    s.find? on = some (.expander e) := by
  obtain ⟨v, hv, h⟩ := eq_ok_of_bind_eq_ok h
  cases v <;> cases h
  exact find?_of_held hv

theorem find?_of_sharedExpander {handle : Nat} {x : SharedExpander}
    (h : s.sharedExpander on = .ok (handle, x)) :
    s.find? on = some (.shared handle) ∧ s.shared[handle]? = some x := by
  obtain ⟨v, hv, h⟩ := eq_ok_of_bind_eq_ok h
  cases v with
  | shared n =>
    simp only at h
    split at h <;> cases h
    next hx => exact ⟨find?_of_held hv, hx⟩
  | _ => cases h

theorem effect_of_create [Regex.SizeLimit] {c : Creation} (h : s.create on c = .ok s') :
    s.Effect on (.create c) s' := by
  cases c with
  | table | expander =>
    cases h
    exact .make (fun _ _ => rfl) (by simp)
  | expanderOver | load | snapshot | tableOf | withEntry =>
    obtain ⟨_, -, h⟩ := eq_ok_of_bind_eq_ok h
    cases h
    exact .make (fun _ _ => rfl) (by simp)
  | route =>
    obtain ⟨_, -, h⟩ := eq_ok_of_bind_eq_ok h
    obtain ⟨_, -, h⟩ := eq_ok_of_bind_eq_ok h
    cases h
    exact .make (fun _ _ => rfl) (by simp)
  | shared e =>
    cases h
    exact .share e fun _ _ => rfl
  | share =>
    obtain ⟨e, -, h⟩ := eq_ok_of_bind_eq_ok h
    cases h
    exact .share e fun _ _ => rfl
  | clone =>
    obtain ⟨v, hv, h⟩ := eq_ok_of_bind_eq_ok h
    cases h
    exact .clone (find?_of_held hv)

theorem effect_of_perform [Regex.SizeLimit] {x : Step} {a : Answer}
    (h : s.perform on x = .ok (a, s')) : s.Effect on x s' := by
  cases x with
  | create c =>
    obtain ⟨_, hc, h⟩ := eq_ok_of_bind_eq_ok h
    cases h
    exact effect_of_create hc
  | table t =>
    obtain ⟨u, hu, h⟩ := eq_ok_of_bind_eq_ok h
    have hfind := find?_of_table hu
    cases t with
    | insert | extend =>
      cases h
      exact .editTable _ rfl hfind
    | get | contains | size | sorted | resolve =>
      cases h
      exact .nothing rfl
    | same =>
      obtain ⟨_, -, h⟩ := eq_ok_of_bind_eq_ok h
      cases h
      exact .nothing rfl
  | expander y =>
    obtain ⟨e, he, h⟩ := eq_ok_of_bind_eq_ok h
    have hfind := find?_of_expander he
    cases y with
    | insert | override =>
      cases h
      exact .editExpander _ rfl hfind
    | get | sorted | settings | expand =>
      cases h
      exact .nothing rfl
    | compile =>
      obtain ⟨_, -, h⟩ := eq_ok_of_bind_eq_ok h
      cases h
      exact .nothing rfl
  | shared y =>
    obtain ⟨⟨handle, x⟩, hx, h⟩ := eq_ok_of_bind_eq_ok h
    obtain ⟨hfind, -⟩ := find?_of_sharedExpander hx
    cases y with
    | insert name fragment =>
      cases h
      exact .write name fragment hfind
    | poison =>
      cases h
      exact .poison hfind
    | expand | expandAll =>
      cases h
      exact .nothing rfl
  | route r =>
    cases r
    obtain ⟨_, -, h⟩ := eq_ok_of_bind_eq_ok h
    cases h
    exact .nothing rfl

/-- A step either does one of these things or is refused. -/
theorem step_cases [Regex.SizeLimit] (s : Store) (on : List Char) (x : Step) :
    (∃ a, (s.step on x).1 = .ok a ∧ s.Effect on x (s.step on x).2) ∨
      (∃ e, (s.step on x).1 = .error e ∧ (s.step on x).2 = s) := by
  unfold step
  split
  next a s' h => exact .inl ⟨a, rfl, effect_of_perform h⟩
  next e _ => exact .inr ⟨e, rfl, rfl⟩

end Effect

/-! ### Handles and where they come from -/

/-- Every handle leads somewhere, and two names hold the same handle if and only if their handles are
akin. -/
structure Traced (s : Store) (o : Origins) (i : Nat) : Prop where
  lt_length : ∀ n handle, s.find? n = some (.shared handle) → handle < s.shared.length
  lt : ∀ n j, o n = some j → j < i
  akin_iff : ∀ m n, o.Akin m n ↔
    ∃ handle, s.find? m = some (.shared handle) ∧ s.find? n = some (.shared handle)

namespace Traced

variable {s s' : Store} {o : Origins} {i : Nat} {on : List Char}

theorem empty : Store.empty.Traced (fun _ => none) 0 where
  lt_length n handle h := by cases h
  lt n j h := by cases h
  akin_iff m n := by simp [Origins.Akin, Store.empty, find?]

theorem mono (h : s.Traced o i) : s.Traced o (i + 1) :=
  ⟨h.lt_length, fun n j hn => Nat.lt_succ_of_lt (h.lt n j hn), h.akin_iff⟩

theorem exists_shared (h : s.Traced o i) {handle : Nat} (hon : s.find? on = some (.shared handle)) :
    ∃ e poisoned, s.shared[handle]? = some ⟨e, poisoned⟩ :=
  ⟨_, _, List.getElem?_eq_getElem (h.lt_length on handle hon)⟩

/-- A name that holds no handle comes from nowhere. -/
theorem eq_none (h : s.Traced o i) (hon : ∀ handle, s.find? on ≠ some (.shared handle)) :
    o on = none := by
  by_contra hne
  obtain ⟨j, hj⟩ := Option.ne_none_iff_exists'.1 hne
  obtain ⟨handle, hfind, -⟩ := (h.akin_iff on on).1 ⟨j, hj, hj⟩
  exact hon handle hfind

theorem put (h : s.Traced o i) {v : Held} (hv : ∀ handle, v ≠ .shared handle) :
    (s.put on v).Traced (Function.update o on none) i where
  lt_length n handle hn := by
    rw [find?_put] at hn
    split at hn
    · exact absurd (Option.some.inj hn) (hv handle)
    · exact h.lt_length n handle hn
  lt n j hn := by
    by_cases hne : n = on
    · simp [hne] at hn
    · exact h.lt n j (by simpa [hne] using hn)
  akin_iff m n := by
    have := h.akin_iff m n
    by_cases hm : m = on <;> by_cases hn : n = on <;> simp_all [Origins.Akin]

theorem replace (h : s.Traced o i) {v : Held} (hon : ∀ handle, s.find? on ≠ some (.shared handle))
    (hv : ∀ handle, v ≠ .shared handle) : (s.put on v).Traced o i := by
  have hput : (s.put on v).Traced (Function.update o on none) i := h.put hv
  rwa [← h.eq_none hon, Function.update_eq_self] at hput

/-- A handle on a new shared expander is akin to itself alone. -/
theorem share (h : s.Traced o i) (e : Expander) :
    (s.share on e).Traced (Function.update o on (some i)) (i + 1) where
  lt_length n handle hn := by
    have hlength : (s.share on e).shared.length = s.shared.length + 1 := by simp [Store.share]
    rw [find?_share] at hn
    split at hn
    · cases hn
      omega
    · have := h.lt_length n handle hn
      omega
  lt n j hn := by
    by_cases hne : n = on
    · simp [hne] at hn
      omega
    · have := h.lt n j (by simpa [hne] using hn)
      omega
  akin_iff m n := by
    -- Neither the number of the step nor that of the expander has been used before.
    have horigin : ∀ k, o k ≠ some i := fun k hk => Nat.lt_irrefl i (h.lt k i hk)
    have hhandle : ∀ k, s.find? k ≠ some (.shared s.shared.length) :=
      fun k hk => Nat.lt_irrefl _ (h.lt_length k _ hk)
    have := h.akin_iff m n
    by_cases hm : m = on <;> by_cases hn : n = on <;> simp_all [Origins.Akin]

theorem clone (h : s.Traced o i) {source : List Char} {v : Held} (hv : s.find? source = some v) :
    (s.put on v).Traced (Function.update o on (o source)) i := by
  -- The clone stands in for its source.
  have hfind : ∀ n, (s.put on v).find? n = s.find? (if n = on then source else n) := by
    intro n
    rw [find?_put]
    split
    · exact hv.symm
    · rfl
  have horigin : ∀ n, Function.update o on (o source) n = o (if n = on then source else n) := by
    intro n
    by_cases hn : n = on <;> simp [hn]
  refine ⟨fun n handle hn => ?_, fun n j hn => ?_, fun m n => ?_⟩
  · exact h.lt_length _ handle (hfind n ▸ hn)
  · exact h.lt _ j (horigin n ▸ hn)
  · rw [Origins.Akin, horigin, horigin, hfind, hfind]
    exact h.akin_iff _ _

theorem changeShared (h : s.Traced o i) (handle : Nat) (f : SharedExpander → SharedExpander) :
    (s.changeShared handle f).Traced o i where
  lt_length n handle' hn := by
    rw [Store.changeShared, List.length_modify]
    exact h.lt_length n handle' hn
  lt := h.lt
  akin_iff := h.akin_iff

theorem effect (h : s.Traced o i) {x : Step} (hx : s.Effect on x s') :
    s'.Traced (x.origins o i on) (i + 1) := by
  cases hx with
  | nothing hx =>
    cases x with
    | create => cases hx
    | _ => exact h.mono
  | editTable u _ hon | editExpander u _ hon =>
    exact (h.replace (by simp [hon]) (by simp)).mono
  | make hc hv =>
    rw [Step.origins, hc]
    exact (h.put hv).mono
  | share e hc =>
    rw [Step.origins, hc]
    exact h.share e
  | clone hv => exact (h.clone hv).mono
  | write name fragment hon => exact (h.changeShared _ _).mono
  | poison hon => exact (h.changeShared _ _).mono

theorem step [Regex.SizeLimit] (h : s.Traced o i) (on : List Char) (x : Step) :
    (s.step on x).2.Traced (if (s.step on x).1.isOk then x.origins o i on else o) (i + 1) := by
  rcases s.step_cases on x with ⟨a, hok, heffect⟩ | ⟨e, herror, hsame⟩
  · rw [hok]
    exact h.effect heffect
  · rw [herror, hsame]
    exact h.mono

theorem run [Regex.SizeLimit] (h : s.Traced o i) (steps : List (List Char × Step)) :
    (s.run steps).Traced (s.origins o i steps) (i + steps.length) := by
  induction steps generalizing s o i with
  | nil => exact h
  | cons y steps ih =>
    have hlength : i + (y :: steps).length = i + 1 + steps.length := by
      rw [List.length_cons]
      omega
    rw [hlength]
    exact ih (h.step y.1 y.2)

end Traced

/-- What is known of every store that a session leads to. -/
theorem traced_run [Regex.SizeLimit] (steps : List (List Char × Step)) :
    (Store.empty.run steps).Traced (originsOf steps) steps.length := by
  have := Traced.empty.run steps
  rwa [Nat.zero_add] at this

/-! ### Other values -/

section Frame

variable {s s' : Store} {o : Origins} {i : Nat} {on n : List Char} {x : Step}

theorem content?_put_of_ne (s : Store) (v : Held) (hn : n ≠ on) :
    (s.put on v).content? n = s.content? n := by
  unfold content?
  rw [find?_put, if_neg hn]
  rfl

theorem content?_share_of_ne (ht : s.Traced o i) (e : Expander) (hn : n ≠ on) :
    (s.share on e).content? n = s.content? n := by
  have hfind : (s.share on e).find? n = s.find? n := by simp [hn]
  unfold content?
  rw [hfind]
  split <;> try rfl
  next handle h =>
    rw [share, List.getElem?_append_left (ht.lt_length n handle h)]

/-- A handle that does not lead to the shared expander that changes, or to one that changes for no
expansion, stands for the same as before. -/
theorem content?_changeShared {handle : Nat} {f : SharedExpander → SharedExpander}
    (h : s.find? n = some (.shared handle) → ∀ x, (f x).expander = x.expander) :
    (s.changeShared handle f).content? n = s.content? n := by
  unfold content?
  rw [find?_changeShared]
  split <;> try rfl
  next handle' hfind =>
    rw [changeShared, List.getElem?_modify]
    by_cases heq : handle = handle'
    · subst heq
      cases s.shared[handle]? <;> simp [h hfind]
    · simp [heq]

theorem Effect.find?_eq (hx : s.Effect on x s') (hn : n ≠ on) : s'.find? n = s.find? n := by
  cases hx <;> simp [hn]

theorem Effect.content?_eq (hx : s.Effect on x s') (ht : s.Traced o i) (hn : n ≠ on)
    (hakin : x.writesThrough → ¬o.Akin on n) : s'.content? n = s.content? n := by
  cases hx with
  | nothing => rfl
  | editTable | editExpander | make | clone => exact content?_put_of_ne s _ hn
  | share e => exact content?_share_of_ne ht e hn
  | write name fragment hon =>
    refine content?_changeShared fun hfind => ?_
    exact absurd ((ht.akin_iff on n).2 ⟨_, hon, hfind⟩) (hakin rfl)
  | poison => exact content?_changeShared fun _ _ => SharedExpander.expander_poison _

/-- The lock may have been poisoned in between, but the expander behind it is the same. -/
theorem sharedExpander_congr (hfind : s'.find? n = s.find? n)
    (hcontent : s'.content? n = s.content? n) :
    (s'.sharedExpander n).map (·.2.expander) = (s.sharedExpander n).map (·.2.expander) := by
  unfold content? at hcontent
  rw [hfind] at hcontent
  simp only [sharedExpander, held, hfind]
  cases hn : s.find? n with
  | none => rfl
  | some v =>
    cases v with
    | shared handle =>
      simp only [hn] at hcontent
      cases hx : s.shared[handle]? <;> cases hx' : s'.shared[handle]? <;>
        simp_all [bind, Except.bind, Except.map]
    | _ => rfl

/-- What is asked of a name is answered from what the name stands for. -/
theorem answer_eq [Regex.SizeLimit] (hfind : s'.find? n = s.find? n)
    (hcontent : s'.content? n = s.content? n) {q : Step} (hq : q.asks) : (s'.step n q).1 = (s.step n q).1 := by
  have hheld : s'.held n = s.held n := by simp only [held, hfind]
  cases q with
  | create => cases hq
  | table q =>
    have htable : s'.table n = s.table n := by simp only [table, hheld]
    simp only [step, perform, htable]
    cases s.table n with
    | error => rfl
    | ok t => cases q <;> first | rfl | cases hq
  | expander q =>
    have hexpander : s'.expander n = s.expander n := by simp only [expander, hheld]
    simp only [step, perform, hexpander]
    cases s.expander n with
    | error => rfl
    | ok e =>
      cases q with
      | compile template o paths =>
        simp only [bind, Except.bind, onExpander]
        cases (e.compile template o).mapError Refusal.failed <;> rfl
      | insert | override => cases hq
      | _ => rfl
  | shared q =>
    have hshared := sharedExpander_congr hfind hcontent
    simp only [step, perform]
    cases hx : s.sharedExpander n <;> cases hx' : s'.sharedExpander n <;>
      simp only [hx, hx', Except.map, reduceCtorEq, Except.ok.injEq, Except.error.injEq] at hshared
    next => rw [hshared]; rfl
    next x x' =>
      cases q with
      | insert | poison => cases hq
      | expand | expandAll => simp [bind, Except.bind, pure, Except.pure, onShared, hshared]
  | route q =>
    have hroute : s'.route n = s.route n := by simp only [route, hheld]
    simp only [step, perform, hroute]
    cases q
    cases s.route n <;> rfl

theorem Effect.eq_of_asks (hx : s.Effect on x s') (hasks : x.asks) : s' = s := by
  cases hx with
  | nothing => rfl
  | editTable _ h | editExpander _ h => exact absurd hasks (by simp [h])
  | _ => cases hasks

/-- Only a value in its place can put an end to a route. -/
theorem Effect.eq_of_route (hx : s.Effect on x s') {r : Route} (hon : s.find? on = some (.route r))
    (hcreates : x.creates = false) : s' = s := by
  cases hx with
  | nothing => rfl
  | make | share | clone => cases hcreates
  | editTable _ _ h | editExpander _ _ h | write _ _ h | poison h => simp [hon] at h

/-- A step on another name changes nothing, unless it writes through a handle that is akin. -/
theorem content?_step [Regex.SizeLimit] (ht : s.Traced o i) (hn : n ≠ on)
    (hakin : x.writesThrough → ¬o.Akin on n) :
    (s.step on x).2.content? n = s.content? n ∧
      ∀ q : Step, q.asks → ((s.step on x).2.step n q).1 = (s.step n q).1 := by
  rcases s.step_cases on x with ⟨a, -, heffect⟩ | ⟨e, -, hsame⟩
  · have hcontent := heffect.content?_eq ht hn hakin
    exact ⟨hcontent, fun q hq => answer_eq (heffect.find?_eq hn) hcontent hq⟩
  · rw [hsame]
    exact ⟨rfl, fun _ _ => rfl⟩

theorem not_akin (ht : s.Traced o i) (hn : ∀ e, s.content? n ≠ some (.shared e)) :
    ¬o.Akin on n := by
  intro h
  obtain ⟨handle, -, hfind⟩ := (ht.akin_iff on n).1 h
  obtain ⟨e, poisoned, hx⟩ := ht.exists_shared hfind
  exact hn e (content?_eq_shared_iff.2 ⟨handle, poisoned, hfind, hx⟩)

/-- What is no handle stays as it is through all steps on other names. -/
theorem content?_run [Regex.SizeLimit] (ht : s.Traced o i) (hn : ∀ e, s.content? n ≠ some (.shared e))
    {steps : List (List Char × Step)} (hsteps : ∀ y ∈ steps, n ≠ y.1) :
    (s.run steps).content? n = s.content? n := by
  induction steps generalizing s o i with
  | nil => rfl
  | cons y steps ih =>
    have hstep := (content?_step (x := y.2) ht (hsteps y List.mem_cons_self)
      fun _ => not_akin ht hn).1
    rw [← hstep]
    exact ih (ht.step y.1 y.2) (hstep ▸ hn) fun z hz => hsteps z (List.mem_cons_of_mem _ hz)

end Frame

/-! ### Values that are made -/

section Made

variable {s : Store} {o : Origins} {i : Nat} {on n : List Char} {e : Expander}

theorem sharedExpander_of_content? (h : s.content? n = some (.shared e)) :
    ∃ handle poisoned, s.find? n = some (.shared handle) ∧
      s.sharedExpander n = .ok (handle, ⟨e, poisoned⟩) := by
  obtain ⟨handle, poisoned, hfind, hx⟩ := content?_eq_shared_iff.1 h
  refine ⟨handle, poisoned, hfind, ?_⟩
  simp [sharedExpander, held, hfind, hx, bind, Except.bind]

theorem expander_of_content? (h : s.content? n = some (.expander e)) : s.expander n = .ok e := by
  simp [expander, held, content?_eq_expander_iff.1 h, bind, Except.bind]

/-- An entry that is written through a handle is there for all handles akin to it. -/
theorem content?_write [Regex.SizeLimit] (ht : s.Traced o i) (h : o.Akin on n)
    (name fragment : List Char) :
    ∃ e, s.content? n = some (.shared e) ∧
      (s.step on (.shared (.insert name fragment))).2.content? n =
        some (.shared (e.insert name fragment)) := by
  obtain ⟨handle, hon, hn⟩ := (ht.akin_iff on n).1 h
  obtain ⟨e, poisoned, hx⟩ := ht.exists_shared hn
  have hstep : s.step on (.shared (.insert name fragment)) =
      (.ok .done, s.changeShared handle (·.insert name fragment)) := by
    simp [step, perform, sharedExpander, held, hon, hx, onShared, bind, Except.bind, pure,
      Except.pure]
  refine ⟨e, content?_eq_shared_iff.2 ⟨handle, poisoned, hn, hx⟩, ?_⟩
  rw [hstep]
  refine content?_eq_shared_iff.2 ⟨handle, poisoned, hn, ?_⟩
  simp [changeShared, hx, SharedExpander.insert]

theorem step_snapshot [Regex.SizeLimit] (h : s.content? n = some (.shared e)) :
    (s.step on (.create (.snapshot n))).2 = s.put on (.expander e) := by
  obtain ⟨handle, poisoned, -, hx⟩ := sharedExpander_of_content? h
  simp [step, perform, create, hx, bind, Except.bind, pure, Except.pure]

theorem step_share [Regex.SizeLimit] (h : s.content? n = some (.expander e)) :
    (s.step on (.create (.share n))).2 = s.share on e := by
  simp [step, perform, create, expander_of_content? h, bind, Except.bind, pure, Except.pure]

theorem content?_share : (s.share on e).content? on = some (.shared e) := by
  refine content?_eq_shared_iff.2 ⟨s.shared.length, false, by simp, ?_⟩
  simp [share, SharedExpander.new]

theorem content?_put_expander : (s.put on (.expander e)).content? on = some (.expander e) := by
  simp [content?]

end Made

end Store

/-! ### Isolation -/

/-- What a step `x` on the name `on` and all steps after it leave as it is in a store, where `o` tells
where the handles come from. -/
structure Isolated [Regex.SizeLimit] (s : Store) (o : Origins) (on : List Char) (x : Step) :
    Prop where
  /-- No other value changes, nor any answer to what may be asked of it, unless `x` writes through a
  handle to which it is akin. -/
  others : ∀ n, n ≠ on → (x.writesThrough → ¬o.Akin on n) →
    (s.step on x).2.content? n = s.content? n ∧
      ∀ q : Step, q.asks → ((s.step on x).2.step n q).1 = (s.step n q).1
  /-- All handles that are akin see what is written through one of them. -/
  written : ∀ name fragment, x = .shared (.insert name fragment) → ∀ n, o.Akin on n →
    ∃ e, s.content? n = some (.shared e) ∧
      (s.step on x).2.content? n = some (.shared (e.insert name fragment))
  /-- To ask changes nothing. -/
  asked : x.asks → (s.step on x).2 = s
  /-- A step that is refused changes nothing. -/
  refused : ∀ refusal, (s.step on x).1 = .error refusal → (s.step on x).2 = s
  /-- A route stays as it is until its name is given to another value. -/
  routes : ∀ n r, s.content? n = some (.route r) → (n = on → x.creates = false) →
    (s.step on x).2.content? n = some (.route r)
  /-- A snapshot stays as it was taken, whatever is written through handles later. -/
  snapshot : ∀ shared e, x = .create (.snapshot shared) → s.content? shared = some (.shared e) →
    ∀ later : List (List Char × Step), (∀ y ∈ later, on ≠ y.1) →
      ((s.step on x).2.run later).content? on = some (.expander e)
  /-- A shared expander begins as a copy of an expander, and this one stays as it is, whatever is written
  through handles later. -/
  copied : ∀ source e, x = .create (.share source) → s.content? source = some (.expander e) →
    (s.step on x).2.content? on = some (.shared e) ∧
      (source ≠ on → ∀ later : List (List Char × Step), (∀ y ∈ later, source ≠ y.1) →
        ((s.step on x).2.run later).content? source = some (.expander e))
  /-- What is no handle, and on which no step is done, stays as it is. -/
  untouched : ∀ n, (∀ e, s.content? n ≠ some (.shared e)) →
    ∀ later : List (List Char × Step), (∀ y ∈ later, n ≠ y.1) →
      (s.run later).content? n = s.content? n
  /-- The standard expander goes on to expand all templates to their standard patterns. -/
  standard : ∀ n, s.content? n = some (.expander .standard) →
    ∀ later : List (List Char × Step), (∀ y ∈ later, n ≠ y.1) → ∀ template o,
      ((s.run later).step n (.expander (.expand template o))).1 =
        .ok (.text (standardPattern template o))

/-- In a session of any steps, each step changes only the value that it is done on or makes. If it writes
an entry through a handle, it changes exactly the handles that were cloned, in any number of steps, from
the same one. -/
theorem session_isolated [Regex.SizeLimit] (steps : List (List Char × Step)) (on : List Char)
    (x : Step) : Isolated (Store.empty.run steps) (originsOf steps) on x := by
  have ht := Store.traced_run steps
  generalize Store.empty.run steps = s at ht
  generalize originsOf steps = o at ht
  have hrefused : ∀ refusal, (s.step on x).1 = .error refusal → (s.step on x).2 = s := by
    intro refusal h
    rcases s.step_cases on x with ⟨a, hok, -⟩ | ⟨-, -, hsame⟩
    · rw [hok] at h
      cases h
    · exact hsame
  have hasked : x.asks → (s.step on x).2 = s := by
    intro h
    rcases s.step_cases on x with ⟨a, -, heffect⟩ | ⟨-, -, hsame⟩
    · exact heffect.eq_of_asks h
    · exact hsame
  constructor
  case others => exact fun n hn hakin => Store.content?_step ht hn hakin
  case written =>
    rintro name fragment rfl n hakin
    exact Store.content?_write ht hakin name fragment
  case asked => exact hasked
  case refused => exact hrefused
  case routes =>
    intro n r hr hcreates
    by_cases hn : n = on
    · subst hn
      rcases s.step_cases n x with ⟨a, -, heffect⟩ | ⟨-, -, hsame⟩
      · rw [heffect.eq_of_route (Store.content?_eq_route_iff.1 hr) (hcreates rfl), hr]
      · rw [hsame, hr]
    · rw [(Store.content?_step ht hn fun _ => Store.not_akin ht (by simp [hr])).1, hr]
  case snapshot =>
    rintro shared e rfl h later hlater
    have hon : (s.put on (.expander e)).content? on = some (.expander e) :=
      Store.content?_put_expander
    rw [← Store.step_snapshot h] at hon
    rw [Store.content?_run (ht.step on _) (by simp [hon]) hlater, hon]
  case copied =>
    rintro source e rfl h
    refine ⟨Store.step_share h ▸ Store.content?_share, fun hne later hlater => ?_⟩
    have hsource := (Store.content?_step (x := .create (.share source)) ht hne
      (by simp [Step.writesThrough])).1
    rw [Store.content?_run (ht.step on _) (by simp [hsource, h]) hlater, hsource, h]
  case untouched => exact fun n hn later hlater => Store.content?_run ht hn hlater
  case standard =>
    intro n hn later hlater template o'
    have hrun := Store.content?_run ht (by simp [hn]) hlater
    have := Store.expander_of_content? (hrun.trans hn)
    simp [Store.step, Store.perform, Store.onExpander, this, bind, Except.bind, standardPattern]

/-- Two handles on one shared expander, a snapshot of it, and another shared expander that begins as a
copy of the snapshot. -/
def mixedSession : List (List Char × Step) :=
  [(['a'], .create (.shared .standard)), (['b'], .create (.clone ['a'])),
    (['c'], .create (.snapshot ['b'])), (['d'], .create (.share ['c']))]

theorem session_isolated_of_mixedSession :
    let s := Store.empty.run mixedSession
    let s' := (s.step ['a'] (.shared (.insert ['n'] ['.']))).2
    s'.content? ['b'] = some (.shared (Expander.standard.insert ['n'] ['.'])) ∧
      s'.content? ['c'] = some (.expander .standard) ∧
      s'.content? ['d'] = some (.shared .standard) := by
  intro s s'
  have h := session_isolated mixedSession ['a'] (.shared (.insert ['n'] ['.']))
  have hd : ¬(originsOf mixedSession).Akin ['a'] ['d'] := by
    rintro ⟨i, ha, hd⟩
    cases ha
    cases hd
  obtain ⟨e, he, hb⟩ := h.written ['n'] ['.'] rfl ['b'] ⟨0, rfl, rfl⟩
  obtain rfl : Expander.standard = e := by
    have : s.content? ['b'] = some (.shared .standard) := rfl
    simpa [s, this] using he
  refine ⟨hb, ?_, (h.others ['d'] (by decide) fun _ => hd).1⟩
  exact h.untouched ['c'] (by rintro e' ⟨⟩) [(['a'], .shared (.insert ['n'] ['.']))] (by simp)

end RouteTemplate
