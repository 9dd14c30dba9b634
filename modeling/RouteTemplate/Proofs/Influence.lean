import Mathlib.Algebra.Order.BigOperators.Group.List
import Mathlib.Algebra.Order.Group.Nat
import RouteTemplate.Proofs.Framing

/-!
What an expansion depends on. Of a table it depends on the fragments under the keys that the template
mentions and on no others, and on the default fragment if a bare name of the template is missing from
the table. Each of these shows: two different fragments give two different patterns. A fragment may
stand in several groups and next to any text; that nothing makes up for the change is seen from the
lengths, since the longer fragment makes no group shorter.
-/

namespace RouteTemplate

namespace Placeholder

theorem length_captureGroup (p : Placeholder) (fragment : List Char) :
    (p.captureGroup fragment).length = p.name.length + fragment.length + 6 := by
  have hopen : "(?P<".toList.length = 4 := rfl
  simp only [captureGroup, List.length_append, List.length_cons, List.length_nil, hopen]
  omega

theorem captureGroup_inj {p : Placeholder} {fragment fragment' : List Char} :
    p.captureGroup fragment = p.captureGroup fragment' ↔ fragment = fragment' := by
  simp [captureGroup]

end Placeholder

/-- Rows of texts that are written alike are the same text by text, if no text of the one is longer than
that of the other. -/
theorem eq_of_flatMap_eq {α β : Type} {f g : α → List β} {l : List α}
    (hle : ∀ x ∈ l, (f x).length ≤ (g x).length) (h : l.flatMap f = l.flatMap g) :
    ∀ x ∈ l, f x = g x := by
  induction l with
  | nil => simp
  | cons x l ih =>
    simp only [List.mem_cons, forall_eq_or_imp] at hle ⊢
    rw [List.flatMap_cons, List.flatMap_cons] at h
    have hrest : (l.flatMap f).length ≤ (l.flatMap g).length := by
      rw [List.length_flatMap, List.length_flatMap]
      exact List.sum_le_sum hle.2
    have hlength := congrArg List.length h
    rw [List.length_append, List.length_append] at hlength
    obtain ⟨hx, hl⟩ := List.append_inj h (by omega)
    exact ⟨hx, ih hle.2 hl⟩

/-! ### Fragments and bodies -/

namespace FragmentTable

variable (table : FragmentTable) (p : Placeholder)

theorem resolve_insert (key fragment default : List Char) :
    (table.insert key fragment).resolve p.name p.pattern default =
      if p.key = key then fragment else table.resolve p.name p.pattern default := by
  obtain ⟨name, pattern⟩ := p
  cases pattern <;> simp only [resolve, Placeholder.key, get?_insert] <;> grind

/-- The placeholder falls back on the default fragment. -/
def FallsBack : Prop := p.pattern = none ∧ table.get? p.name = none

variable {table p}

theorem resolve_of_fallsBack (h : table.FallsBack p) (default : List Char) :
    table.resolve p.name p.pattern default = default := by
  simp [resolve, h.1, h.2]

theorem resolve_of_not_fallsBack (h : ¬table.FallsBack p) (default default' : List Char) :
    table.resolve p.name p.pattern default = table.resolve p.name p.pattern default' := by
  obtain ⟨name, pattern⟩ := p
  cases pattern with
  | some pattern => rfl
  | none =>
    obtain ⟨fragment, hget⟩ := Option.ne_none_iff_exists'.1 fun hget => h ⟨rfl, hget⟩
    simp [resolve, hget]

end FragmentTable

section

variable {table table' : FragmentTable} {default default' t : List Char}

theorem substitute_congr_resolve
    (h : ∀ p ∈ placeholders t,
      table.resolve p.name p.pattern default = table'.resolve p.name p.pattern default') :
    substitute table default t = substitute table' default' t := by
  refine List.flatMap_congr fun x hx => ?_
  cases x with
  | literal text => rfl
  | placeholder p => rw [Segment.expand, Segment.expand, h p (mem_placeholders.2 hx)]

/-- Equal bodies have equal fragments, if none of the one is longer than that of the other. -/
theorem resolve_eq_of_substitute_eq
    (hle : ∀ p ∈ placeholders t, (table.resolve p.name p.pattern default).length ≤
      (table'.resolve p.name p.pattern default').length)
    (h : substitute table default t = substitute table' default' t) {p : Placeholder}
    (hp : p ∈ placeholders t) :
    table.resolve p.name p.pattern default = table'.resolve p.name p.pattern default' := by
  have hexpand := eq_of_flatMap_eq (fun x hx => ?_) h _ (mem_placeholders.1 hp)
  · exact Placeholder.captureGroup_inj.1 hexpand
  · cases x with
    | literal text => exact Nat.le_refl _
    | placeholder q =>
      have := hle q (mem_placeholders.2 hx)
      simp only [Segment.expand, Placeholder.length_captureGroup]
      omega

section

variable {P : Placeholder → Prop} {v v' : List Char}

theorem eq_of_substitute_eq
    (hP : ∀ p ∈ placeholders t, P p → table.resolve p.name p.pattern default = v ∧
      table'.resolve p.name p.pattern default' = v')
    (hnot : ∀ p ∈ placeholders t, ¬P p →
      table.resolve p.name p.pattern default = table'.resolve p.name p.pattern default')
    (hle : v.length ≤ v'.length) {p : Placeholder} (hp : p ∈ placeholders t) (hPp : P p)
    (heq : substitute table default t = substitute table' default' t) : v = v' := by
  have hresolve := resolve_eq_of_substitute_eq (fun q hq => ?_) heq hp
  · rwa [(hP p hp hPp).1, (hP p hp hPp).2] at hresolve
  · by_cases hPq : P q
    · rwa [(hP q hq hPq).1, (hP q hq hPq).2]
    · rw [hnot q hq hPq]

/-- Two fillings of a template that put `v` and `v'` in for some placeholders and are alike in all others
differ exactly if there are such placeholders and `v` and `v'` differ. -/
theorem substitute_ne_iff
    (hP : ∀ p ∈ placeholders t, P p → table.resolve p.name p.pattern default = v ∧
      table'.resolve p.name p.pattern default' = v')
    (hnot : ∀ p ∈ placeholders t, ¬P p →
      table.resolve p.name p.pattern default = table'.resolve p.name p.pattern default') :
    substitute table default t ≠ substitute table' default' t ↔
      v ≠ v' ∧ ∃ p ∈ placeholders t, P p := by
  constructor
  · intro hne
    by_contra hsame
    refine hne (substitute_congr_resolve fun p hp => ?_)
    by_cases hPp : P p
    · obtain ⟨hv, hv'⟩ := hP p hp hPp
      rw [hv, hv']
      by_contra hvv'
      exact hsame ⟨hvv', p, hp, hPp⟩
    · exact hnot p hp hPp
  · rintro ⟨hvv', p, hp, hPp⟩ heq
    rcases Nat.le_total v.length v'.length with hle | hle
    · exact hvv' (eq_of_substitute_eq hP hnot hle hp hPp heq)
    · have heq' := eq_of_substitute_eq (fun q hq h => (hP q hq h).symm)
        (fun q hq h => (hnot q hq h).symm) hle hp hPp heq.symm
      exact hvv' heq'.symm

end

end

/-- Expansions of a template under settings that differ in the default fragment at most are equal exactly
if their bodies are. -/
theorem Expander.expand_eq_expand_iff {e f : Expander} {t : List Char} {o o' : Overrides}
    {default : List Char}
    (h : f.settings.merge o' = { e.settings.merge o with defaultFragment := default }) :
    f.expand t o' = e.expand t o ↔
      substitute f.table default t = substitute e.table (e.settings.merge o).defaultFragment t := by
  rw [expand_eq_append, expand_eq_append, h]
  -- what is put around the two bodies is the same, as no step looks at the default fragment
  show (e.settings.merge o).opening t ++ _ ++ (e.settings.merge o).separator t t ++
    (e.settings.merge o).closing t = _ ↔ _
  simp only [List.append_cancel_right_eq, List.append_cancel_left_eq]

/-! ### Keys -/

/-- What a template mentions: the patterns of its placeholders, and the names of those that have none. -/
def keys (t : List Char) : List (List Char) := (placeholders t).map Placeholder.key

theorem mem_keys {t key : List Char} : key ∈ keys t ↔ ∃ p ∈ placeholders t, p.key = key :=
  List.mem_map

theorem Expander.expand_insert_of_notMem {e : Expander} {t key : List Char} (h : key ∉ keys t)
    (fragment : List Char) (o : Overrides) : (e.insert key fragment).expand t o = e.expand t o := by
  have hsettings : (e.insert key fragment).settings.merge o = e.settings.merge o := rfl
  refine (expand_eq_expand_iff hsettings).2 (substitute_congr_resolve fun p hp => ?_)
  have hkey : p.key ≠ key := fun hkey => h (mem_keys.2 ⟨p, hp, hkey⟩)
  exact (e.table.resolve_insert p key fragment _).trans (if_neg hkey)

theorem Expander.expand_insert_ne_iff {e : Expander} {t key fragment fragment' : List Char}
    {o : Overrides} :
    (e.insert key fragment).expand t o ≠ (e.insert key fragment').expand t o ↔
      fragment ≠ fragment' ∧ key ∈ keys t := by
  have hsettings : (e.insert key fragment).settings.merge o =
      (e.insert key fragment').settings.merge o := rfl
  rw [Ne, expand_eq_expand_iff hsettings, mem_keys]
  refine substitute_ne_iff (fun p _ hkey => ?_) fun p _ hkey => ?_
  · exact ⟨(e.table.resolve_insert p ..).trans (if_pos hkey),
      (e.table.resolve_insert p ..).trans (if_pos hkey)⟩
  · exact ((e.table.resolve_insert p ..).trans (if_neg hkey)).trans
      ((e.table.resolve_insert p ..).trans (if_neg hkey)).symm

theorem Expander.expand_ne_expand_iff {e f : Expander} {t default : List Char} {o o' : Overrides}
    (htable : f.table = e.table)
    (h : f.settings.merge o' = { e.settings.merge o with defaultFragment := default }) :
    f.expand t o' ≠ e.expand t o ↔ default ≠ (e.settings.merge o).defaultFragment ∧
      ∃ p ∈ placeholders t, e.table.FallsBack p := by
  rw [Ne, expand_eq_expand_iff h, htable]
  refine substitute_ne_iff (fun p _ hp => ?_) fun p _ hp => ?_
  · exact ⟨FragmentTable.resolve_of_fallsBack hp _, FragmentTable.resolve_of_fallsBack hp _⟩
  · exact FragmentTable.resolve_of_not_fallsBack hp _ _

/-- An expansion changes with the fragment under a key exactly if the template mentions the key, and with
the default fragment exactly if a name without a pattern is missing from the table. Where it changes, no
two fragments give the same pattern. -/
theorem expand_depends_on_keys (e : Expander) (t : List Char) (o : Overrides) :
    (∀ key, key ∉ keys t → ∀ fragment, (e.insert key fragment).expand t o = e.expand t o) ∧
      (∀ key, key ∈ keys t → ∀ fragment fragment', fragment ≠ fragment' →
        (e.insert key fragment).expand t o ≠ (e.insert key fragment').expand t o) ∧
      ∀ (f : Expander) (o' : Overrides) (default : List Char), f.table = e.table →
        f.settings.merge o' = { e.settings.merge o with defaultFragment := default } →
        (f.expand t o' ≠ e.expand t o ↔ default ≠ (e.settings.merge o).defaultFragment ∧
          ∃ p ∈ placeholders t, p.pattern = none ∧ e.table.get? p.name = none) := by
  refine ⟨fun key hkey fragment => ?_, fun key hkey fragment fragment' hne => ?_, ?_⟩
  · exact Expander.expand_insert_of_notMem hkey fragment o
  · exact Expander.expand_insert_ne_iff.2 ⟨hne, hkey⟩
  · exact fun f o' default htable h => Expander.expand_ne_expand_iff htable h

/-- A template with a key that is a pattern and one that is a bare name. -/
def twoKeys : List Segment :=
  [.placeholder ⟨['a'], some ['b']⟩, .literal ['/'], .placeholder ⟨['c'], none⟩]

theorem placeholders_twoKeys :
    placeholders (Segment.join twoKeys) = [⟨['a'], some ['b']⟩, ⟨['c'], none⟩] := by
  refine placeholders_join fun x hx => ?_
  have ha : Unicode.isWord 'a' := by rw [Unicode.isWord_of_lt (by decide)]; decide
  have hc : Unicode.isWord 'c' := by rw [Unicode.isWord_of_lt (by decide)]; decide
  simp only [twoKeys, List.mem_cons, List.not_mem_nil, or_false] at hx
  rcases hx with rfl | rfl | rfl
  · exact ⟨by simp, by simpa using ha, by simp, by simp⟩
  · exact fun hmem => absurd hmem (by decide)
  · exact ⟨by simp, by simpa using hc, by simp, by simp⟩

/-- The name in front of a pattern is no key. -/
theorem expand_depends_on_keys_of_twoKeys :
    let e : Expander := ⟨.empty, .standard⟩
    let t := Segment.join twoKeys
    let zero : Overrides := { Overrides.none with defaultFragment := some ['0'] }
    ['a'] ∉ keys t ∧ ['b'] ∈ keys t ∧
      (e.insert ['a'] ['0']).expand t .none = e.expand t .none ∧
      (e.insert ['b'] ['0']).expand t .none ≠ (e.insert ['b'] ['1']).expand t .none ∧
      e.expand t zero ≠ e.expand t .none ∧
      (e.override zero).expand t .none ≠ e.expand t .none := by
  intro e t zero
  have hkeys : keys t = [['b'], ['c']] := congrArg (List.map Placeholder.key) placeholders_twoKeys
  have ha : ['a'] ∉ keys t := by rw [hkeys]; decide
  have hb : ['b'] ∈ keys t := by rw [hkeys]; decide
  have hc : (⟨['c'], none⟩ : Placeholder) ∈ placeholders t := by
    rw [placeholders_twoKeys]
    exact List.mem_cons_of_mem _ List.mem_cons_self
  obtain ⟨hnotMem, hmem, hdefault⟩ := expand_depends_on_keys e t .none
  refine ⟨ha, hb, hnotMem _ ha _, hmem _ hb _ _ (by decide), ?_, ?_⟩
  · exact (hdefault e zero ['0'] rfl rfl).2 ⟨by decide, _, hc, rfl, rfl⟩
  · exact (hdefault (e.override zero) .none ['0'] rfl rfl).2 ⟨by decide, _, hc, rfl, rfl⟩

end RouteTemplate
