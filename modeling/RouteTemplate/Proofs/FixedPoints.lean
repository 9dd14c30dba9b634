import RouteTemplate.Proofs.Cutting

/-!
Expanding what was expanded. The steps make no placeholder, and they are done once, but for one corner:
an anchor that stands alone is no empty template and gets a slash. A template with a placeholder is
another matter. The name of its first group is in the pattern as a placeholder, in front of which none
begins, and a text with a placeholder is never its own expansion.
-/

namespace RouteTemplate

theorem head?_placeholders (t : List Char) :
    (placeholders t).head? = (Placeholder.find? t).map fun (_, p, _) => p := by
  cases hfind : Placeholder.find? t with
  | none => rw [placeholders, segments_of_find?_eq_none hfind, Segment.filterMap_ofText]; rfl
  | some found =>
    obtain ⟨before, p, rest⟩ := found
    rw [placeholders_of_find? hfind]
    rfl

theorem placeholders_eq_nil_iff {t : List Char} :
    placeholders t = [] ↔ Placeholder.find? t = none := by
  rw [← List.head?_eq_none_iff, head?_placeholders, Option.map_eq_none_iff]

/-! ### The steps twice -/

namespace Settings

variable {s : Settings} {t u : List Char}

theorem opening_eq_nil_iff : s.opening t = [] ↔ (s.anchor → t.head? = some '^') := by
  simp [opening, singleton_prefix_iff]

theorem separator_eq_nil_iff : s.separator t u = [] ↔
    (s.appendSlash → t ≠ [] → u.getLast? = some '$' ∨ u.getLast? = some '/') := by
  simp [separator, singleton_suffix_iff, or_iff_not_imp_left]

theorem closing_eq_nil_iff : s.closing t = [] ↔ (s.terminate → t.getLast? = some '$') := by
  simp [closing, singleton_suffix_iff]

/-- A text with what the steps put around it. -/
def framed (s : Settings) (t : List Char) : List Char :=
  s.opening t ++ t ++ s.separator t t ++ s.closing t

theorem framed_eq_self_iff :
    s.framed t = t ↔ s.opening t = [] ∧ s.separator t t = [] ∧ s.closing t = [] := by
  constructor
  · intro h
    have hlength := congrArg List.length h
    simp only [framed, List.length_append] at hlength
    simp only [← List.length_eq_zero_iff]
    omega
  · rintro ⟨hopening, hseparator, hclosing⟩
    simp [framed, hopening, hseparator, hclosing]

theorem opening_framed : s.opening (s.framed t) = [] := by
  rw [opening_eq_nil_iff]
  intro hanchor
  by_cases h : t.head? = some '^'
  · obtain ⟨t, rfl⟩ := List.head?_eq_some_iff.1 h
    simp [framed, opening]
  · simp [framed, opening, singleton_prefix_iff, hanchor, h]

theorem closing_framed : s.closing (s.framed t) = [] := by
  rw [closing_eq_nil_iff]
  intro hterminate
  by_cases h : t.getLast? = some '$'
  · simp [framed, closing, separator, singleton_suffix_iff, h]
  · simp [framed, closing, singleton_suffix_iff, hterminate, h]

theorem getLast?_framed (hslash : s.appendSlash) (ht : t ≠ []) :
    (s.framed t).getLast? = some '$' ∨ (s.framed t).getLast? = some '/' := by
  by_cases hstop : s.terminate ∧ ¬t.getLast? = some '$'
  · left
    simp [framed, closing, singleton_suffix_iff, hstop]
  · have hclosing : s.closing t = [] := closing_eq_nil_iff.2 (by simpa using hstop)
    by_cases hend : t.getLast? = some '$' ∨ t.getLast? = some '/'
    · have hseparator : s.separator t t = [] := separator_eq_nil_iff.2 fun _ _ => hend
      rwa [framed, hclosing, hseparator, List.append_nil, List.append_nil,
        List.getLast?_append_of_ne_nil _ ht]
    · right
      rw [not_or] at hend
      simp [framed, hclosing, separator, singleton_suffix_iff, hslash, ht, hend]

/-- What is put around a text is put there once, unless an anchor alone is taken for a template. -/
theorem framed_framed_iff : s.framed (s.framed t) = s.framed t ↔
    ¬(t = [] ∧ s.anchor ∧ s.appendSlash ∧ ¬s.terminate) := by
  simp only [framed_eq_self_iff, opening_framed, closing_framed, true_and, and_true]
  by_cases ht : t = []
  · subst ht
    obtain ⟨default, anchor, terminate, appendSlash⟩ := s
    cases anchor <;> cases terminate <;> cases appendSlash <;>
      simp [framed, opening, separator, closing, singleton_suffix_iff]
  · refine iff_of_true ?_ fun h => ht h.1
    exact separator_eq_nil_iff.2 fun hslash _ => getLast?_framed hslash ht

theorem notMem_opening : '<' ∉ s.opening t := by
  unfold opening
  split <;> decide

/-- What is put around a text neither begins a placeholder nor ends one. -/
theorem find?_framed (h : Placeholder.find? t = none) : Placeholder.find? (s.framed t) = none := by
  have hback : '>' ∉ s.separator t t ++ s.closing t := by
    unfold separator closing
    split <;> split <;> decide
  rw [framed, List.append_assoc, List.append_assoc, Placeholder.find?_append_of_notMem notMem_opening,
    Placeholder.find?_append_eq_none h hback, Option.map_none]

end Settings

/-! ### Expanding twice -/

namespace Expander

variable {e : Expander} {t before rest : List Char} {p : Placeholder} {o : Overrides}

theorem expand_of_find?_eq_none (h : Placeholder.find? t = none) :
    e.expand t o = (e.settings.merge o).framed t := by
  rw [expand_eq_append, substitute_of_find?_eq_none _ _ h]
  rfl

/-- The first placeholder of a pattern is the name of its first group. -/
theorem find?_expand (h : Placeholder.find? t = some (before, p, rest)) :
    ∃ before' rest', Placeholder.find? (e.expand t o) = some (before', ⟨p.name, none⟩, rest') := by
  rw [expand_eq_append, substitute_of_find? _ _ h]
  simp only [List.append_assoc]
  rw [Placeholder.find?_append_of_notMem Settings.notMem_opening, Placeholder.find?_captureGroup h]
  exact ⟨_, _, rfl⟩

/-- A text with a placeholder is not its own expansion: if no anchor is put before it, the first group
begins where the first placeholder did. -/
theorem expand_ne_self (h : Placeholder.find? t = some (before, p, rest)) : e.expand t o ≠ t := by
  intro heq
  have hopening : (e.settings.merge o).opening t = [] := by
    rw [Settings.opening_eq_nil_iff]
    intro hanchor
    by_contra hhead
    refine hhead ?_
    rw [← heq, expand_eq_append]
    simp [Settings.opening, Settings.singleton_prefix_iff, hanchor, hhead]
  rw [expand_eq_append, hopening, substitute_of_find? _ _ h] at heq
  have hgroup := heq.trans (Placeholder.eq_append_of_find? h)
  simp only [List.nil_append, List.append_assoc, List.append_cancel_left_eq] at hgroup
  exact captureGroup_append_ne p.head?_text hgroup

end Expander

/-- Expanding a pattern again changes nothing exactly if the template has no placeholder, but for the empty
template when the anchor is all that it gets and a slash may follow. A pattern has a placeholder if the
template has one: the name of the first group, which stands before any other. -/
theorem expand_expand_eq_iff (e : Expander) (t : List Char) (o : Overrides) :
    (e.expand (e.expand t o) o = e.expand t o ↔ placeholders t = [] ∧
        ¬(t = [] ∧ (e.settings.merge o).anchor ∧ (e.settings.merge o).appendSlash ∧
          ¬(e.settings.merge o).terminate)) ∧
      (placeholders (e.expand t o)).head? =
        (placeholders t).head?.map fun p => ⟨p.name, none⟩ := by
  rw [placeholders_eq_nil_iff, head?_placeholders, head?_placeholders]
  cases hfind : Placeholder.find? t with
  | none =>
    have hframed := Settings.find?_framed (s := e.settings.merge o) hfind
    rw [Expander.expand_of_find?_eq_none hfind, Expander.expand_of_find?_eq_none hframed, hframed,
      Settings.framed_framed_iff]
    simp
  | some found =>
    obtain ⟨before, p, rest⟩ := found
    obtain ⟨before', rest', hfind'⟩ := Expander.find?_expand (e := e) (o := o) hfind
    rw [hfind']
    exact ⟨iff_of_false (Expander.expand_ne_self hfind') (by simp), rfl⟩

/-- The anchor that the empty template gets is no empty template. -/
example :
    let o : Overrides := { Overrides.none with terminate := some false }
    Expander.standard.expand [] o = ['^'] ∧ Expander.standard.expand ['^'] o = ['^', '/'] := by
  cbv

end RouteTemplate
