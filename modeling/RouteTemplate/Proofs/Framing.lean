import RouteTemplate.Proofs.Rewriting

/-!
What is put around a body. Each step looks at an end of the pattern that there is so far. Filling in
placeholders changes no end of a template that a step asks for: a placeholder begins with `<` and its
group with `(`, they end with `>` and `)`, and all other text stays. So the steps do what they would do
to the template as it is written, and no fragment can make a difference to them.
-/

namespace RouteTemplate

namespace Placeholder

theorem getLast?_text (p : Placeholder) : p.text.getLast? = some '>' := by
  unfold text
  split <;> exact List.getLast?_concat

theorem getLast?_captureGroup (p : Placeholder) (fragment : List Char) :
    (p.captureGroup fragment).getLast? = some ')' := by
  rw [captureGroup, List.getLast?_concat]

end Placeholder

/-! ### Ends of a body -/

section

variable {table : FragmentTable} {default t : List Char} {c : Char}

theorem head?_substitute (hopen : c ≠ '<') (hgroup : c ≠ '(') :
    (substitute table default t).head? = some c ↔ t.head? = some c := by
  cases hfind : Placeholder.find? t with
  | none => rw [substitute_of_find?_eq_none _ _ hfind]
  | some found =>
    obtain ⟨before, p, rest⟩ := found
    rw [substitute_of_find? _ _ hfind, Placeholder.eq_append_of_find? hfind]
    cases before with
    | nil => simp [Placeholder.captureGroup, Placeholder.head?_text, hopen.symm, hgroup.symm]
    | cons d before => rfl

/-- An end other than that of a placeholder or its group comes from the text behind it. -/
theorem getLast?_append_append {before item rest : List Char} {d : Char}
    (hitem : item.getLast? = some d) (hne : c ≠ d) :
    (before ++ (item ++ rest)).getLast? = some c ↔ rest.getLast? = some c := by
  rw [List.getLast?_append, List.getLast?_append, hitem]
  cases rest.getLast? <;> simp [hne.symm]

theorem getLast?_substitute (hclose : c ≠ '>') (hgroup : c ≠ ')') :
    (substitute table default t).getLast? = some c ↔ t.getLast? = some c := by
  induction t using Placeholder.find?_induction with
  | literal t hfind => rw [substitute_of_find?_eq_none _ _ hfind]
  | placeholder t before p rest hfind ih =>
    rw [substitute_of_find? _ _ hfind, Placeholder.eq_append_of_find? hfind,
      getLast?_append_append (p.getLast?_captureGroup _) hgroup,
      getLast?_append_append p.getLast?_text hclose, ih]

end

/-! ### The steps -/

namespace Settings

variable {s : Settings} {t body : List Char}

theorem getLast?_opening_append {c : Char} (h : c ≠ '^') :
    (s.opening t ++ body).getLast? = some c ↔ body.getLast? = some c := by
  rw [List.getLast?_append, opening]
  split <;> cases body.getLast? <;> simp [h.symm]

theorem opening_congr (h : body.head? = some '^' ↔ t.head? = some '^') :
    s.opening body = s.opening t := by
  simp only [opening, singleton_prefix_iff, h]

theorem separator_congr (hslash : body.getLast? = some '/' ↔ t.getLast? = some '/')
    (hstop : body.getLast? = some '$' ↔ t.getLast? = some '$') :
    s.separator t body = s.separator t t := by
  simp only [separator, singleton_suffix_iff, hslash, hstop]

/-- A pattern that ended with `$` got no separator, so it ends with `$` still. -/
theorem closing_append_separator (h : body.getLast? = some '$' ↔ t.getLast? = some '$') :
    s.closing (body ++ s.separator t t) = s.closing t := by
  simp only [closing, singleton_suffix_iff, separator]
  split
  next hsep => simp [hsep.2.2.1]
  next => simp only [List.append_nil, h]

/-- The steps on a body that has the ends of the template are the steps on the template. -/
theorem dress_eq_append (hhead : body.head? = some '^' ↔ t.head? = some '^')
    (hslash : body.getLast? = some '/' ↔ t.getLast? = some '/')
    (hstop : body.getLast? = some '$' ↔ t.getLast? = some '$') :
    s.dress t body = s.opening t ++ body ++ s.separator t t ++ s.closing t := by
  have hslash' := (getLast?_opening_append (s := s) (t := t) (c := '/') (by decide)).trans hslash
  have hstop' := (getLast?_opening_append (s := s) (t := t) (c := '$') (by decide)).trans hstop
  simp only [dress]
  rw [opening_congr hhead, separator_congr hslash' hstop', closing_append_separator hstop']

end Settings

namespace Expander

theorem expand_eq_append (e : Expander) (t : List Char) (o : Overrides) :
    e.expand t o = (e.settings.merge o).opening t ++
      substitute e.table (e.settings.merge o).defaultFragment t ++
        (e.settings.merge o).separator t t ++ (e.settings.merge o).closing t := by
  rw [expand, Settings.finish_eq_dress]
  exact Settings.dress_eq_append (head?_substitute (by decide) (by decide))
    (getLast?_substitute (by decide) (by decide)) (getLast?_substitute (by decide) (by decide))

/-- With the steps off nothing is put around the body. -/
theorem expand_merge_bare (e : Expander) (t : List Char) (o : Overrides) :
    e.expand t (o.merge .bare) = substitute e.table (e.settings.merge o).defaultFragment t := by
  simp [expand, Settings.finish, Settings.merge, Overrides.merge, Overrides.bare]

end Expander

/-- The pattern of a template is the one with all steps off, between what the anchor puts before the
template itself and what the separator and the terminator put after it. With another table and another
default fragment the same is put around the other body. -/
theorem expand_eq_framed (e : Expander) (t : List Char) (o : Overrides) :
    let s := e.settings.merge o
    e.expand t o =
        s.opening t ++ e.expand t (o.merge .bare) ++ s.separator t t ++ s.closing t ∧
      ∀ (table : FragmentTable) (default : List Char),
        let f : Expander := ⟨table, { s with defaultFragment := default }⟩
        f.expand t .none = s.opening t ++ f.expand t .bare ++ s.separator t t ++ s.closing t := by
  have hframed (e : Expander) (o : Overrides) :
      let s := e.settings.merge o
      e.expand t o = s.opening t ++ e.expand t (o.merge .bare) ++ s.separator t t ++ s.closing t := by
    rw [e.expand_merge_bare]
    exact e.expand_eq_append t o
  exact ⟨hframed e o, fun table default => hframed ⟨table, _⟩ .none⟩

end RouteTemplate
