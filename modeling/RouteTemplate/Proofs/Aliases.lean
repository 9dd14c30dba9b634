import RouteTemplate.Proofs.Cutting

/-!
Aliases written out. A placeholder may carry the fragment that it stands for as its own pattern, if that can
be written as a pattern and is no name of the table. Rewritten like this it still begins with `<`, so the
literal text before it stays literal, whatever it holds, and the text behind it is read as before. So the
segments are rewritten one by one, and each of them expands to what it expanded to.
-/

namespace RouteTemplate

/-- A fragment that stands for itself when it is written as a pattern. -/
structure FragmentTable.Inlinable (table : FragmentTable) (fragment : List Char) : Prop where
  ne_nil : fragment ≠ []
  close_notMem : '>' ∉ fragment
  get?_eq_none : table.get? fragment = none

namespace Segment

variable (table : FragmentTable) (default : List Char)

/-- A placeholder gets its fragment for a pattern; literal text stays. -/
def inline : Segment → Segment
  | .literal text => .literal text
  | .placeholder p => .placeholder ⟨p.name, some (table.resolve p.name p.pattern default)⟩

/-- A template with its fragments written out. -/
def inlined (t : List Char) : List Char := join ((segments t).map (inline table default))

/-- Every placeholder of a template stands for a fragment that can be written out. -/
def AllInlinable (t : List Char) : Prop :=
  ∀ p ∈ placeholders t, table.Inlinable (table.resolve p.name p.pattern default)

variable {table default}

/-- What is written out is looked up once more, and nothing is found under it. -/
theorem expand_inline {x : Segment}
    (h : ∀ p, x = .placeholder p → table.get? (table.resolve p.name p.pattern default) = none) :
    (x.inline table default).expand table default = x.expand table default := by
  cases x with
  | literal text => rfl
  | placeholder p =>
    have hagain : table.resolve p.name (some (table.resolve p.name p.pattern default)) default =
        table.resolve p.name p.pattern default := by
      rw [FragmentTable.resolve, h p rfl, Option.getD_none]
    simp only [inline, expand, hagain]
    rfl

variable {t before rest : List Char} {p : Placeholder}

theorem map_inline_ofText (text : List Char) :
    (ofText text).map (inline table default) = ofText text := by
  unfold ofText
  split <;> rfl

theorem inlined_of_find?_eq_none (h : Placeholder.find? t = none) : inlined table default t = t := by
  rw [inlined, segments_of_find?_eq_none h, map_inline_ofText, join_ofText]

theorem inlined_of_find? (h : Placeholder.find? t = some (before, p, rest)) :
    inlined table default t = before ++
      ((⟨p.name, some (table.resolve p.name p.pattern default)⟩ : Placeholder).text ++
        inlined table default rest) := by
  rw [inlined, segments_of_find? h, List.map_append, map_inline_ofText, join_append, join_ofText,
    List.map_cons, join_cons]
  rfl

theorem allInlinable_of_find? (h : Placeholder.find? t = some (before, p, rest)) :
    AllInlinable table default t ↔
      table.Inlinable (table.resolve p.name p.pattern default) ∧ AllInlinable table default rest := by
  unfold AllInlinable
  rw [placeholders_of_find? h]
  exact List.forall_mem_cons

end Segment

/-- The first placeholder may carry another pattern, and other text may follow it: no placeholder begins
before it then either. -/
theorem Placeholder.find?_inline {t before rest fragment : List Char} {p : Placeholder}
    (h : find? t = some (before, p, rest)) (hne : fragment ≠ []) (hclose : '>' ∉ fragment)
    (s : List Char) :
    find? (before ++ ((⟨p.name, some fragment⟩ : Placeholder).text ++ s)) =
      some (before, ⟨p.name, some fragment⟩, s) := by
  have hp := wellFormed_of_find? h
  have hword : Unicode.isWord '<' = false := by rw [Unicode.isWord_of_lt (by decide)]; decide
  refine find?_eq_some_iff.2 ⟨⟨hp.name_ne_nil, hp.name_word, by simpa using hne, by simpa using hclose⟩,
    rfl, fun i hi => ?_⟩
  exact not_beginsAt_of_find?_append h hword (by decide) (by decide) _ hi

namespace Segment

variable {table : FragmentTable} {default t : List Char}

/-- A template with its fragments written out has the segments of the template, with their fragments
written out. -/
theorem segments_inlined (h : AllInlinable table default t) :
    segments (inlined table default t) = (segments t).map (inline table default) := by
  induction t using Placeholder.find?_induction with
  | literal t hfind =>
    rw [inlined_of_find?_eq_none hfind, segments_of_find?_eq_none hfind, map_inline_ofText]
  | placeholder t before p rest hfind ih =>
    obtain ⟨hfragment, hrest⟩ := (allInlinable_of_find? hfind).1 h
    rw [inlined_of_find? hfind,
      segments_of_find? (Placeholder.find?_inline hfind hfragment.ne_nil hfragment.close_notMem _),
      segments_of_find? hfind, ih hrest, List.map_append, map_inline_ofText, List.map_cons]
    rfl

theorem substitute_inlined (h : AllInlinable table default t) :
    substitute table default (inlined table default t) = substitute table default t := by
  rw [substitute, segments_inlined h, List.flatMap_map, substitute]
  refine List.flatMap_congr fun x hx => expand_inline fun p hp => ?_
  subst hp
  exact (h p (mem_placeholders.2 hx)).get?_eq_none

theorem inlined_eq_nil_iff (h : AllInlinable table default t) :
    inlined table default t = [] ↔ t = [] := by
  rw [← segments_eq_nil_iff, segments_inlined h, List.map_eq_nil_iff, segments_eq_nil_iff]

end Segment

/-- Writing out what every placeholder stands for changes neither the literal text nor the names, and
the expansion is the same. -/
theorem expand_inlined (e : Expander) (o : Overrides) (t : List Char)
    (h : ∀ p ∈ placeholders t, e.table.Inlinable
      (e.table.resolve p.name p.pattern (e.settings.merge o).defaultFragment)) :
    segments (Segment.inlined e.table (e.settings.merge o).defaultFragment t) =
        (segments t).map (Segment.inline e.table (e.settings.merge o).defaultFragment) ∧
      e.expand (Segment.inlined e.table (e.settings.merge o).defaultFragment t) o = e.expand t o := by
  refine ⟨Segment.segments_inlined h, ?_⟩
  have hempty : (Segment.inlined e.table (e.settings.merge o).defaultFragment t).isEmpty = t.isEmpty := by
    rw [Bool.eq_iff_iff, List.isEmpty_iff, List.isEmpty_iff, Segment.inlined_eq_nil_iff h]
  simp only [Expander.expand, Settings.finish, Segment.substitute_inlined h, hempty]

/-- A placeholder between angle brackets that belong to no other. -/
theorem expand_inlined_of_brackets :
    let t := "<<m:mon>>".toList
    (∀ p ∈ placeholders t, FragmentTable.standard.Inlinable
      (FragmentTable.standard.resolve p.name p.pattern "\\d+".toList)) ∧
      Segment.inlined .standard "\\d+".toList t = "<<m:[a-z]\x7b3\x7d>>".toList ∧
      segments (Segment.inlined .standard "\\d+".toList t) =
        (segments t).map (Segment.inline .standard "\\d+".toList) ∧
      Expander.standard.expand (Segment.inlined .standard "\\d+".toList t) .none =
        Expander.standard.expand t .none := by
  intro t
  have hopen : Unicode.isWord '<' = false := by rw [Unicode.isWord_of_lt (by decide)]; decide
  have hp : Placeholder.WellFormed ⟨['m'], some "mon".toList⟩ :=
    Placeholder.wellFormed_of_ascii (by decide)
  have hread (s : List Char) : Placeholder.read? ('<' :: '<' :: s) = none := by
    simp [Placeholder.read?, hopen]
  have ht : t = '<' :: '<' :: "m:mon>>".toList := by decide
  have htext : (⟨['m'], some "mon".toList⟩ : Placeholder).text ++ ['>'] = '<' :: "m:mon>>".toList := by
    decide
  have hfind : Placeholder.find? t = some (['<'], ⟨['m'], some "mon".toList⟩, ['>']) := by
    rw [ht, Placeholder.find?_of_read?_eq_none (hread _), ← htext, Placeholder.find?_text hp]
    rfl
  have hrest : Placeholder.find? ['>'] = none := rfl
  have hplaceholders : placeholders t = [⟨['m'], some "mon".toList⟩] := by
    rw [placeholders_of_find? hfind, placeholders, segments_of_find?_eq_none hrest]
    rfl
  have hinlinable : ∀ p ∈ placeholders t, FragmentTable.standard.Inlinable
      (FragmentTable.standard.resolve p.name p.pattern "\\d+".toList) := by
    rw [hplaceholders]
    refine List.forall_mem_singleton.2 ⟨by decide, by decide, by decide⟩
  refine ⟨hinlinable, ?_, expand_inlined .standard .none t hinlinable⟩
  rw [Segment.inlined_of_find? hfind, Segment.inlined_of_find?_eq_none hrest]
  decide

end RouteTemplate
