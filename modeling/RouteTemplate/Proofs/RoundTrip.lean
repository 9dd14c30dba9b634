import Mathlib.Data.List.Nodup
import RouteTemplate.Proofs.Capturing

/-!
Filling in a template and capturing from a path are inverse, under the standard table and settings,
for templates whose components between slashes are plain text or placeholders. No fragment of the
standard table matches a slash, so the slashes of a path tell its components apart.
-/

namespace RouteTemplate

open Regex (Piece Node metaChars MatchesWhole Repeats)

/-! ### Captures of repeated characters -/

theorem filterMap_eq_map_of_forall {α β : Type} {f : α → Option β} {g : α → β} {l : List α}
    (h : ∀ x ∈ l, f x = some (g x)) : l.filterMap f = l.map g := by
  induction l with
  | nil => rfl
  | cons x l ih =>
    simp only [List.mem_cons, forall_eq_or_imp] at h
    rw [List.filterMap_cons_some h.1, List.map_cons, ih h.2]

/-- Pieces whose fragments name nothing capture a value under each of their own names, in order. -/
theorem Regex.captures_of_find? {pieces : List Piece} {n : Node}
    (hn : Node.parse ((Piece.framed pieces).flatMap Piece.text) = .ok n)
    (hunnamed : ∀ piece ∈ Piece.framed pieces, piece.Unnamed) {path : List Char} {m : Match}
    (hm : (ofNode n).find? path = some m) :
    (ofNode n).captures m = (pieces.filterMap Piece.name?).map fun name =>
      (name, (((ofNode n).captures m).lookup name).getD []) := by
  obtain ⟨hcaptured, -⟩ := captured_of_find? hn hm
  have hdistinct := distinct_of_parse hn
  obtain ⟨ns, hrow, rfl⟩ := Piece.exists_row_of_parse hn
  rw [← Piece.filterMap_framed, ← Piece.map_numbered 0, List.map_map]
  refine Eq.trans (captures_ofNode _ m) ?_
  rw [named_ofFactors hrow hdistinct hunnamed]
  refine filterMap_eq_map_of_forall fun ⟨g, name⟩ hmem => ?_
  obtain ⟨first, last, hgroup, hlookup, -⟩ := hcaptured g name hmem
  simp [hgroup, hlookup]

/-- A template whose fragments repeat characters captures a value for each placeholder, which the
fragment matches as a whole, and nothing else. -/
theorem exists_value_of_captures [Regex.SizeLimit] {e : Expander} {t : List Char} {o : Overrides}
    (hanchor : (e.settings.merge o).anchor) (hterminate : (e.settings.merge o).terminate)
    (hplain : PlainText t)
    (hrepeats : ∀ p ∈ placeholders t, ∃ a r set, Repeats (e.fragment o p) a r set)
    (hnodup : ((placeholders t).map (·.name)).Nodup) {r : Route} (hr : e.route t o = .ok r)
    {path : List Char} {m : List (List Char × List Char)} (hm : r.captures path = some m) :
    ∃ value : List Char → List Char, m = (placeholders t).map (fun p => (p.name, value p.name)) ∧
      (∀ p ∈ placeholders t, MatchesWhole (e.fragment o p) (value p.name)) ∧
      path = fill value t ++ e.separator t o := by
  obtain ⟨n, hn, -, rfl⟩ := Expander.route_eq_ok_iff.1 hr
  obtain ⟨found, hfound, rfl⟩ := Option.map_eq_some_iff.1 hm
  obtain ⟨pieces, hexpand, hnames, hunnamed, -, hgroups, hfill⟩ :=
    exists_pieces_of_repeats hanchor hterminate hplain hrepeats
  rw [hexpand] at hn
  obtain ⟨hcaptured, hwhole⟩ := Regex.captured_of_find? hn hfound
  refine ⟨fun name => (((Regex.ofNode n).captures found).lookup name).getD [], ?_, fun p hp => ?_,
    hwhole.symm.trans (hfill _)⟩
  · have hcaptures := Regex.captures_of_find? hn hunnamed hfound
    rw [hnames, List.map_map] at hcaptures
    exact hcaptures
  · have hname := List.mem_map_of_mem (f := Placeholder.name) hp
    rw [← hnames, ← Piece.filterMap_framed] at hname
    obtain ⟨g, hmem⟩ := Piece.exists_mem_numbered 0 hname
    obtain ⟨first, last, -, hlookup, word, fragment, n', inner, hfragment, hn', hinner⟩ :=
      hcaptured g _ hmem
    obtain ⟨q, hq, heq, a, r, set, h, hinside⟩ := hgroups _ word fragment hfragment
    obtain rfl := List.inj_on_of_nodup_map hnodup hq hp heq
    rw [hinside] at hn'
    rw [h.node_shift hn'] at hinner
    simp only [hlookup, Option.getD_some]
    exact h.matchesWhole_iff.2 (Node.admits_of_matches hinner)

/-! ### Components -/

/-- A component between slashes: plain text, or a placeholder with a proper name whose pattern, if it
has one, is an entry of the standard table. -/
def IsComponent : Segment → Prop
  | .literal text => text ≠ [] ∧ ∀ c ∈ text, c ∉ metaChars ∧ c ∉ ['/', '<', '>']
  | .placeholder p => p.WellFormed ∧ Regex.isGroupName p.name ∧
      ∀ key ∈ p.pattern, FragmentTable.standard.contains key

/-- Components with slashes between them, where each is written in some way. -/
def slashed (write : Segment → List Char) (components : List Segment) : List Char :=
  ['/'].intercalate (components.map write)

theorem flatMap_intersperse {write : Segment → List Char} (hwrite : write (.literal ['/']) = ['/'])
    (components : List Segment) :
    (components.intersperse (.literal ['/'])).flatMap write = slashed write components := by
  match components with
  | [] => rfl
  | [c] => simp [slashed]
  | c :: d :: components =>
    have ih := flatMap_intersperse hwrite (d :: components)
    rw [List.intersperse_cons_cons, List.flatMap_cons, List.flatMap_cons, ih, hwrite]
    simp [slashed]

theorem join_intersperse (components : List Segment) :
    Segment.join (components.intersperse (.literal ['/'])) = slashed Segment.text components :=
  flatMap_intersperse rfl components

theorem filterMap_intersperse (components : List Segment) :
    (components.intersperse (.literal ['/'])).filterMap Segment.placeholder? =
      components.filterMap Segment.placeholder? := by
  match components with
  | [] | [_] => rfl
  | c :: d :: components =>
    have ih := filterMap_intersperse (d :: components)
    rw [List.intersperse_cons_cons, List.filterMap_cons, List.filterMap_cons_none rfl, ih]
    exact List.filterMap_cons.symm

theorem eq_or_mem_of_mem_intersperse {α : Type} {x sep : α} {l : List α}
    (h : x ∈ l.intersperse sep) : x = sep ∨ x ∈ l := by
  match l with
  | [] => cases h
  | [y] => exact .inr h
  | y :: z :: l =>
    rw [List.intersperse_cons_cons, List.mem_cons, List.mem_cons] at h
    rcases h with rfl | rfl | h
    · exact .inr List.mem_cons_self
    · exact .inl rfl
    · exact (eq_or_mem_of_mem_intersperse h).imp_right (List.mem_cons_of_mem _)

theorem map_fill_eq_iff {components : List Segment} {value value' : List Char → List Char} :
    components.map (Segment.fill value) = components.map (Segment.fill value') ↔
      ∀ p ∈ components.filterMap Segment.placeholder?, value p.name = value' p.name := by
  rw [List.map_inj_left]
  constructor
  · exact fun h p hp => h _ (mem_filterMap_placeholder?.1 hp)
  · intro h c hc
    cases c with
    | literal text => rfl
    | placeholder p => exact h p (mem_filterMap_placeholder?.2 hc)

namespace IsComponent

theorem clear {c : Segment} (h : IsComponent c) : c.Clear := by
  cases c with
  | literal text => exact fun hmem => (h.2 _ hmem).2 (by decide)
  | placeholder p => exact h.1

theorem repeats {p : Placeholder} (h : IsComponent (.placeholder p)) :
    ∃ a r set, Repeats (Expander.standard.fragment .none p) a r set ∧ set.contains '/' = false := by
  obtain ⟨name, pattern⟩ := p
  cases pattern with
  | none =>
    show ∃ a r set, Repeats ((FragmentTable.standard.get? name).getD "\\d+".toList) a r set ∧ _
    cases hget : FragmentTable.standard.get? name with
    | none => exact ⟨_, _, _, Regex.repeats_digits, Regex.decimalDigits_slash⟩
    | some fragment => exact Regex.exists_repeats_of_get? hget
  | some key =>
    show ∃ a r set, Repeats ((FragmentTable.standard.get? key).getD key) a r set ∧ _
    obtain ⟨fragment, hget⟩ := Option.isSome_iff_exists.1 (h.2.2 key rfl)
    rw [hget]
    exact Regex.exists_repeats_of_get? hget

/-- A component that is filled in with what its fragment matches has no slash. -/
theorem slash_notMem_fill {c : Segment} (h : IsComponent c) {value : List Char → List Char}
    (hvalue : ∀ p, c = .placeholder p →
      MatchesWhole (Expander.standard.fragment .none p) (value p.name)) :
    '/' ∉ c.fill value := by
  cases c with
  | literal text => exact fun hmem => (h.2 _ hmem).2 (by decide)
  | placeholder p =>
    obtain ⟨a, r, set, hrepeats, hslash⟩ := h.repeats
    intro hmem
    have := (hrepeats.matchesWhole_iff.1 (hvalue p rfl)).all_mem _ hmem
    rw [hslash] at this
    cases this

/-- A component expands to a text that asks for a separator. -/
theorem exists_getLast?_expand {c : Segment} (h : IsComponent c) (table : FragmentTable)
    (default : List Char) :
    ∃ last, (c.expand table default).getLast? = some last ∧ last ≠ '/' ∧ last ≠ '$' := by
  cases c with
  | literal text =>
    obtain ⟨hne, hchars⟩ := h
    refine ⟨text.getLast hne, List.getLast?_eq_some_getLast hne, ?_, ?_⟩
    · exact fun heq => (hchars _ (List.getLast_mem hne)).2 (by rw [heq]; decide)
    · exact fun heq => (hchars _ (List.getLast_mem hne)).1 (by rw [heq]; decide)
  | placeholder p =>
    exact ⟨')', by rw [Segment.expand, Placeholder.captureGroup, List.getLast?_concat],
      by decide, by decide⟩

end IsComponent

theorem exists_getLast?_slashed {P : Char → Prop} {write : Segment → List Char}
    {components : List Segment} (hne : components ≠ [])
    (h : ∀ c ∈ components, ∃ last, (write c).getLast? = some last ∧ P last) :
    ∃ last, (slashed write components).getLast? = some last ∧ P last := by
  match components with
  | [] => exact absurd rfl hne
  | [c] => simpa [slashed] using h
  | c :: d :: components =>
    obtain ⟨last, hlast, hP⟩ := exists_getLast?_slashed (List.cons_ne_nil d components)
      fun c hc => h c (List.mem_cons_of_mem _ hc)
    refine ⟨last, ?_, hP⟩
    rw [slashed, List.map_cons, List.map_cons, List.intercalate_cons_cons, ← List.map_cons,
      List.getLast?_append, ← slashed, hlast]
    rfl

/-! ### Templates of components -/

section

variable {components : List Segment} (hcomponents : ∀ c ∈ components, IsComponent c)
include hcomponents

theorem eq_or_isComponent {item : Segment} (h : item ∈ components.intersperse (.literal ['/'])) :
    item = .literal ['/'] ∨ IsComponent item :=
  (eq_or_mem_of_mem_intersperse h).imp_right (hcomponents item)

theorem clear_of_mem_intersperse :
    ∀ item ∈ components.intersperse (.literal ['/']), item.Clear := by
  intro item hitem
  rcases eq_or_isComponent hcomponents hitem with rfl | h
  · exact show '<' ∉ ['/'] by decide
  · exact h.clear

/-- A template of components is read as them, with slashes between them. -/
theorem flatMap_segments_slashed {write : Segment → List Char} (hnil : write (.literal []) = [])
    (happend : ∀ a b, write (.literal (a ++ b)) = write (.literal a) ++ write (.literal b))
    (hwrite : write (.literal ['/']) = ['/']) :
    (segments (slashed Segment.text components)).flatMap write = slashed write components := by
  rw [← join_intersperse]
  exact (flatMap_segments_join hnil happend (clear_of_mem_intersperse hcomponents)).trans
    (flatMap_intersperse hwrite components)

theorem fill_slashed (value : List Char → List Char) :
    fill value (slashed Segment.text components) = slashed (Segment.fill value) components :=
  flatMap_segments_slashed hcomponents rfl (fun _ _ => rfl) rfl

theorem placeholders_slashed : placeholders (slashed Segment.text components) =
    components.filterMap Segment.placeholder? := by
  rw [← join_intersperse, ← filterMap_intersperse]
  exact placeholders_join (clear_of_mem_intersperse hcomponents)

theorem plainText_slashed : PlainText (slashed Segment.text components) := by
  rw [← join_intersperse]
  refine plainText_join (clear_of_mem_intersperse hcomponents) fun text htext => ?_
  intro c hc
  rcases eq_or_isComponent hcomponents htext with heq | h
  · cases heq
    obtain rfl := List.mem_singleton.1 hc
    decide
  · exact (h.2 c hc).1

theorem separator_slashed (hne : components ≠ []) :
    Expander.standard.separator (slashed Segment.text components) .none = ['/'] := by
  let default := Settings.standard.defaultFragment
  have hbody : substitute .standard default (slashed Segment.text components) =
      slashed (Segment.expand .standard default) components :=
    flatMap_segments_slashed hcomponents rfl (fun _ _ => rfl) rfl
  obtain ⟨last, hlast, hslash, hdollar⟩ := exists_getLast?_slashed hne fun c hc =>
    (hcomponents c hc).exists_getLast?_expand .standard default
  rw [← hbody] at hlast
  have hnonempty : slashed Segment.text components ≠ [] := by
    intro hnil
    rw [hnil, substitute, segments_of_find?_eq_none rfl] at hlast
    cases hlast
  have hsuffix {c : Char} (hc : last ≠ c) (opening : List Char) :
      ¬[c] <:+ opening ++ substitute .standard default (slashed Segment.text components) := by
    rw [Settings.singleton_suffix_iff, List.getLast?_append, hlast]
    simpa using hc
  exact if_pos ⟨rfl, hnonempty, hsuffix hdollar _, hsuffix hslash _⟩

/-- Values that the fragments match are told apart in a path. -/
theorem map_fill_eq_of_slashed_eq (hne : components ≠ []) {value value' : List Char → List Char}
    (hvalue : ∀ p ∈ components.filterMap Segment.placeholder?,
      MatchesWhole (Expander.standard.fragment .none p) (value p.name))
    (hvalue' : ∀ p ∈ components.filterMap Segment.placeholder?,
      MatchesWhole (Expander.standard.fragment .none p) (value' p.name))
    (h : slashed (Segment.fill value) components = slashed (Segment.fill value') components) :
    components.map (Segment.fill value) = components.map (Segment.fill value') := by
  have hsplit {value : List Char → List Char}
      (hvalue : ∀ p ∈ components.filterMap Segment.placeholder?,
        MatchesWhole (Expander.standard.fragment .none p) (value p.name)) :
      (slashed (Segment.fill value) components).splitOn '/' =
        components.map (Segment.fill value) := by
    refine List.splitOn_intercalate '/' ?_ (by simpa using hne)
    rw [List.forall_mem_map]
    rintro c hc
    exact (hcomponents c hc).slash_notMem_fill fun p heq =>
      hvalue p (mem_filterMap_placeholder?.2 (heq ▸ hc))
  rw [← hsplit hvalue, h, hsplit hvalue']

end

/-- A template of components that have distinct names has a route if its size is allowed, and building
a path from values and capturing values from a path are inverse. -/
theorem captures_iff_fill [Regex.SizeLimit] {components : List Segment} (hne : components ≠ [])
    (hcomponents : ∀ c ∈ components, IsComponent c)
    (hnodup : ((components.filterMap Segment.placeholder?).map (·.name)).Nodup) :
    ((∃ r, Expander.standard.route (slashed Segment.text components) .none = .ok r) ↔
      Regex.SizeLimit.allows (Expander.standard.expand (slashed Segment.text components) .none)) ∧
    ∀ r, Expander.standard.route (slashed Segment.text components) .none = .ok r →
      ∀ (path : List Char) (m : List Char → List Char),
        r.captures path =
            some ((components.filterMap Segment.placeholder?).map fun p => (p.name, m p.name)) ↔
          (∀ p ∈ components.filterMap Segment.placeholder?,
            MatchesWhole (Expander.standard.fragment .none p) (m p.name)) ∧
          path = slashed (Segment.fill m) components ++ ['/'] := by
  have hplain := plainText_slashed hcomponents
  have hplaceholders := placeholders_slashed hcomponents
  have hcomponent {p : Placeholder} (hp : p ∈ placeholders (slashed Segment.text components)) :
      IsComponent (.placeholder p) :=
    hcomponents _ (mem_filterMap_placeholder?.1 (hplaceholders ▸ hp))
  have hrepeats : ∀ p ∈ placeholders (slashed Segment.text components), ∃ a r set,
      Repeats (Expander.standard.fragment .none p) a r set := by
    intro p hp
    obtain ⟨a, r, set, h, -⟩ := (hcomponent hp).repeats
    exact ⟨a, r, set, h⟩
  rw [← hplaceholders] at hnodup
  obtain ⟨hroute, hmatch⟩ := route_of_repeats (e := .standard) (o := .none) rfl rfl hplain
    hrepeats hnodup fun p hp => (hcomponent hp).2.1
  refine ⟨hroute, fun r hr => ?_⟩
  replace hmatch := hmatch r hr
  have hcaptured {path : List Char} {found : List (List Char × List Char)}
      (hfound : r.captures path = some found) :=
    exists_value_of_captures (e := .standard) rfl rfl hplain hrepeats hnodup hr hfound
  simp only [fill_slashed hcomponents, separator_slashed hcomponents hne] at hmatch hcaptured
  rw [hplaceholders] at hmatch hcaptured
  refine fun path m => ⟨fun h => ?_, fun ⟨hm, hpath⟩ => ?_⟩
  · obtain ⟨value, heq, hvalue, hpath⟩ := hcaptured h
    have hagree : ∀ p ∈ components.filterMap Segment.placeholder?, m p.name = value p.name :=
      fun p hp => congrArg Prod.snd (List.map_inj_left.1 heq p hp)
    refine ⟨fun p hp => ?_, ?_⟩
    · rw [hagree p hp]
      exact hvalue p hp
    · rw [hpath, slashed, slashed, map_fill_eq_iff.2 hagree]
  · obtain ⟨found, hfound⟩ := Option.isSome_iff_exists.1 (hmatch m hm)
    rw [← hpath] at hfound
    obtain ⟨value, rfl, hvalue, hpath'⟩ := hcaptured hfound
    have hslashed : slashed (Segment.fill value) components = slashed (Segment.fill m) components :=
      List.append_cancel_right (hpath'.symm.trans hpath)
    have hagree := map_fill_eq_iff.1
      (map_fill_eq_of_slashed_eq hcomponents hne hvalue hm hslashed)
    rw [hfound]
    exact congrArg some (List.map_congr_left fun p hp => by rw [hagree p hp])

theorem captures_underscore : ∃ r, Expander.standard.route "u/<_>".toList .none = .ok r ∧
    r.captures "u/7/".toList = some [("_".toList, "7".toList)] := by
  obtain ⟨hroute, h⟩ := captures_iff_fill
    (List.cons_ne_nil (.literal "u".toList) [.placeholder ⟨"_".toList, none⟩])
    (by
      simp only [List.mem_cons, List.not_mem_nil, or_false, forall_eq_or_imp, forall_eq]
      refine ⟨⟨by decide, fun c hc => ?_⟩, ?_, by simp [Regex.isGroupName, Regex.isNameChar], by simp⟩
      · obtain rfl := List.mem_singleton.1 hc
        decide
      · exact underscore_clear _ (List.mem_cons_of_mem _ List.mem_cons_self))
    (by decide)
  obtain ⟨r, hr⟩ := hroute.2 rfl
  refine ⟨r, hr, (h r hr _ fun _ => ['7']).2 ⟨fun p hp => ?_, rfl⟩⟩
  obtain rfl := List.mem_singleton.1 hp
  exact Regex.matchesWhole_seven

end RouteTemplate
