import RouteTemplate.Proofs.Compiling
import RouteTemplate.Proofs.Framing
import RouteTemplate.Proofs.Preference
import RouteTemplate.Proofs.Spans

/-!
What a route says of a path. The names of its groups, whether it matches, and what it captures are asked
for apart and go together: something is captured exactly where the route matches, under the names of
the groups through which the match goes, and each value is the piece of the path where its group lies.
-/

namespace RouteTemplate

namespace Regex

variable {n : Node} {path : List Char} {first last g : Nat} {made : Marks}

theorem nodup_named (hn : Distinct n.groups) : (n.named.map (·.2)).Nodup := by
  have hnodup : n.named.Nodup := n.named_ascending.imp fun hlt heq => by rw [heq] at hlt; omega
  refine hnodup.map_on fun x hx y hy heq => ?_
  obtain ⟨i, name⟩ := x
  obtain ⟨j, name'⟩ := y
  obtain rfl : name = name' := heq
  rw [hn.name i j name ((Node.mem_named hn).1 hx) ((Node.mem_named hn).1 hy)]

theorem extract_toArray (path : List Char) (start stop : Nat) :
    (path.toArray.extract start stop).toList = (path.take stop).drop start := by
  rw [Array.toList_extract, List.extract_eq_take_drop, List.drop_take]

/-- What is captured in a path by a match between two places: values for the names of the groups through
which the match goes, in the order of the groups, and each is what lies where its group does. -/
structure Node.Captures (n : Node) (path : List Char) (first last : Nat) (made : Marks)
    (captured : List (List Char × List Char)) : Prop where
  keys : (captured.map (·.1)).Sublist (n.named.map (·.2))
  mem_keys : ∀ g name, (g, name) ∈ n.named → (name ∈ captured.map (·.1) ↔
    ∃ start stop, Spans n.insides path.toArray made g start stop)
  value : ∀ g name start stop, (g, name) ∈ n.named → Spans n.insides path.toArray made g start stop →
    captured.lookup name = some ((path.take stop).drop start) ∧
      first ≤ start ∧ start ≤ stop ∧ stop ≤ last ∧ last ≤ path.length

/-- A group is taken exactly if the match goes through it. -/
theorem group?_eq_some_iff (hn : Distinct n.groups) {name : Option (List Char)}
    (hg : (g, name) ∈ n.groups) (hmatch : n.Matches path.toArray first last made) {v : List Char} :
    (⟨path.toArray, (1, last) :: (made ++ [(0, first)])⟩ : Match).group? g = some v ↔
      ∃ start stop, Spans n.insides path.toArray made g start stop ∧ v = (path.take stop).drop start := by
  have hpos := hn.positive g name hg
  constructor
  · intro hv
    rcases (Node.places_matches path.toArray hn.numbers g first last made hmatch).2 with
      hfree | ⟨start, stop, hspans, -⟩
    · rw [group?_of_unmarked hpos hfree] at hv
      cases hv
    · rw [group?_of_spans hpos hspans, extract_toArray] at hv
      exact ⟨start, stop, hspans, (Option.some.inj hv).symm⟩
  · rintro ⟨start, stop, hspans, rfl⟩
    rw [group?_of_spans hpos hspans, extract_toArray]

theorem keys_sublist {α β : Type} (f : Nat → Option β) (named : List (Nat × α)) :
    ((named.filterMap fun g => (f g.1).map (g.2, ·)).map (·.1)).Sublist (named.map (·.2)) := by
  induction named with
  | nil => exact List.Sublist.refl _
  | cons g named ih =>
    cases hg : f g.1 with
    | none => simpa [List.filterMap_cons, hg] using ih.cons g.2
    | some v => simpa [List.filterMap_cons, hg] using ih.cons_cons g.2

theorem captures_of_matches (hn : Distinct n.groups) (hfirst : first ≤ path.length)
    (hmatch : n.Matches path.toArray first last made) :
    n.Captures path first last made
      ((ofNode n).captures ⟨path.toArray, (1, last) :: (made ++ [(0, first)])⟩) := by
  refine ⟨?_, fun g name hg => ?_, fun g name start stop hg hspans => ?_⟩
  · rw [captures_ofNode]
    exact keys_sublist _ _
  · have hname := (Node.mem_named hn).1 hg
    rw [List.mem_map]
    constructor
    · rintro ⟨⟨_, v⟩, hmem, rfl⟩
      obtain ⟨i, hi, hv⟩ := (mem_captures hn).1 hmem
      obtain rfl := hn.name i g _ hi hname
      obtain ⟨start, stop, hspans, -⟩ := (group?_eq_some_iff hn hname hmatch).1 hv
      exact ⟨start, stop, hspans⟩
    · rintro ⟨start, stop, hspans⟩
      have hv := (group?_eq_some_iff hn hname hmatch).2 ⟨start, stop, hspans, rfl⟩
      exact ⟨_, (mem_captures hn).2 ⟨g, hname, hv⟩, rfl⟩
  · have hname := (Node.mem_named hn).1 hg
    have hv := (group?_eq_some_iff hn hname hmatch).2 ⟨start, stop, hspans, rfl⟩
    refine ⟨lookup_captures hn hname hv, ?_⟩
    rcases (Node.places_matches path.toArray hn.numbers g first last made hmatch).2 with
      hfree | ⟨start', stop', hspans', hle, hle', hle''⟩
    · rw [group?_of_unmarked (hn.positive g _ hname) hfree] at hv
      cases hv
    · obtain rfl := Option.some.inj (hspans.lookup_eq.1.symm.trans hspans'.lookup_eq.1)
      obtain rfl := Option.some.inj (hspans.lookup_eq.2.symm.trans hspans'.lookup_eq.2)
      have hlast := (Node.keeps_matches path.toArray n first last made hmatch).2.1
      exact ⟨hle, hle', hle'', by simpa using hlast (by simpa using hfirst)⟩

/-- What is found is captured as the leftmost-first match has it. -/
theorem exists_captures_of_find? (hn : Distinct n.groups) {m : Match}
    (hm : (ofNode n).find? path = some m) :
    ∃ first last made, n.LeftmostFirst path.toArray first last made ∧
      n.Captures path first last made ((ofNode n).captures m) := by
  obtain ⟨marks, hmarks, rfl⟩ := Option.map_eq_some_iff.1 hm
  obtain ⟨first, last, made, hfirst, rfl⟩ := Node.exists_leftmostFirst_of_search hmarks
  exact ⟨first, last, made, hfirst, captures_of_matches hn (by simpa using hfirst.le_size) hfirst.matches⟩

end Regex

/-- The names of a route, whether it matches a path and what it captures there agree. -/
theorem captures_agree [Regex.SizeLimit] (e : Expander) (t : List Char) (o : Overrides) {r : Route}
    (h : e.route t o = .ok r) (path : List Char) :
    r.names.Nodup ∧ ((r.captures path).isSome ↔ r.isMatch path) ∧
      ∃ n, Regex.Node.parse (e.expand t o) = .ok n ∧ r.names = n.named.map (·.2) ∧
        (r.isMatch path ↔ ∃ i j made, i ≤ path.length ∧ n.Matches path.toArray i j made) ∧
        ∀ captured, r.captures path = some captured → ∃ first last made,
          n.LeftmostFirst path.toArray first last made ∧ n.Captures path first last made captured := by
  obtain ⟨n, hn, -, rfl⟩ := Expander.route_eq_ok_iff.1 h
  have hdistinct := Regex.distinct_of_parse hn
  have hnames : (⟨t, e.expand t o, Regex.ofNode n⟩ : Route).names = n.named.map (·.2) :=
    Regex.names_ofNode n
  refine ⟨hnames ▸ Regex.nodup_named hdistinct, ?_, n, hn, hnames, ?_, fun captured hcaptured => ?_⟩
  · simp only [Route.captures, Route.isMatch, Regex.find?, Regex.isMatch, Option.isSome_map]
  · refine Regex.Node.search_isSome_iff.trans ?_
    rw [List.size_toArray]
  · obtain ⟨m, hm, rfl⟩ := Option.map_eq_some_iff.1 hcaptured
    exact Regex.exists_captures_of_find? hdistinct hm

/-- One group of two takes part in a match of the one or the other. -/
theorem captures_agree_of_alternatives :
    ∃ r, Expander.standard.route "<_:x>|<__:y>".toList .bare = .ok r ∧
      r.captures ['y'] = some [(['_', '_'], ['y'])] ∧ r.names = [['_'], ['_', '_']] ∧
      r.names.Nodup ∧ ((r.captures ['y']).isSome ↔ r.isMatch ['y']) ∧
      ∃ (n : Regex.Node) (first last : Nat) (made : Regex.Marks), r.names = n.named.map (·.2) ∧
        n.LeftmostFirst ['y'].toArray first last made ∧
        n.Captures ['y'] first last made [(['_', '_'], ['y'])] := by
  have hfirst : Placeholder.WellFormed ⟨['_'], some ['x']⟩ :=
    Placeholder.wellFormed_of_ascii (by decide)
  have hsecond : Placeholder.WellFormed ⟨['_', '_'], some ['y']⟩ :=
    Placeholder.wellFormed_of_ascii (by decide)
  have hexpand : Expander.standard.expand "<_:x>|<__:y>".toList .bare =
      "(?P<_>x)|(?P<__>y)".toList := by
    have ht : "<_:x>|<__:y>".toList = (⟨['_'], some ['x']⟩ : Placeholder).text ++
        (['|'] ++ ((⟨['_', '_'], some ['y']⟩ : Placeholder).text ++ [])) := by decide
    have hfind : Placeholder.find? (['|'] ++ ((⟨['_', '_'], some ['y']⟩ : Placeholder).text ++ [])) =
        some (['|'], ⟨['_', '_'], some ['y']⟩, []) := by
      rw [Placeholder.find?_append_of_notMem (by decide), Placeholder.find?_text hsecond]
      rfl
    refine (Expander.standard.expand_merge_bare _ .none).trans ?_
    rw [ht, substitute_text _ _ hfirst, substitute_of_find? _ _ hfind, substitute_nil]
    decide
  have hn : Regex.Node.parse (Expander.standard.expand "<_:x>|<__:y>".toList .bare) =
      .ok (.alt (.capture 1 (some ['_']) (.set (.singleton 'x')))
        (.capture 2 (some ['_', '_']) (.set (.singleton 'y')))) := by
    rw [hexpand]
    decide +kernel
  have hroute := Expander.route_eq_ok hn rfl
  rw [hexpand] at hroute
  have hfound : Route.captures ⟨"<_:x>|<__:y>".toList, "(?P<_>x)|(?P<__>y)".toList,
      Regex.ofNode (.alt (.capture 1 (some ['_']) (.set (.singleton 'x')))
        (.capture 2 (some ['_', '_']) (.set (.singleton 'y'))))⟩ ['y'] =
      some [(['_', '_'], ['y'])] := by
    decide +kernel
  obtain ⟨hnodup, hcaptures, n, -, hnames, -, hmatch⟩ :=
    captures_agree .standard _ .bare hroute ['y']
  obtain ⟨first, last, made, hfirst, hmade⟩ := hmatch _ hfound
  refine ⟨_, hroute, hfound, ?_, hnodup, hcaptures, n, first, last, made, hnames, hfirst, hmade⟩
  decide +kernel

end RouteTemplate
