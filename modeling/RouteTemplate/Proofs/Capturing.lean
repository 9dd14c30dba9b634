import RouteTemplate.Proofs.Compiling
import RouteTemplate.Proofs.Searching

/-!
What the groups of a pattern in pieces capture. A match of such a pattern goes through its pieces in
order, each group marks where its own stretch begins and ends, and no fragment marks it anew, so the
stretches put together are the whole of what was matched.
-/

namespace RouteTemplate.Regex

namespace Piece

/-- A way through a text by pieces that have `k` groups before them, where `place` says what each
slot is marked with. -/
inductive Traverses (text : Array Char) (place : Nat → Option Nat) :
    Nat → List Piece → Nat → Nat → Prop where
  | nil {k i : Nat} : Traverses text place k [] i i
  | char {k i j : Nat} {pieces : List Piece} {c : Char} {plain : c ∉ metaChars}
      (hc : text[i]? = some c) (h : Traverses text place k pieces (i + 1) j) :
      Traverses text place k (.char c plain :: pieces) i j
  | start {k j : Nat} {pieces : List Piece} (h : Traverses text place k pieces 0 j) :
      Traverses text place k (.start :: pieces) 0 j
  | stop {k j : Nat} {pieces : List Piece} (h : Traverses text place k pieces text.size j) :
      Traverses text place k (.stop :: pieces) text.size j
  | group {k i i' j : Nat} {pieces : List Piece} {name : List Char}
      {word : ∀ c ∈ name, Unicode.isWord c} {fragment : Fragment} {n : Node} {inner : Marks}
      (hopen : place (2 * (k + 1)) = some i) (hclose : place (2 * (k + 1) + 1) = some i')
      (hn : (fragment.assembly.inside.shift (k + 1)).node .initial = .ok (n, fragment.flags))
      (hinner : n.Matches text i i' inner)
      (h : Traverses text place (k + (fragment.assembly.groups + 1)) pieces i' j) :
      Traverses text place k (.group name word fragment :: pieces) i j

/-- A match of the row of some pieces goes through them in order. -/
theorem Row.traverses {text : Array Char} {place : Nat → Option Nat} {k : Nat}
    {pieces : List Piece} {ns : List Node} (hrow : Row k pieces ns) {i j : Nat} {made : Marks}
    (hi : i ≤ text.size) (h : (Node.ofFactors ns).Matches text i j made)
    (hplace : ∀ slot p, made.lookup slot = some p → place slot = some p) :
    Traverses text place k pieces i j := by
  induction hrow generalizing i made with
  | nil =>
    obtain ⟨rfl, -⟩ := h
    exact .nil
  | char c plain _ ih =>
    rw [Node.matches_ofFactors_cons] at h
    obtain ⟨i', first, second, hfirst, hsecond, rfl⟩ := h
    obtain ⟨hc, rfl, rfl⟩ := Node.matches_singleton.1 hfirst
    have hlt := (Array.getElem?_eq_some_iff.1 hc).1
    exact .char hc (ih hlt hsecond (by simpa using hplace))
  | start _ ih =>
    rw [Node.matches_ofFactors_cons] at h
    obtain ⟨i', first, second, ⟨rfl, rfl, hlook⟩, hsecond, rfl⟩ := h
    have hzero : i' = 0 := by
      cases i' with
      | zero => rfl
      | succ i' =>
        have : text.size ≤ i' := by simpa [Look.holds, charBefore?] using hlook
        omega
    subst hzero
    exact .start (ih hi hsecond (by simpa using hplace))
  | stop _ ih =>
    rw [Node.matches_ofFactors_cons] at h
    obtain ⟨i', first, second, ⟨rfl, rfl, hlook⟩, hsecond, rfl⟩ := h
    have hsize : i' = text.size := Nat.le_antisymm hi (by simpa [Look.holds] using hlook)
    subst hsize
    exact .stop (ih hi hsecond (by simpa using hplace))
  | @group k pieces ns n name word fragment hn hrow ih =>
    rw [Node.matches_ofFactors_cons] at h
    obtain ⟨i', first, second, hfirst, hsecond, rfl⟩ := h
    obtain ⟨inner, hinner, rfl⟩ := Node.matches_capture.1 hfirst
    have hlater : ∀ m ∈ second, m.1 ≠ 2 * (k + 1) ∧ m.1 ≠ 2 * (k + 1) + 1 := by
      intro m hm
      obtain ⟨g, hg, hslot⟩ := (Node.keeps_matches text _ i' j second hsecond).2.2 m hm
      rw [Node.groups_ofFactors] at hg
      have := hrow.lt_of_mem_groups hg
      omega
    have hwithin : ∀ m ∈ inner, m.1 ≠ 2 * (k + 1) ∧ m.1 ≠ 2 * (k + 1) + 1 := by
      intro m hm
      obtain ⟨g, hg, hslot⟩ := (Node.keeps_matches text n i i' inner hinner).2.2 m hm
      have := (bounds_of_node_shift hn hg).1
      omega
    obtain ⟨hopen, hclose⟩ := lookup_group (i := i) (j := i')
      (show 2 * (k + 1) ≠ 2 * (k + 1) + 1 by omega) hwithin hlater []
    refine .group (hplace _ _ hopen) (hplace _ _ hclose) hn hinner (ih ?_ hsecond ?_)
    · exact (Node.keeps_matches text n i i' inner hinner).2.1 hi
    · intro slot p hp
      exact hplace slot p (by rw [List.lookup_append, hp]; rfl)

/-- Pieces up to the end match whatever their groups are filled with, if the fragments do. -/
theorem Row.exists_matches {k : Nat} {pieces : List Piece} {ns : List Node}
    (hrow : Row k (pieces ++ [.stop]) ns) (hinner : ∀ piece ∈ pieces, piece ≠ .start ∧ piece ≠ .stop)
    {value : List Char → List Char}
    (hvalue : ∀ name word fragment, Piece.group name word fragment ∈ pieces → ∀ g n f,
      (fragment.assembly.inside.shift g).node .initial = .ok (n, f) → n.MatchesAnywhere (value name))
    (before : List Char) :
    ∃ j made, (Node.ofFactors ns).Matches (before ++ pieces.flatMap (fill value)).toArray
      before.length j made := by
  induction pieces generalizing k ns before with
  | nil =>
    cases hrow with
    | stop h =>
      cases h
      exact ⟨before.length, [], rfl, rfl, by simp [Look.holds]⟩
  | cons piece pieces ih =>
    simp only [List.mem_cons, forall_eq_or_imp] at hinner
    have hvalue' : ∀ name word fragment, Piece.group name word fragment ∈ pieces → ∀ g n f,
        (fragment.assembly.inside.shift g).node .initial = .ok (n, f) →
          n.MatchesAnywhere (value name) :=
      fun name word fragment hmem => hvalue name word fragment (List.mem_cons_of_mem _ hmem)
    cases hrow with
    | char c plain h =>
      obtain ⟨j, made, hmade⟩ := ih h hinner.2 hvalue' (before ++ [c])
      rw [List.append_assoc, List.length_append] at hmade
      rw [Node.matches_ofFactors_cons]
      exact ⟨j, _, _, _, made, Node.matches_singleton.2 ⟨by simp [fill], rfl, rfl⟩, hmade, rfl⟩
    | start => exact absurd rfl hinner.1.1
    | stop => exact absurd rfl hinner.1.2
    | group name word fragment hn h =>
      obtain ⟨j, made, hmade⟩ := ih h hinner.2 hvalue' (before ++ value name)
      obtain ⟨first, hfirst⟩ := hvalue name word fragment List.mem_cons_self _ _ _ hn before
        (pieces.flatMap (fill value))
      rw [List.append_assoc, List.length_append] at hmade
      rw [Node.matches_ofFactors_cons]
      exact ⟨j, _, _, _, made, Node.matches_capture.2 ⟨first, hfirst, rfl⟩, hmade, rfl⟩

namespace Traverses

variable {text : Array Char} {place : Nat → Option Nat} {k i j : Nat} {pieces : List Piece}

theorem le (h : Traverses text place k pieces i j) : i ≤ j := by
  induction h with
  | nil => exact Nat.le_refl _
  | char _ _ ih => omega
  | start _ ih | stop _ ih => exact ih
  | group _ _ _ hinner _ ih => exact Nat.le_trans (Node.keeps_matches text _ _ _ _ hinner).1 ih

/-- Pieces that end with the end of the text get there. -/
theorem eq_size (h : Traverses text place k pieces i j) (hlast : pieces.getLast? = some .stop) :
    j = text.size := by
  have hcons {piece : Piece} {pieces : List Piece} (hlast : (piece :: pieces).getLast? = some .stop)
      (hne : piece ≠ .stop) : pieces.getLast? = some .stop := by
    rw [List.getLast?_cons, Option.some.injEq] at hlast
    cases hl : pieces.getLast? with
    | none => exact absurd (by simpa [hl] using hlast) hne
    | some last => simpa [hl] using hlast
  induction h with
  | nil => cases hlast
  | char _ _ ih => exact ih (hcons hlast (by simp))
  | start _ ih => exact ih (hcons hlast (by simp))
  | @stop k j pieces h ih =>
    cases pieces with
    | nil => cases h; rfl
    | cons piece pieces => exact ih (by simpa [List.getLast?_cons] using hlast)
  | group _ _ _ _ _ ih => exact ih (hcons hlast (by simp))

/-- The pieces with the stretches of their groups are what was gone through. -/
theorem fill_eq (h : Traverses text place k pieces i j) {value : List Char → List Char}
    (hvalue : ∀ g name, (g, name) ∈ numbered k pieces → ∀ first last, place (2 * g) = some first →
      place (2 * g + 1) = some last → value name = (text.extract first last).toList) :
    pieces.flatMap (fill value) = (text.extract i j).toList := by
  induction h with
  | nil => rw [extract_self]; rfl
  | char hc h ih =>
    rw [List.flatMap_cons, ih hvalue, fill, ← extract_succ hc,
      extract_append (Nat.le_succ _) h.le]
  | start _ ih | stop _ ih => rw [List.flatMap_cons, ih hvalue]; rfl
  | group hopen hclose _ hinner h ih =>
    have hle := (Node.keeps_matches text _ _ _ _ hinner).1
    rw [List.flatMap_cons, ih fun g name hmem => hvalue g name (List.mem_cons_of_mem _ hmem), fill,
      hvalue _ _ List.mem_cons_self _ _ hopen hclose, extract_append hle h.le]

/-- Each group around a fragment has its place, and the fragment matches there. -/
theorem exists_place (h : Traverses text place k pieces i j) {g : Nat} {name : List Char}
    (hmem : (g, name) ∈ numbered k pieces) :
    ∃ first last, place (2 * g) = some first ∧ place (2 * g + 1) = some last ∧
      ∃ word fragment n inner, .group name word fragment ∈ pieces ∧
        (fragment.assembly.inside.shift g).node .initial = .ok (n, fragment.flags) ∧
        n.Matches text first last inner := by
  have later {piece : Piece} {pieces : List Piece} {first last : Nat}
      (h : ∃ word fragment n inner, .group name word fragment ∈ pieces ∧
        (fragment.assembly.inside.shift g).node .initial = .ok (n, fragment.flags) ∧
        n.Matches text first last inner) :
      ∃ word fragment n inner, .group name word fragment ∈ piece :: pieces ∧
        (fragment.assembly.inside.shift g).node .initial = .ok (n, fragment.flags) ∧
        n.Matches text first last inner :=
    let ⟨word, fragment, n, inner, hmem, h⟩ := h
    ⟨word, fragment, n, inner, List.mem_cons_of_mem _ hmem, h⟩
  induction h with
  | nil => cases hmem
  | char _ _ ih | start _ ih | stop _ ih =>
    obtain ⟨first, last, hopen, hclose, h⟩ := ih hmem
    exact ⟨first, last, hopen, hclose, later h⟩
  | group hopen hclose hn hinner _ ih =>
    rcases List.mem_cons.1 hmem with heq | hmem
    · simp only [Prod.mk.injEq] at heq
      obtain ⟨rfl, rfl⟩ := heq
      exact ⟨_, _, hopen, hclose, _, _, _, _, List.mem_cons_self, hn, hinner⟩
    · obtain ⟨first, last, hopen, hclose, h⟩ := ih hmem
      exact ⟨first, last, hopen, hclose, later h⟩

end Traverses

end Piece

/-! ### Captures -/

namespace Piece

/-- Pieces between the two ends. -/
def framed (pieces : List Piece) : List Piece := .start :: (pieces ++ [.stop])

theorem filterMap_framed (pieces : List Piece) :
    (framed pieces).filterMap name? = pieces.filterMap name? := by
  rw [framed, List.filterMap_cons_none rfl, List.filterMap_append]
  exact List.append_nil _

theorem flatMap_fill_framed (value : List Char → List Char) (pieces : List Piece) :
    (framed pieces).flatMap (fill value) = pieces.flatMap (fill value) := by
  rw [framed, List.flatMap_cons, List.flatMap_append]
  exact List.append_nil _

theorem mem_of_mem_framed {pieces : List Piece} {name : List Char}
    {word : ∀ c ∈ name, Unicode.isWord c} {fragment : Fragment}
    (h : .group name word fragment ∈ framed pieces) : .group name word fragment ∈ pieces := by
  simpa [framed] using h

end Piece

/-- What is found by pieces is a way through all of them. -/
theorem exists_traverses_of_find? {pieces : List Piece} {ns : List Node}
    (hrow : Piece.Row 0 pieces ns) {path : List Char} {m : Match}
    (h : (ofNode (.ofFactors ns)).find? path = some m) :
    m.text = path.toArray ∧ ∃ i j, i ≤ m.text.size ∧
      Piece.Traverses m.text (m.marks.lookup ·) 0 pieces i j := by
  obtain ⟨marks, hmarks, rfl⟩ := Option.map_eq_some_iff.1 h
  obtain ⟨i, j, hi, hmatch⟩ := Node.matches_of_search hmarks
  obtain ⟨inner, hinner, rfl⟩ := Node.matches_capture.1 hmatch
  refine ⟨rfl, i, j, hi, hrow.traverses hi hinner fun slot p hp => ?_⟩
  obtain ⟨g, hg, hslot⟩ :=
    (Node.keeps_matches _ _ _ _ _ hinner).2.2 _ (mem_of_lookup hp)
  rw [Node.groups_ofFactors] at hg
  have := hrow.lt_of_mem_groups hg
  have hne : (slot == 2 * 0 + 1) = false := beq_eq_false_iff_ne.2 (by simp only at hslot; omega)
  rw [List.lookup_cons, hne, List.lookup_append, hp]
  rfl

/-- What a pattern in pieces between the two ends captures: each group has a stretch that its
fragment matches, and the pieces with these stretches are the whole path. -/
theorem captured_of_find? {pieces : List Piece} {n : Node}
    (hn : Node.parse ((Piece.framed pieces).flatMap Piece.text) = .ok n) {path : List Char}
    {m : Match} (hm : (ofNode n).find? path = some m) :
    (∀ g name, (g, name) ∈ Piece.numbered 0 (Piece.framed pieces) →
      ∃ first last, m.group? g = some (path.toArray.extract first last).toList ∧
        ((ofNode n).captures m).lookup name = some (path.toArray.extract first last).toList ∧
        ∃ word fragment n' inner, .group name word fragment ∈ pieces ∧
          (fragment.assembly.inside.shift g).node .initial = .ok (n', fragment.flags) ∧
          n'.Matches path.toArray first last inner) ∧
    pieces.flatMap (Piece.fill fun name => (((ofNode n).captures m).lookup name).getD []) = path := by
  have hdistinct := distinct_of_parse hn
  obtain ⟨ns, hrow, rfl⟩ := Piece.exists_row_of_parse hn
  obtain ⟨htext, i, j, hi, htraverses⟩ := exists_traverses_of_find? hrow hm
  rw [htext] at hi htraverses
  have hgroup (g : Nat) (name : List Char)
      (hmem : (g, name) ∈ Piece.numbered 0 (Piece.framed pieces)) {first last : Nat}
      (hopen : m.marks.lookup (2 * g) = some first)
      (hclose : m.marks.lookup (2 * g + 1) = some last) :
      m.group? g = some (path.toArray.extract first last).toList ∧
        ((ofNode (.ofFactors ns)).captures m).lookup name =
          some (path.toArray.extract first last).toList := by
    have hv := group?_eq hopen hclose
    rw [htext] at hv
    refine ⟨hv, lookup_captures hdistinct ?_ hv⟩
    rw [Node.groups_ofFactors]
    exact hrow.mem_groups_of_mem_numbered hmem
  refine ⟨fun g name hmem => ?_, ?_⟩
  · obtain ⟨first, last, hopen, hclose, word, fragment, n', inner, hgroupmem, h⟩ :=
      htraverses.exists_place hmem
    obtain ⟨htaken, hlookup⟩ := hgroup g name hmem hopen hclose
    exact ⟨first, last, htaken, hlookup, word, fragment, n', inner,
      Piece.mem_of_mem_framed hgroupmem, h⟩
  · rw [← Piece.flatMap_fill_framed, htraverses.fill_eq fun g name hmem first last hopen hclose => by
      rw [(hgroup g name hmem hopen hclose).2]; rfl]
    obtain rfl := htraverses.eq_size (by simp [Piece.framed, List.getLast?_cons])
    cases htraverses
    simp

/-- A pattern in pieces between the two ends finds itself, filled with what its fragments match. -/
theorem isSome_find?_of_fill {pieces : List Piece} {n : Node}
    (hn : Node.parse ((Piece.framed pieces).flatMap Piece.text) = .ok n)
    (hinner : ∀ piece ∈ pieces, piece ≠ .start ∧ piece ≠ .stop) {value : List Char → List Char}
    (hvalue : ∀ name word fragment, .group name word fragment ∈ pieces → ∀ g n f,
      (fragment.assembly.inside.shift g).node .initial = .ok (n, f) →
        n.MatchesAnywhere (value name)) :
    ((ofNode n).find? (pieces.flatMap (Piece.fill value))).isSome := by
  obtain ⟨ns, hrow, rfl⟩ := Piece.exists_row_of_parse hn
  cases hrow with
  | start h =>
    obtain ⟨j, made, hmade⟩ := h.exists_matches hinner hvalue []
    rw [find?, Option.isSome_map]
    refine Node.search_isSome_iff.2 ⟨0, j, made ++ [], Nat.zero_le _, ?_⟩
    rw [Node.matches_ofFactors_cons]
    exact ⟨0, [], made, ⟨rfl, rfl, rfl⟩, hmade, rfl⟩

end RouteTemplate.Regex

namespace RouteTemplate

open Regex (Piece Node)

/-- What the settings of a call add between what a template stands for and the end of it. -/
def Expander.separator (e : Expander) (t : List Char) (o : Overrides) : List Char :=
  let s := e.settings.merge o
  let body := substitute e.table s.defaultFragment t
  s.separator t (s.opening body ++ body)

namespace Settings

variable {s : Settings} {template : List Char} {body : List Piece}

theorem pieces_eq (hanchor : s.anchor) (hterminate : s.terminate) : s.pieces template body =
    Piece.framed (body ++ (s.separator template (s.opening (body.flatMap Piece.text) ++
      body.flatMap Piece.text)).map fun _ => .slash) := by
  simp [pieces, Piece.framed, hanchor, hterminate]

theorem fill_slash (value : List Char → List Char) (pattern : List Char) :
    ((s.separator template pattern).map fun _ => Piece.slash).flatMap (Piece.fill value) =
      s.separator template pattern := by
  unfold separator
  split <;> rfl

end Settings

/-- The pattern of an anchored and terminated template of plain text and valid fragments, in pieces
between the two ends. -/
theorem exists_pieces_of_anchored {e : Expander} {t : List Char} {o : Overrides}
    {P : Regex.Fragment → Prop} (hanchor : (e.settings.merge o).anchor)
    (hterminate : (e.settings.merge o).terminate) (hplain : PlainText t)
    (hfragments : ∀ p ∈ placeholders t, ∃ fragment : Regex.Fragment,
      fragment.text = e.fragment o p ∧ P fragment) :
    ∃ pieces : List Piece,
      e.expand t o = (Piece.framed pieces).flatMap Piece.text ∧
      pieces.filterMap Piece.name? = (placeholders t).map (·.name) ∧
      (∀ piece ∈ pieces, piece ≠ .start ∧ piece ≠ .stop) ∧
      (∀ name word fragment, .group name word fragment ∈ pieces → ∃ p ∈ placeholders t,
        p.name = name ∧ fragment.text = e.fragment o p ∧ P fragment) ∧
      ∀ value, pieces.flatMap (Piece.fill value) = fill value t ++ e.separator t o := by
  obtain ⟨body, hexpand, htext, hnames, hshape, hfill⟩ :=
    exists_pieces_of_expand (P := P) hplain hfragments
  rw [Settings.pieces_eq hanchor hterminate] at hexpand
  refine ⟨_, hexpand, ?_, fun piece hpiece => ?_, fun name word fragment hmem => ?_,
    fun value => ?_⟩
  · rw [List.filterMap_append, Settings.filterMap_slash, hnames, List.append_nil]
  · rcases List.mem_append.1 hpiece with hpiece | hpiece
    · rcases hshape piece hpiece with ⟨c, plain, rfl⟩ | ⟨p, -, word, fragment, rfl, -⟩ <;> simp
    · obtain ⟨-, -, rfl⟩ := List.mem_map.1 hpiece
      simp [Piece.slash]
  · rcases List.mem_append.1 hmem with hmem | hmem
    · rcases hshape _ hmem with ⟨c, plain, heq⟩ | ⟨p, hp, word, fragment, heq, h⟩
      · cases heq
      · cases heq
        exact ⟨p, hp, rfl, h⟩
    · obtain ⟨-, -, heq⟩ := List.mem_map.1 hmem
      cases heq
  · rw [List.flatMap_append, Settings.fill_slash, hfill, htext]
    rfl

/-! ### Repeated characters -/

namespace Regex

/-- A pattern matches a text from its beginning to its end. -/
def MatchesWhole (pattern v : List Char) : Prop :=
  ∃ n made, Node.parse pattern = .ok n ∧ n.Matches v.toArray 0 v.length made

theorem Repeats.matchesWhole_iff {pattern v : List Char} {a : Atom} {r : Repetition}
    {set : Unicode.CharSet} (h : Repeats pattern a r set) :
    MatchesWhole pattern v ↔ Admits r set v := by
  constructor
  · rintro ⟨n, made, hn, hmade⟩
    rw [h.parse_node] at hn
    cases hn
    simpa using Node.admits_of_matches hmade
  · intro hv
    obtain ⟨made, hmade⟩ := Node.matchesAnywhere_of_admits hv [] []
    exact ⟨_, made, h.parse_node, by simpa using hmade⟩

theorem matchesWhole_seven : MatchesWhole "\\d+".toList ['7'] := by
  refine repeats_digits.matchesWhole_iff.2 ⟨by decide, by simp, fun c hc => ?_⟩
  obtain rfl := List.mem_singleton.1 hc
  rw [Unicode.CharSet.contains, Unicode.decimalDigits,
    Unicode.CharSet.hasCode_splice_of_lt _ _ (by decide)]
  decide

/-- The node of a fragment that repeats characters is the same behind any groups. -/
theorem Repeats.node_shift {pattern : List Char} {a : Atom} {r : Repetition}
    {set : Unicode.CharSet} (h : Repeats pattern a r set) {k : Nat} {n : Node} {f : Flags}
    (hn : ((Tree.repetition r (.atom a)).shift k).node .initial = .ok (n, f)) :
    n = .repetition r (.set set) := by
  obtain ⟨t, f', ht, hm⟩ := exists_tree_of_parse h.parse_node
  rw [h.parse_tree] at ht
  cases ht
  exact congrArg Prod.fst (Except.ok.inj (hn.symm.trans hm))

end Regex

/-- The pattern of an anchored and terminated template whose fragments repeat characters, in pieces
between the two ends. -/
theorem exists_pieces_of_repeats {e : Expander} {t : List Char} {o : Overrides}
    (hanchor : (e.settings.merge o).anchor) (hterminate : (e.settings.merge o).terminate)
    (hplain : PlainText t)
    (hrepeats : ∀ p ∈ placeholders t, ∃ a r set, Regex.Repeats (e.fragment o p) a r set) :
    ∃ pieces : List Piece,
      e.expand t o = (Piece.framed pieces).flatMap Piece.text ∧
      pieces.filterMap Piece.name? = (placeholders t).map (·.name) ∧
      (∀ piece ∈ Piece.framed pieces, piece.Unnamed) ∧
      (∀ piece ∈ pieces, piece ≠ .start ∧ piece ≠ .stop) ∧
      (∀ name word fragment, .group name word fragment ∈ pieces → ∃ p ∈ placeholders t,
        p.name = name ∧ ∃ a r set, Regex.Repeats (e.fragment o p) a r set ∧
          fragment.assembly.inside = .repetition r (.atom a)) ∧
      ∀ value, pieces.flatMap (Piece.fill value) = fill value t ++ e.separator t o := by
  obtain ⟨pieces, hexpand, hnames, hinner, hgroups, hfill⟩ := exists_pieces_of_anchored
    (P := fun fragment => fragment.Unnamed ∧ ∃ a r set, Regex.Repeats fragment.text a r set ∧
      fragment.assembly.inside = .repetition r (.atom a)) hanchor hterminate hplain fun p hp => by
      obtain ⟨a, r, set, h⟩ := hrepeats p hp
      obtain ⟨⟨n, hn⟩, hnothing, hblanks, -⟩ := h.valid
      obtain ⟨fragment, htext, htree⟩ := Regex.exists_fragment hn hblanks
      rw [h.parse_tree] at htree
      refine ⟨fragment, htext, hnothing _ (htext ▸ fragment.tokens_eq), a, r, set, ?_, ?_⟩
      · rw [htext]
        exact h
      · exact (Except.ok.inj htree).symm
  refine ⟨pieces, hexpand, hnames, fun piece hpiece => ?_, hinner,
    fun name word fragment hmem => ?_, hfill⟩
  · cases piece with
    | group name word fragment =>
      obtain ⟨p, -, -, -, hunnamed, -⟩ := hgroups name word fragment (Piece.mem_of_mem_framed hpiece)
      exact hunnamed
    | _ => trivial
  · obtain ⟨p, hp, hname, htext, -, h⟩ := hgroups name word fragment hmem
    exact ⟨p, hp, hname, htext ▸ h⟩

/-- A template of plain text whose fragments repeat characters and whose placeholders are told apart
by proper names has a route if its size is allowed, and the route matches the template filled in with
what the fragments match. -/
theorem route_of_repeats [Regex.SizeLimit] {e : Expander} {t : List Char} {o : Overrides}
    (hanchor : (e.settings.merge o).anchor) (hterminate : (e.settings.merge o).terminate)
    (hplain : PlainText t)
    (hrepeats : ∀ p ∈ placeholders t, ∃ a r set, Regex.Repeats (e.fragment o p) a r set)
    (hnodup : ((placeholders t).map (·.name)).Nodup)
    (hnames : ∀ p ∈ placeholders t, Regex.isGroupName p.name) :
    ((∃ r, e.route t o = .ok r) ↔ Regex.SizeLimit.allows (e.expand t o)) ∧
      ∀ r, e.route t o = .ok r → ∀ value : List Char → List Char,
        (∀ p ∈ placeholders t, Regex.MatchesWhole (e.fragment o p) (value p.name)) →
        (r.captures (fill value t ++ e.separator t o)).isSome := by
  obtain ⟨pieces, hexpand, hpieces, hunnamed, hinner, hgroups, hfill⟩ :=
    exists_pieces_of_repeats hanchor hterminate hplain hrepeats
  have hvalid := Piece.parse_flatMap hunnamed fun name word fragment hmem => by
    obtain ⟨p, -, -, a, r, set, h, hinside⟩ :=
      hgroups name word fragment (Piece.mem_of_mem_framed hmem)
    have := h.depth_lt
    simp only [hinside, Regex.Tree.depth, Regex.Tree.maxDepth]
    omega
  rw [Piece.filterMap_framed, hpieces, List.forall_mem_map, ← hexpand] at hvalid
  have hparse := hvalid.2 ⟨hnodup, hnames⟩
  refine ⟨Expander.exists_route_iff.trans (and_iff_right hparse), fun r hr value hvalue => ?_⟩
  obtain ⟨n, hn, -, rfl⟩ := Expander.route_eq_ok_iff.1 hr
  rw [Route.captures, Option.isSome_map, ← hfill]
  refine Regex.isSome_find?_of_fill (hexpand ▸ hn) hinner fun name word fragment hmem g n f hnode => ?_
  obtain ⟨p, hp, rfl, a, r, set, h, hinside⟩ := hgroups name word fragment hmem
  rw [hinside] at hnode
  rw [h.node_shift hnode]
  exact Node.matchesAnywhere_of_admits (h.matchesWhole_iff.1 (hvalue p hp))

/-- Where a template of plain text is anchored and terminated and its fragments are valid on their
own and leave blanks to count, a route that captures anything in a path captures a value for each
placeholder, and the template with these values, and the separator that the settings add, is the
whole path. -/
theorem fill_captures [Regex.SizeLimit] (e : Expander) (t : List Char) (o : Overrides)
    (hanchor : (e.settings.merge o).anchor) (hterminate : (e.settings.merge o).terminate)
    (hplain : PlainText t)
    (hfragments : ∀ p ∈ placeholders t, (∃ n, Regex.Node.parse (e.fragment o p) = .ok n) ∧
      Regex.CountsBlanks (e.fragment o p))
    {r : Route} (hr : e.route t o = .ok r) {path : List Char} {m : List (List Char × List Char)}
    (hm : r.captures path = some m) :
    (∀ p ∈ placeholders t, (m.lookup p.name).isSome) ∧
      fill (fun name => (m.lookup name).getD []) t ++ e.separator t o = path := by
  obtain ⟨pieces, hexpand, hnames, -, -, hfill⟩ := exists_pieces_of_anchored
    (P := fun _ => True) hanchor hterminate hplain fun p hp => by
      obtain ⟨⟨n, hn⟩, hblanks⟩ := hfragments p hp
      obtain ⟨fragment, htext, -⟩ := Regex.exists_fragment hn hblanks
      exact ⟨fragment, htext, trivial⟩
  obtain ⟨n, hn, -, rfl⟩ := Expander.route_eq_ok_iff.1 hr
  obtain ⟨found, hfound, rfl⟩ := Option.map_eq_some_iff.1 hm
  obtain ⟨hgroups, hwhole⟩ := Regex.captured_of_find? (hexpand ▸ hn) hfound
  refine ⟨fun p hp => ?_, (hfill _).symm.trans hwhole⟩
  have hname := List.mem_map_of_mem (f := Placeholder.name) hp
  rw [← hnames, ← Piece.filterMap_framed] at hname
  obtain ⟨g, hmem⟩ := Piece.exists_mem_numbered 0 hname
  obtain ⟨first, last, -, hlookup, -⟩ := hgroups g _ hmem
  exact Option.isSome_iff_exists.2 ⟨_, hlookup⟩

theorem fill_captures_of_underscore : ∃ r m,
    Expander.standard.route "u/<_>".toList .none = .ok r ∧ r.captures "u/7/".toList = some m ∧
      fill (fun name => (m.lookup name).getD []) "u/<_>".toList ++ ['/'] = "u/7/".toList := by
  have hbody : substitute .standard Settings.standard.defaultFragment "u/<_>".toList =
      "u/(?P<_>\\d+)".toList :=
    (flatMap_segments_join rfl (fun _ _ => rfl) underscore_clear).trans (by decide)
  have hseparator : Expander.standard.separator "u/<_>".toList .none = ['/'] := by
    show (let body := substitute .standard Settings.standard.defaultFragment "u/<_>".toList
      Settings.standard.separator _ (Settings.standard.opening body ++ body)) = _
    rw [hbody]
    decide
  obtain ⟨hroute, hmatch⟩ := route_of_repeats (e := .standard) (t := "u/<_>".toList)
    (o := .none) rfl rfl plainText_underscore (fun p hp => ⟨_, _, _, repeats_underscore hp⟩)
    (by rw [placeholders_underscore]; decide)
    (by rw [placeholders_underscore]; simp [Regex.isGroupName, Regex.isNameChar])
  obtain ⟨r, hr⟩ := hroute.2 rfl
  have hpath := hmatch r hr (fun _ => ['7']) fun p hp => by
    rw [placeholders_underscore] at hp
    obtain rfl := List.mem_singleton.1 hp
    exact Regex.matchesWhole_seven
  rw [hseparator, show fill (fun _ => ['7']) "u/<_>".toList = "u/7".toList from
    fill_join _ underscore_clear] at hpath
  obtain ⟨m, hm⟩ := Option.isSome_iff_exists.1 hpath
  refine ⟨r, m, hr, hm, ?_⟩
  have h := (fill_captures .standard "u/<_>".toList .none rfl rfl plainText_underscore
    (fun p hp => ⟨(repeats_underscore hp).valid.1, (repeats_underscore hp).valid.2.2.1⟩) hr hm).2
  rwa [hseparator] at h

end RouteTemplate
