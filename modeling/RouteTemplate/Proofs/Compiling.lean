import RouteTemplate.Proofs.Naming
import RouteTemplate.Proofs.Pieces
import RouteTemplate.Proofs.Rewriting
import RouteTemplate.Proofs.Standard
import RouteTemplate.Route

/-!
When templates of plain text compile. The pattern of such a template is read piece by piece, so that
only the names of its placeholders can make it invalid, and its named groups are its placeholders.
-/

namespace RouteTemplate

open Regex (Fragment Piece Tree Token Flag metaChars)

/-! ### Conditions -/

namespace Regex

/-- A pattern that turns on nowhere that blanks are ignored. -/
def CountsBlanks (pattern : List Char) : Prop :=
  ∀ ts, tokens false [] pattern = .ok ts → ∀ t ∈ ts, (Flag.ignoreBlanks, true) ∉ t.changes

/-- A pattern that names none of its groups. -/
def NamesNothing (pattern : List Char) : Prop :=
  ∀ ts, tokens false [] pattern = .ok ts → ∀ name, .openGroup (.capture (some name)) ∉ ts

/-- A pattern of at most a number of levels of nesting. -/
def NestsAtMost (levels : Nat) (pattern : List Char) : Prop :=
  ∀ t, Tree.parse pattern = .ok t → t.depth ≤ levels

end Regex

/-- Every character of the literal text of a template stands for itself in a pattern. -/
def PlainText (template : List Char) : Prop :=
  ∀ text, .literal text ∈ segments template → ∀ c ∈ text, c ∉ metaChars

/-- A name that starts with `_` or a letter and goes on with `_`, letters and digits. -/
def IsIdentifier : List Char → Prop
  | [] => False
  | c :: r => (c = '_' ∨ Unicode.isAlphabetic c) ∧ ∀ d ∈ r, d = '_' ∨ Unicode.isAlphanumeric d

namespace Expander

/-- The fragment that a placeholder stands for in a call. -/
def fragment (e : Expander) (o : Overrides) (p : Placeholder) : List Char :=
  e.table.resolve p.name p.pattern (e.settings.merge o).defaultFragment

end Expander

/-! ### Names -/

theorem isNameChar_of_isWord {c : Char} (h : Unicode.isWord c) :
    Regex.isNameChar false c ↔ c = '_' ∨ Unicode.isAlphanumeric c := by
  have hword {d : Char} (hd : d.toNat < 128) (hset : Unicode.asciiWordChars.hasCode d.toNat = false) :
      c ≠ d := by
    rintro rfl
    rw [Unicode.isWord_of_lt hd, hset] at h
    cases h
  have hdot := hword (d := '.') (by decide) (by decide)
  have hopen := hword (d := '[') (by decide) (by decide)
  have hclose := hword (d := ']') (by decide) (by decide)
  simp [Regex.isNameChar, hdot, hopen, hclose]

theorem isGroupName_iff {name : List Char} (h : ∀ c ∈ name, Unicode.isWord c) :
    Regex.isGroupName name ↔ IsIdentifier name := by
  cases name with
  | nil => simp [Regex.isGroupName, IsIdentifier]
  | cons c r =>
    have hrest : ∀ d ∈ r, Regex.isNameChar false d ↔ d = '_' ∨ Unicode.isAlphanumeric d :=
      fun d hd => isNameChar_of_isWord (h d (List.mem_cons_of_mem _ hd))
    simp only [Regex.isGroupName, IsIdentifier, Bool.and_eq_true, List.all_eq_true]
    refine and_congr (by simp [Regex.isNameChar]) ?_
    exact forall_congr' fun d => imp_congr_right fun hd => hrest d hd

/-! ### Pieces of a template -/

namespace Regex

/-- What is read of a pattern that is valid on its own. -/
theorem exists_fragment {pattern : List Char} {n : Node} (h : Node.parse pattern = .ok n)
    (hblanks : CountsBlanks pattern) : ∃ fragment : Fragment,
      fragment.text = pattern ∧ Tree.parse pattern = .ok fragment.assembly.inside := by
  obtain ⟨t, flags, ht, hnode⟩ := exists_tree_of_parse h
  obtain ⟨ts, a, hts, ha, hclosed, rfl⟩ := exists_assembly_of_parse ht
  exact ⟨⟨pattern, ts, a, n, flags, hts, hblanks ts hts, ha, hclosed, hnode⟩, rfl, ht⟩

end Regex

/-- A piece with a value in the place of its group. -/
def Regex.Piece.fill (value : List Char → List Char) : Piece → List Char
  | .char c _ => [c]
  | .group name _ _ => value name
  | .start | .stop => []

/-- A segment with a value in the place of its placeholder. -/
def Segment.fill (value : List Char → List Char) : Segment → List Char
  | .literal text => text
  | .placeholder p => value p.name

/-- A template with a value in the place of each of its placeholders, by their names. -/
def fill (value : List Char → List Char) (template : List Char) : List Char :=
  (segments template).flatMap (Segment.fill value)

theorem fill_join (value : List Char → List Char) {items : List Segment}
    (h : ∀ item ∈ items, item.Clear) :
    fill value (Segment.join items) = items.flatMap (Segment.fill value) :=
  flatMap_segments_join rfl (fun _ _ => rfl) h

theorem plainText_join {items : List Segment} (h : ∀ item ∈ items, item.Clear)
    (hplain : ∀ text, .literal text ∈ items → ∀ c ∈ text, c ∉ metaChars) :
    PlainText (Segment.join items) := by
  have hmem (segs : List Segment) (c : Char) : c ∈ segs.flatMap (Segment.fill fun _ => []) ↔
      ∃ text, .literal text ∈ segs ∧ c ∈ text := by
    rw [List.mem_flatMap]
    constructor
    · rintro ⟨seg, hseg, hc⟩
      cases seg with
      | literal text => exact ⟨text, hseg, hc⟩
      | placeholder p => cases hc
    · exact fun ⟨text, htext, hc⟩ => ⟨_, htext, hc⟩
  intro text htext c hc
  have hfill := (hmem _ c).2 ⟨text, htext, hc⟩
  rw [flatMap_segments_join rfl (fun _ _ => rfl) h] at hfill
  obtain ⟨text', htext', hc'⟩ := (hmem _ c).1 hfill
  exact hplain text' htext' c hc'

/-- The pieces of a text of plain characters. -/
theorem exists_pieces_of_literal {text : List Char} (h : ∀ c ∈ text, c ∉ metaChars) :
    ∃ pieces : List Piece, pieces.flatMap Piece.text = text ∧
      (∀ piece ∈ pieces, ∃ c plain, piece = .char c plain) ∧
      ∀ value, pieces.flatMap (Piece.fill value) = text := by
  induction text with
  | nil => exact ⟨[], rfl, by simp, fun _ => rfl⟩
  | cons c text ih =>
    simp only [List.mem_cons, forall_eq_or_imp] at h
    obtain ⟨pieces, htext, hchars, hfill⟩ := ih h.2
    refine ⟨.char c h.1 :: pieces, by simp [htext, Piece.text], ?_, by simp [hfill, Piece.fill]⟩
    simp only [List.mem_cons, forall_eq_or_imp]
    exact ⟨⟨c, h.1, rfl⟩, hchars⟩

/-- The segments of a plain template expand to pieces, a group for each placeholder. -/
theorem exists_pieces_of_segments (table : FragmentTable) (default : List Char)
    {P : Fragment → Prop} {segs : List Segment}
    (hplain : ∀ text, .literal text ∈ segs → ∀ c ∈ text, c ∉ metaChars)
    (hplaceholder : ∀ p, .placeholder p ∈ segs → (∀ c ∈ p.name, Unicode.isWord c) ∧
      ∃ fragment : Fragment, fragment.text = table.resolve p.name p.pattern default ∧ P fragment) :
    ∃ pieces : List Piece, pieces.flatMap Piece.text = segs.flatMap (Segment.expand table default) ∧
      pieces.filterMap Piece.name? = (segs.filterMap Segment.placeholder?).map (·.name) ∧
      (∀ piece ∈ pieces, (∃ c plain, piece = .char c plain) ∨
        ∃ p word fragment, .placeholder p ∈ segs ∧ piece = .group p.name word fragment ∧
          fragment.text = table.resolve p.name p.pattern default ∧ P fragment) ∧
      ∀ value, pieces.flatMap (Piece.fill value) = segs.flatMap (Segment.fill value) := by
  induction segs with
  | nil => exact ⟨[], rfl, rfl, by simp, fun _ => rfl⟩
  | cons seg segs ih =>
    simp only [List.mem_cons] at hplain hplaceholder
    obtain ⟨pieces, htext, hnames, hshape, hfill⟩ := ih
      (fun text hmem => hplain text (.inr hmem)) (fun p hmem => hplaceholder p (.inr hmem))
    cases seg with
    | literal text =>
      obtain ⟨chars, htext', hchars, hfill'⟩ := exists_pieces_of_literal (hplain text (.inl rfl))
      have hnames' : chars.filterMap Piece.name? = [] := by
        refine List.filterMap_eq_nil_iff.2 fun piece hpiece => ?_
        obtain ⟨c, plain, rfl⟩ := hchars piece hpiece
        rfl
      refine ⟨chars ++ pieces, ?_, ?_, ?_, fun value => ?_⟩
      · rw [List.flatMap_append, htext', htext]
        rfl
      · rw [List.filterMap_append, hnames', hnames]
        rfl
      · intro piece hpiece
        rcases List.mem_append.1 hpiece with hpiece | hpiece
        · exact .inl (hchars piece hpiece)
        · rcases hshape piece hpiece with hchar | ⟨p, word, fragment, hp, h⟩
          · exact .inl hchar
          · exact .inr ⟨p, word, fragment, List.mem_cons_of_mem _ hp, h⟩
      · rw [List.flatMap_append, hfill', hfill]
        rfl
    | placeholder p =>
      obtain ⟨word, fragment, hfragment, hP⟩ := hplaceholder p (.inl rfl)
      refine ⟨.group p.name word fragment :: pieces, ?_, ?_, ?_, fun value => ?_⟩
      · rw [List.flatMap_cons, htext, Piece.text, hfragment]
        rfl
      · simpa [Piece.name?, Segment.placeholder?] using hnames
      · intro piece hpiece
        rcases List.mem_cons.1 hpiece with rfl | hpiece
        · exact .inr ⟨p, word, fragment, List.mem_cons_self, rfl, hfragment, hP⟩
        · rcases hshape piece hpiece with hchar | ⟨p, word, fragment, hp, h⟩
          · exact .inl hchar
          · exact .inr ⟨p, word, fragment, List.mem_cons_of_mem _ hp, h⟩
      · rw [List.flatMap_cons, hfill]
        rfl

/-! ### Pieces of a pattern -/

def Regex.Piece.slash : Piece := .char '/' (by decide)

theorem head?_flatMap_text {pieces : List Piece} (h : ∀ piece ∈ pieces, piece ≠ .start) :
    (pieces.flatMap Piece.text).head? ≠ some '^' := by
  cases pieces with
  | nil => simp
  | cons piece pieces =>
    cases piece with
    | char c plain =>
      have hc : c ≠ '^' := fun hc => plain (by rw [hc]; decide)
      simpa [Piece.text] using hc
    | start => exact absurd rfl (h _ List.mem_cons_self)
    | stop => simp [Piece.text]
    | group name word fragment => simp [Piece.text]

theorem getLast?_flatMap_text {pieces : List Piece} (h : ∀ piece ∈ pieces, piece ≠ .stop) :
    (pieces.flatMap Piece.text).getLast? ≠ some '$' := by
  induction pieces with
  | nil => simp
  | cons piece pieces ih =>
    simp only [List.mem_cons, forall_eq_or_imp] at h
    have hpiece : piece.text.getLast? ≠ some '$' := by
      cases piece with
      | char c plain =>
        have hc : c ≠ '$' := fun hc => plain (by rw [hc]; decide)
        simpa [Piece.text] using hc
      | start => simp [Piece.text]
      | stop => exact absurd rfl h.1
      | group name word fragment => simp only [Piece.text, List.getLast?_append]; simp
    rw [List.flatMap_cons, List.getLast?_append]
    grind

namespace Settings

/-- The pieces of a pattern around those of its body. -/
def pieces (s : Settings) (template : List Char) (body : List Piece) : List Piece :=
  (if s.anchor then [.start] else []) ++ body ++
    (s.separator template (s.opening (body.flatMap Piece.text) ++ body.flatMap Piece.text)).map
      (fun _ => .slash) ++
    if s.terminate then [.stop] else []

theorem flatMap_slash (s : Settings) (template pattern : List Char) :
    ((s.separator template pattern).map fun _ => Piece.slash).flatMap Piece.text =
      s.separator template pattern := by
  unfold separator
  split <;> rfl

theorem dress_flatMap (s : Settings) (template : List Char) {body : List Piece}
    (h : ∀ piece ∈ body, piece ≠ .start ∧ piece ≠ .stop) :
    s.dress template (body.flatMap Piece.text) = (s.pieces template body).flatMap Piece.text := by
  have hopening : s.opening (body.flatMap Piece.text) =
      (if s.anchor then [Piece.start] else []).flatMap Piece.text := by
    have hhead := mt singleton_prefix_iff.1 (head?_flatMap_text fun piece hpiece => (h piece hpiece).1)
    cases hs : s.anchor <;> simp [opening, hs, hhead, Piece.text]
  have hclosing {inner : List Piece} (hinner : ∀ piece ∈ inner, piece ≠ .stop) :
      s.closing (inner.flatMap Piece.text) =
        (if s.terminate then [Piece.stop] else []).flatMap Piece.text := by
    have hlast := mt singleton_suffix_iff.1 (getLast?_flatMap_text hinner)
    cases hs : s.terminate <;> simp [closing, hs, hlast, Piece.text]
  simp only [dress, pieces]
  generalize hsep : s.separator template (s.opening (body.flatMap Piece.text) ++
    body.flatMap Piece.text) = sep
  have hslash : sep = (sep.map fun _ => Piece.slash).flatMap Piece.text := by
    rw [← hsep, flatMap_slash]
  have hseparated : s.opening (body.flatMap Piece.text) ++ body.flatMap Piece.text ++ sep =
      ((if s.anchor then [Piece.start] else []) ++ body ++
        sep.map fun _ => Piece.slash).flatMap Piece.text := by
    rw [List.flatMap_append, List.flatMap_append, ← hslash, ← hopening]
  rw [hseparated, hclosing, ← List.flatMap_append]
  intro piece hpiece
  simp only [List.mem_append, List.mem_map] at hpiece
  rcases hpiece with (hpiece | hpiece) | ⟨-, -, rfl⟩
  · rintro rfl
    split at hpiece
    next => simp at hpiece
    next => cases hpiece
  · exact (h piece hpiece).2
  · simp [Piece.slash]

theorem filterMap_slash (sep : List Char) :
    (sep.map fun _ => Piece.slash).filterMap Piece.name? = [] := by
  simp [Piece.slash, Piece.name?]

theorem filterMap_pieces (s : Settings) (template : List Char) (body : List Piece) :
    (s.pieces template body).filterMap Piece.name? = body.filterMap Piece.name? := by
  have hstart : [Piece.start].filterMap Piece.name? = [] := rfl
  have hstop : [Piece.stop].filterMap Piece.name? = [] := rfl
  rw [pieces, List.filterMap_append, List.filterMap_append, List.filterMap_append, filterMap_slash]
  cases s.anchor <;> cases s.terminate <;> simp [hstart, hstop]

theorem mem_pieces_of_group {s : Settings} {template : List Char} {body : List Piece}
    {name : List Char} {word : ∀ c ∈ name, Unicode.isWord c} {fragment : Fragment}
    (h : .group name word fragment ∈ s.pieces template body) :
    .group name word fragment ∈ body := by
  simp only [pieces, List.mem_append, List.mem_map] at h
  rcases h with ((h | h) | ⟨-, -, h⟩) | h
  · split at h <;> simp at h
  · exact h
  · cases h
  · split at h <;> simp at h

end Settings

/-! ### Compiling -/

/-- The pattern of a template of plain text and valid fragments in pieces. -/
theorem exists_pieces_of_expand {e : Expander} {t : List Char} {o : Overrides} {P : Fragment → Prop}
    (hplain : PlainText t)
    (hfragments : ∀ p ∈ placeholders t, ∃ fragment : Fragment,
      fragment.text = e.fragment o p ∧ P fragment) :
    ∃ body : List Piece,
      e.expand t o = ((e.settings.merge o).pieces t body).flatMap Piece.text ∧
      body.flatMap Piece.text = substitute e.table (e.settings.merge o).defaultFragment t ∧
      body.filterMap Piece.name? = (placeholders t).map (·.name) ∧
      (∀ piece ∈ body, (∃ c plain, piece = .char c plain) ∨
        ∃ p ∈ placeholders t, ∃ word fragment, piece = .group p.name word fragment ∧
          fragment.text = e.fragment o p ∧ P fragment) ∧
      ∀ value, body.flatMap (Piece.fill value) = fill value t := by
  obtain ⟨body, htext, hnames, hshape, hfill⟩ := exists_pieces_of_segments e.table
    (e.settings.merge o).defaultFragment (P := P) hplain fun p hp =>
      ⟨(wellFormed_of_mem_segments hp).name_word, hfragments p (mem_placeholders.2 hp)⟩
  refine ⟨body, ?_, htext, hnames, fun piece hpiece => ?_, hfill⟩
  · rw [Expander.expand, Settings.finish_eq_dress, substitute, ← htext, Settings.dress_flatMap]
    intro piece hpiece
    rcases hshape piece hpiece with ⟨c, plain, rfl⟩ | ⟨p, word, fragment, -, rfl, -⟩ <;> simp
  · rcases hshape piece hpiece with hchar | ⟨p, word, fragment, hp, h⟩
    · exact .inl hchar
    · exact .inr ⟨p, mem_placeholders.2 hp, word, fragment, h⟩

namespace Regex

/-- The named groups of pieces whose fragments name nothing are the pieces' own. -/
theorem named_ofFactors {pieces : List Piece} {ns : List Node} (hrow : Piece.Row 0 pieces ns)
    (hdistinct : Distinct (Node.ofFactors ns).groups)
    (hunnamed : ∀ piece ∈ pieces, piece.Unnamed) :
    (Node.ofFactors ns).named = Piece.numbered 0 pieces := by
  refine eq_of_ascending (Node.named_ascending _) (Piece.numbered_ascending 0 pieces) ?_
  rintro ⟨i, name⟩
  rw [Node.mem_named hdistinct, Node.groups_ofFactors]
  exact ⟨hrow.mem_numbered_of_mem_groups hunnamed, hrow.mem_groups_of_mem_numbered⟩

theorem compile_eq_ok_iff [SizeLimit] {pattern : List Char} {r : Regex} : compile pattern = .ok r ↔
    ∃ n, Node.parse pattern = .ok n ∧ SizeLimit.allows pattern ∧ r = ofNode n := by
  rw [compile]
  cases Node.parse pattern with
  | error cause => simp [Except.mapError, bind, Except.bind]
  | ok n =>
    cases SizeLimit.allows pattern <;>
      simp [Except.mapError, bind, Except.bind, pure, Except.pure, throw, throwThe,
        MonadExceptOf.throw, eq_comm]

end Regex

namespace Expander

variable [Regex.SizeLimit] {e : Expander} {t : List Char} {o : Overrides}

theorem compile_eq_ok_iff {regex : Regex} :
    e.compile t o = .ok regex ↔ Regex.compile (e.expand t o) = .ok regex := by
  rw [compile]
  cases Regex.compile (e.expand t o) <;> simp [Except.mapError]

theorem compile_eq_error_iff {err : Error} : e.compile t o = .error err ↔
    ∃ cause, Regex.compile (e.expand t o) = .error cause ∧
      err = .invalidRegex t (e.expand t o) cause := by
  rw [compile]
  cases Regex.compile (e.expand t o) <;> simp [Except.mapError, eq_comm]

theorem route_eq_error_iff {err : Error} :
    e.route t o = .error err ↔ e.compile t o = .error err := by
  rw [route]
  cases e.compile t o <;> simp [Except.map]

theorem route_eq_ok_iff {r : Route} : e.route t o = .ok r ↔
    ∃ n, Regex.Node.parse (e.expand t o) = .ok n ∧ Regex.SizeLimit.allows (e.expand t o) ∧
      r = ⟨t, e.expand t o, Regex.ofNode n⟩ := by
  constructor
  · intro h
    obtain ⟨regex, hregex, rfl⟩ := Regex.eq_ok_of_map_eq_ok h
    obtain ⟨n, hn, hsize, rfl⟩ := Regex.compile_eq_ok_iff.1 (compile_eq_ok_iff.1 hregex)
    exact ⟨n, hn, hsize, rfl⟩
  · rintro ⟨n, hn, hsize, rfl⟩
    rw [route, compile_eq_ok_iff.2 (Regex.compile_eq_ok_iff.2 ⟨n, hn, hsize, rfl⟩)]
    rfl

theorem route_eq_ok {n : Regex.Node} (h : Regex.Node.parse (e.expand t o) = .ok n)
    (hsize : Regex.SizeLimit.allows (e.expand t o)) :
    e.route t o = .ok ⟨t, e.expand t o, Regex.ofNode n⟩ :=
  route_eq_ok_iff.2 ⟨n, h, hsize, rfl⟩

/-- A pattern gives a route if it is a regular expression and its program is not too large. -/
theorem exists_route_iff : (∃ r, e.route t o = .ok r) ↔
    (∃ n, Regex.Node.parse (e.expand t o) = .ok n) ∧ Regex.SizeLimit.allows (e.expand t o) := by
  constructor
  · rintro ⟨r, hr⟩
    obtain ⟨n, hn, hsize, -⟩ := route_eq_ok_iff.1 hr
    exact ⟨⟨n, hn⟩, hsize⟩
  · rintro ⟨⟨n, hn⟩, hsize⟩
    exact ⟨_, route_eq_ok hn hsize⟩

theorem exists_cause_of_route (h : ¬∃ r, e.route t o = .ok r) :
    ∃ cause, e.route t o = .error (.invalidRegex t (e.expand t o) cause) := by
  cases hroute : e.route t o with
  | ok r => exact absurd ⟨r, hroute⟩ h
  | error err =>
    obtain ⟨cause, -, rfl⟩ := compile_eq_error_iff.1 (route_eq_error_iff.1 hroute)
    exact ⟨cause, rfl⟩

end Expander

namespace Regex

theorem Repeats.valid {pattern : List Char} {a : Atom} {r : Repetition} {set : Unicode.CharSet}
    (h : Repeats pattern a r set) : (∃ n, Node.parse pattern = .ok n) ∧ NamesNothing pattern ∧
      CountsBlanks pattern ∧ NestsAtMost 200 pattern := by
  refine ⟨⟨_, h.parse_node⟩, fun ts hts name => ?_, fun ts hts => ?_,
    fun t ht => ?_⟩
  · rw [h.tokens_eq] at hts
    cases hts
    simp
  · rw [h.tokens_eq] at hts
    cases hts
    simp [Token.changes]
  · rw [h.parse_tree] at ht
    cases ht
    exact h.depth_lt

end Regex

/-- A template of plain text, with fragments that are valid on their own, name nothing, leave blanks
to count and are not nested too deeply, has a route if and only if its placeholders are told apart by
proper names, as long as the size of its program is allowed. The groups of the route are its
placeholders; without a route, the error carries the template and its pattern. -/
theorem route_of_plainText [Regex.SizeLimit] (e : Expander) (t : List Char) (o : Overrides)
    (hplain : PlainText t)
    (hfragments : ∀ p ∈ placeholders t, (∃ n, Regex.Node.parse (e.fragment o p) = .ok n) ∧
      Regex.NamesNothing (e.fragment o p) ∧ Regex.CountsBlanks (e.fragment o p) ∧
      Regex.NestsAtMost 200 (e.fragment o p)) :
    (Regex.SizeLimit.allows (e.expand t o) →
      ((∃ r, e.route t o = .ok r) ↔ ((placeholders t).map (·.name)).Nodup ∧
        ∀ p ∈ placeholders t, IsIdentifier p.name)) ∧
    (∀ r, e.route t o = .ok r → r.names = (placeholders t).map (·.name)) ∧
    ((¬∃ r, e.route t o = .ok r) →
      ∃ cause, e.route t o = .error (.invalidRegex t (e.expand t o) cause)) := by
  let P (fragment : Fragment) : Prop := fragment.Unnamed ∧ fragment.assembly.inside.depth ≤ 200
  obtain ⟨body, hexpand, -, hnames, hshape, -⟩ := exists_pieces_of_expand (P := P) hplain
    fun p hp => by
      obtain ⟨⟨n, hn⟩, hnames, hblanks, hdepth⟩ := hfragments p hp
      obtain ⟨fragment, htext, htree⟩ := Regex.exists_fragment hn hblanks
      exact ⟨fragment, htext, hnames _ (htext ▸ fragment.tokens_eq), hdepth _ htree⟩
  let pieces := (e.settings.merge o).pieces t body
  have hgroup (name : List Char) (word) (fragment : Fragment)
      (hmem : .group name word fragment ∈ pieces) : P fragment := by
    obtain ⟨c, plain, heq⟩ | ⟨p, -, word', fragment', heq, -, hP⟩ :=
      hshape _ (Settings.mem_pieces_of_group hmem)
    · cases heq
    · cases heq
      exact hP
  have hunnamed : ∀ piece ∈ pieces, piece.Unnamed := by
    intro piece hmem
    cases piece with
    | group name word fragment => exact (hgroup name word fragment hmem).1
    | _ => trivial
  have hparse := Piece.parse_flatMap hunnamed fun name word fragment hmem =>
    Nat.le_trans (Nat.add_le_add_right (hgroup name word fragment hmem).2 2) (by decide)
  have hpieces : pieces.filterMap Piece.name? = (placeholders t).map (·.name) := by
    rw [Settings.filterMap_pieces, hnames]
  have hidentifiers : (∀ name ∈ (placeholders t).map (·.name), Regex.isGroupName name) ↔
      ∀ p ∈ placeholders t, IsIdentifier p.name := by
    rw [List.forall_mem_map]
    exact forall_congr' fun p => imp_congr_right fun hp =>
      isGroupName_iff (wellFormed_of_mem_segments (mem_placeholders.1 hp)).name_word
  rw [hpieces, hidentifiers, ← hexpand] at hparse
  refine ⟨fun hsize => ?_, fun r hr => ?_, Expander.exists_cause_of_route⟩
  · rw [← hparse, Expander.exists_route_iff]
    exact and_iff_left hsize
  · obtain ⟨n, hn, -, rfl⟩ := Expander.route_eq_ok_iff.1 hr
    have hdistinct := Regex.distinct_of_parse hn
    obtain ⟨ns, hrow, rfl⟩ := Piece.exists_row_of_parse (hexpand ▸ hn)
    rw [Route.names, Regex.names_ofNode, Regex.named_ofFactors hrow hdistinct hunnamed,
      Piece.map_numbered, hpieces]

/-! A template with one placeholder, written out. -/

def underscore : List Segment := [.literal "u/".toList, .placeholder ⟨"_".toList, none⟩]

theorem underscore_clear : ∀ item ∈ underscore, item.Clear := by
  simp only [underscore, List.mem_cons, List.not_mem_nil, or_false, forall_eq_or_imp, forall_eq]
  refine ⟨show '<' ∉ "u/".toList by decide, by decide, fun c hc => ?_, by decide, by simp⟩
  obtain rfl : c = '_' := by simpa using hc
  rw [Unicode.isWord_of_lt (by decide)]
  decide

theorem placeholders_underscore : placeholders "u/<_>".toList = [⟨"_".toList, none⟩] :=
  placeholders_join underscore_clear

theorem plainText_underscore : PlainText "u/<_>".toList := by
  refine plainText_join underscore_clear fun text htext => ?_
  obtain rfl : text = "u/".toList := by simpa [underscore] using htext
  intro c hc
  obtain rfl | rfl : c = 'u' ∨ c = '/' := by simpa using hc
  · decide
  · decide

theorem repeats_underscore {p : Placeholder} (hp : p ∈ placeholders "u/<_>".toList) :
    Regex.Repeats (Expander.standard.fragment .none p) (.short .digit false) ⟨1, none, true⟩
      Unicode.decimalDigits := by
  rw [placeholders_underscore] at hp
  obtain rfl := List.mem_singleton.1 hp
  exact Regex.repeats_digits

theorem route_of_underscore : ∃ r, Expander.standard.route "u/<_>".toList .none = .ok r ∧
    r.names = ["_".toList] := by
  obtain ⟨hiff, hroute, -⟩ := route_of_plainText .standard "u/<_>".toList .none
    plainText_underscore fun p hp => (repeats_underscore hp).valid
  rw [placeholders_underscore] at hiff hroute
  obtain ⟨r, hr⟩ := (hiff rfl).2 ⟨by decide, by simp [IsIdentifier]⟩
  exact ⟨r, hr, hroute r hr⟩

end RouteTemplate
