import RouteTemplate.Proofs.Agreement
import RouteTemplate.Proofs.Closing
import RouteTemplate.Proofs.Grammar

/-!
Placeholders as a regular expression describes them. A template is scanned for its placeholders by
hand. What the scan finds first is what a search for the expression finds: the same text before it,
the same name, the same pattern or none, and the same text behind it. So it is from any place of the
text on, hence a scan may forget what it has read.
-/

namespace RouteTemplate

open Regex

/-! ### Beginnings of what is left of a text -/

theorem append_prefix_drop_iff {α : Type} {u v s : List α} {i : Nat} :
    u ++ v <+: s.drop i ↔ u <+: s.drop i ∧ v <+: s.drop (i + u.length) := by
  rw [← List.drop_drop]
  constructor
  · rintro ⟨rest, hrest⟩
    rw [← hrest, List.append_assoc]
    exact ⟨List.prefix_append _ _, by rw [List.drop_left]; exact List.prefix_append _ _⟩
  · rintro ⟨⟨rest, hrest⟩, hv⟩
    rw [← hrest, List.drop_left] at hv
    rw [← hrest]
    exact (List.prefix_append_right_inj u).2 hv

theorem cons_prefix_drop_iff {α : Type} {c : α} {v s : List α} {i : Nat} :
    c :: v <+: s.drop i ↔ s[i]? = some c ∧ v <+: s.drop (i + 1) := by
  rw [← List.head?_drop, ← List.tail_drop]
  cases s.drop i <;> simp [List.cons_prefix_cons, eq_comm]

namespace Regex.Node

/-- Some characters of a set in a row. -/
theorem matches_row_iff {s : List Char} {set : Unicode.CharSet} {greedy : Bool} {i j : Nat}
    {made : Marks} : (repetition ⟨1, none, greedy⟩ (.set set)).Matches s.toArray i j made ↔
      ∃ v, v ≠ [] ∧ (∀ c ∈ v, set.contains c) ∧ v <+: s.drop i ∧ j = i + v.length ∧ made = [] := by
  constructor
  · rintro ⟨k, hmin, -, h⟩
    obtain ⟨rfl, rfl, hlength, hall⟩ := all_mem_of_iterate h
    rw [extract_toArray] at hlength hall
    refine ⟨_, List.ne_nil_of_length_pos (by rw [hlength]; exact hmin), hall, ?_, by rw [hlength],
      rfl⟩
    rw [List.drop_take]
    exact List.take_prefix _ _
  · rintro ⟨v, hne, hall, ⟨after, hafter⟩, rfl, rfl⟩
    have hlength : (s.take i).length = i := by
      refine List.length_take_of_le (Nat.le_of_not_lt fun hlt => hne ?_)
      rw [List.drop_eq_nil_of_le (Nat.le_of_lt hlt)] at hafter
      exact (List.append_eq_nil_iff.1 hafter).1
    have h := iterate_of_all_mem hall (s.take i) after
    rw [hafter, List.take_append_drop, hlength] at h
    exact ⟨v.length, List.length_pos_iff.2 hne, by simp, h⟩

/-- A part that may be left out. -/
theorem matches_optional (text : Array Char) (n : Node) (greedy : Bool) :
    (repetition ⟨0, some 1, greedy⟩ n).Matches text = (n.Matches text).or .stay := by
  show Passage.repeated _ 0 (some (0 + 1)) = _
  rw [Passage.repeated_zero_some_succ, Passage.repeated_zero_some_zero, Passage.andThen_stay]

end Regex.Node

namespace Placeholder

/-! ### The expression -/

/-- What a placeholder looks like. -/
def shape : List Char := "<(?P<name>\\w+)(?::(?P<pattern>[^>]+))?>".toList

/-- A pattern with the colon before it, or nothing. -/
def patternNode : Node :=
  .repetition ⟨0, some 1, true⟩ (.ofFactors [.set (.singleton ':'),
    .capture 2 (some "pattern".toList)
      (.repetition ⟨1, none, true⟩ (.set (Unicode.CharSet.singleton '>').compl))])

def shapeNode : Node :=
  .ofFactors [.set (.singleton '<'),
    .capture 1 (some "name".toList) (.repetition ⟨1, none, true⟩ (.set Unicode.wordChars)),
    patternNode, .set (.singleton '>')]

theorem readToken_shape : readToken false '[' "^>]+))?>".toList =
    .ok (.atom (.bracket true (.literal ⟨'>', false⟩)), "+))?>".toList) := by
  have hopen : openBracket false "^>]+))?>".toList = .ok (⟨true, none, []⟩, ">]+))?>".toList) := by
    simp [openBracket, readCaret, readHyphens, readFirstClose]
  show (readBracket false _).map _ = _
  rw [readBracket, hopen]
  show Except.map _ (Except.map _ (readBrackets false _ [] ('>' :: _))) = _
  rw [readBrackets_item (fun _ _ _ _ => by decide) (by decide) (by decide)]
  show Except.map _ (Except.map _ (readBrackets false _ [] (']' :: _))) = _
  rw [readBrackets_close]
  rfl

theorem tokens_shape : tokens false [] shape = .ok [.atom (.literal ⟨'<', false⟩),
    .openGroup (.capture (some "name".toList)), .atom (.short .word false),
    .repetition ⟨1, none, true⟩, .closeGroup, .openGroup (.plain []), .atom (.literal ⟨':', false⟩),
    .openGroup (.capture (some "pattern".toList)), .atom (.bracket true (.literal ⟨'>', false⟩)),
    .repetition ⟨1, none, true⟩, .closeGroup, .closeGroup, .repetition ⟨0, some 1, true⟩,
    .atom (.literal ⟨'>', false⟩)] := by
  have hbehind : tokens false [false, false] "+))?>".toList = .ok [.repetition ⟨1, none, true⟩,
      .closeGroup, .closeGroup, .repetition ⟨0, some 1, true⟩, .atom (.literal ⟨'>', false⟩)] := by
    iterate 5 refine tokens_cons_of_readToken rfl ?_
    exact tokens_nil _
  iterate 8 refine tokens_cons_of_readToken rfl ?_
  exact tokens_cons_of_readToken readToken_shape hbehind

theorem parse_shape : Node.parse shape = .ok shapeNode := by
  rw [Node.parse, Tree.parse, tokens_shape]
  rfl

/-! ### Its matches -/

/-- How a pattern is written behind a name. -/
def patternText (pattern : Option (List Char)) : List Char := pattern.elim [] (':' :: ·)

theorem text_eq (p : Placeholder) :
    p.text = '<' :: (p.name ++ (patternText p.pattern ++ ['>'])) := by
  obtain ⟨name, pattern⟩ := p
  cases pattern <;> simp [text, patternText]

theorem text_prefix_drop_iff {p : Placeholder} {s : List Char} {i : Nat} :
    p.text <+: s.drop i ↔ s[i]? = some '<' ∧ p.name <+: s.drop (i + 1) ∧
      patternText p.pattern <+: s.drop (i + 1 + p.name.length) ∧
      s[i + 1 + p.name.length + (patternText p.pattern).length]? = some '>' := by
  rw [text_eq, cons_prefix_drop_iff, append_prefix_drop_iff, append_prefix_drop_iff,
    cons_prefix_drop_iff, and_iff_left List.nil_prefix]

theorem length_patternText_some (i : Nat) (v : List Char) :
    i + (patternText (some v)).length = i + 1 + v.length := by
  simp only [patternText, Option.elim_some, List.length_cons]
  omega

theorem length_text (p : Placeholder) (i : Nat) :
    i + p.text.length = i + 1 + p.name.length + (patternText p.pattern).length + 1 := by
  simp only [text_eq, List.length_cons, List.length_append, List.length_nil]
  omega

/-- The marks of a match of a pattern that begins behind a place, the last one first. -/
def patternMarks (pattern : Option (List Char)) (i : Nat) : Marks :=
  pattern.elim [] fun v => [(5, i + 1 + v.length), (4, i + 1)]

/-- The marks of a match of a placeholder that begins at a place, the last one first. -/
def marksAt (p : Placeholder) (i : Nat) : Marks :=
  patternMarks p.pattern (i + 1 + p.name.length) ++ [(3, i + 1 + p.name.length), (2, i + 1)]

theorem notMem_iff_compl {c : Char} {v : List Char} :
    c ∉ v ↔ ∀ d ∈ v, (Unicode.CharSet.singleton c).compl.contains d := by
  simp only [Unicode.CharSet.contains_compl, Bool.not_eq_true', Bool.eq_false_iff, ne_eq,
    Node.contains_singleton]
  exact ⟨fun h d hd heq => h (heq ▸ hd), fun h hmem => h _ hmem rfl⟩

theorem matches_patternNode_iff {s : List Char} {i j : Nat} {made : Marks} :
    patternNode.Matches s.toArray i j made ↔ ∃ pattern : Option (List Char), pattern ≠ some [] ∧
      (∀ v ∈ pattern, '>' ∉ v) ∧ patternText pattern <+: s.drop i ∧
      j = i + (patternText pattern).length ∧ made = patternMarks pattern i := by
  rw [patternNode, Node.matches_optional]
  constructor
  · rintro (⟨_, _, _, hcolon, hcapture, rfl⟩ | ⟨rfl, rfl⟩)
    · obtain ⟨hc, rfl, rfl⟩ := Node.matches_singleton.1 hcolon
      obtain ⟨_, hrow, rfl⟩ := Node.matches_capture.1 hcapture
      obtain ⟨v, hne, hall, hv, rfl, rfl⟩ := Node.matches_row_iff.1 hrow
      refine ⟨some v, by simpa using hne, by simpa using notMem_iff_compl.2 hall,
        cons_prefix_drop_iff.2 ⟨by simpa using hc, hv⟩, (length_patternText_some i v).symm, rfl⟩
    · exact ⟨none, by simp, by simp, List.nil_prefix, rfl, rfl⟩
  · rintro ⟨pattern, hne, hopen, hprefix, rfl, rfl⟩
    cases pattern with
    | none => exact .inr ⟨rfl, rfl⟩
    | some v =>
      obtain ⟨hc, hv⟩ := cons_prefix_drop_iff.1 hprefix
      rw [length_patternText_some]
      exact .inl ⟨i + 1, [], _, Node.matches_singleton.2 ⟨by simpa using hc, rfl, rfl⟩,
        Node.matches_capture.2 ⟨[], Node.matches_row_iff.2 ⟨v, by simpa using hne,
          notMem_iff_compl.1 (hopen v rfl), hv, rfl, rfl⟩, rfl⟩, rfl⟩

/-- The expression matches where a placeholder is written. -/
theorem matches_shape_iff {s : List Char} {i j : Nat} {made : Marks} :
    shapeNode.Matches s.toArray i j made ↔ ∃ p : Placeholder, p.WellFormed ∧
      p.text <+: s.drop i ∧ j = i + p.text.length ∧ made = p.marksAt i := by
  constructor
  · rintro ⟨_, _, _, hfirst, ⟨_, _, _, hcapture, ⟨_, _, _, hoptional, hlast, rfl⟩, rfl⟩, rfl⟩
    obtain ⟨hopen, rfl, rfl⟩ := Node.matches_singleton.1 hfirst
    obtain ⟨_, hrow, rfl⟩ := Node.matches_capture.1 hcapture
    obtain ⟨name, hne, hword, hname, rfl, rfl⟩ := Node.matches_row_iff.1 hrow
    obtain ⟨pattern, hne', hall, hpattern, rfl, rfl⟩ := matches_patternNode_iff.1 hoptional
    obtain ⟨hclose, rfl, rfl⟩ := Node.matches_singleton.1 hlast
    rw [List.getElem?_toArray] at hopen hclose
    exact ⟨⟨name, pattern⟩, ⟨hne, hword, hne', hall⟩,
      text_prefix_drop_iff.2 ⟨hopen, hname, hpattern, hclose⟩, (length_text ⟨name, pattern⟩ i).symm,
      by simp [marksAt]⟩
  · rintro ⟨p, hp, hprefix, rfl, rfl⟩
    obtain ⟨hopen, hname, hpattern, hclose⟩ := text_prefix_drop_iff.1 hprefix
    rw [← List.getElem?_toArray] at hopen hclose
    rw [length_text]
    have hoptional := matches_patternNode_iff.2
      ⟨p.pattern, hp.pattern_ne_nil, hp.pattern_open, hpattern, rfl, rfl⟩
    refine ⟨_, _, _, Node.matches_singleton.2 ⟨hopen, rfl, rfl⟩, ⟨_, _, _, Node.matches_capture.2
      ⟨[], Node.matches_row_iff.2 ⟨p.name, hp.name_ne_nil, hp.name_word, hname, rfl, rfl⟩, rfl⟩,
      ⟨_, _, _, hoptional, Node.matches_singleton.2 ⟨hclose, rfl, rfl⟩, rfl⟩, rfl⟩, ?_⟩
    simp [marksAt]

/-- Behind a place from which no placeholder is found, the expression matches nowhere. -/
theorem not_matches_of_find?_drop {s : List Char} {k : Nat} (h : find? (s.drop k) = none) {i j : Nat}
    {made : Marks} (hi : k ≤ i) : ¬shapeNode.Matches s.toArray i j made := by
  intro hmatch
  obtain ⟨p, hp, hprefix, -⟩ := matches_shape_iff.1 hmatch
  refine not_beginsAt_of_find?_eq_none h (i - k) ⟨p, hp, ?_⟩
  rwa [List.drop_drop, Nat.add_sub_cancel' hi]

/-- From any place of a text on, the placeholder that is found is the first match of the expression,
and the only one at its place. -/
theorem matches_iff_of_find?_drop {s before rest : List Char} {k : Nat} {p : Placeholder}
    (h : find? (s.drop k) = some (before, p, rest)) {i j : Nat} {made : Marks} (hi : k ≤ i)
    (hle : i ≤ k + before.length) : shapeNode.Matches s.toArray i j made ↔
      i = k + before.length ∧ j = i + p.text.length ∧ made = p.marksAt i := by
  have hp := wellFormed_of_find? h
  have hdrop : s.drop (k + before.length) = p.text ++ rest := by
    rw [← List.drop_drop, eq_append_of_find? h, List.drop_left]
  rw [matches_shape_iff]
  constructor
  · rintro ⟨q, hq, hprefix, rfl, rfl⟩
    obtain rfl : i = k + before.length := by
      refine Nat.le_antisymm hle (Nat.le_of_not_lt fun hlt => ?_)
      refine not_beginsAt_of_find? h (i := i - k) (by omega) ⟨q, hq, ?_⟩
      rwa [List.drop_drop, Nat.add_sub_cancel' hi]
    obtain ⟨rest', hrest⟩ := hdrop ▸ hprefix
    have hread := read?_text hq rest'
    rw [hrest, read?_text hp] at hread
    obtain ⟨rfl, -⟩ : p = q ∧ rest = rest' := by simpa using hread
    exact ⟨rfl, rfl, rfl⟩
  · rintro ⟨rfl, rfl, rfl⟩
    exact ⟨p, hp, hdrop ▸ List.prefix_append _ _, rfl, rfl⟩

/-! ### Searches -/

theorem lookup_captures_shapeNode (m : Match) :
    ((ofNode shapeNode).captures m).lookup "name".toList = m.group? 1 ∧
      ((ofNode shapeNode).captures m).lookup "pattern".toList = m.group? 2 := by
  have hnamed : shapeNode.named = [(1, "name".toList), (2, "pattern".toList)] := by decide
  rw [captures_ofNode, hnamed]
  cases hname : m.group? 1 <;> cases hpattern : m.group? 2 <;>
    simp [hname, hpattern, List.lookup_cons]

/-- A group has what lies between its marks. -/
theorem group?_of_text {m : Match} {u v w : List Char} {g : Nat}
    (htext : m.text = (u ++ (v ++ w)).toArray) (hopen : m.marks.lookup (2 * g) = some u.length)
    (hclose : m.marks.lookup (2 * g + 1) = some (u.length + v.length)) : m.group? g = some v := by
  rw [group?_eq hopen hclose, htext, extract_toArray, List.take_length_add_append,
    List.drop_left, List.take_left]

end Placeholder

/-- What a match of the shape of placeholders is taken for: a text, a placeholder, and the text behind
it. -/
def Regex.Match.placeholder? (m : Match) (captured : List (List Char × List Char)) :
    Option (List Char × Placeholder × List Char) := do
  let (start, stop) ← m.span? 0
  let name ← captured.lookup "name".toList
  return (m.text.toList.take start, ⟨name, captured.lookup "pattern".toList⟩,
    m.text.toList.drop stop)

namespace Placeholder

/-- The match that a placeholder makes is taken for the placeholder. -/
theorem placeholder?_marksAt (p : Placeholder) (before rest : List Char) :
    let m : Match := ⟨(before ++ (p.text ++ rest)).toArray,
      (1, before.length + p.text.length) :: (p.marksAt before.length ++ [(0, before.length)])⟩
    m.placeholder? ((ofNode shapeNode).captures m) = some (before, p, rest) := by
  intro m
  obtain ⟨hname, hpattern⟩ := lookup_captures_shapeNode m
  have hspan : m.span? 0 = some (before.length, before.length + p.text.length) := by
    obtain ⟨name, pattern⟩ := p
    cases pattern <;> rfl
  have hfirst : m.group? 1 = some p.name := by
    have htext : m.text =
        (before ++ ['<'] ++ (p.name ++ (patternText p.pattern ++ '>' :: rest))).toArray := by
      simp [m, text_eq]
    obtain ⟨name, pattern⟩ := p
    refine group?_of_text htext ?_ ?_ <;> cases pattern <;>
      simp [m, marksAt, patternMarks, List.lookup_cons]
  have hsecond : m.group? 2 = p.pattern := by
    obtain ⟨name, pattern⟩ := p
    cases pattern with
    | none => rfl
    | some v =>
      have htext : m.text = (before ++ '<' :: name ++ [':'] ++ (v ++ '>' :: rest)).toArray := by
        simp [m, text]
      refine group?_of_text htext ?_ ?_ <;>
        simp [m, marksAt, patternMarks, List.lookup_cons] <;> omega
  rw [Match.placeholder?, hspan, hname, hpattern, hfirst, hsecond]
  simp [m]

/-- The first placeholder is the one that a search for its shape finds. -/
theorem find?_eq_bind_find? : ∃ n, Node.parse shape = .ok n ∧ ∀ s,
    find? s = ((ofNode n).find? s).bind fun m =>
      m.placeholder? ((ofNode n).captures m) := by
  refine ⟨shapeNode, parse_shape, fun s => ?_⟩
  cases hfind : find? s with
  | none =>
    have hnone : shapeNode.program.search s.toArray = none := by
      rw [← Option.not_isSome_iff_eq_none, Node.search_isSome_iff]
      rintro ⟨i, j, made, -, h⟩
      exact not_matches_of_find?_drop (k := 0) hfind (Nat.zero_le i) h
    rw [Regex.find?, Regex.ofNode]
    simp only [hnone]
    rfl
  | some found =>
    obtain ⟨before, p, rest⟩ := found
    obtain rfl := eq_append_of_find? hfind
    have hiff {i j : Nat} {made : Marks} (hle : i ≤ before.length) :
        shapeNode.Matches (before ++ (p.text ++ rest)).toArray i j made ↔
          i = before.length ∧ j = i + p.text.length ∧ made = p.marksAt i := by
      refine (matches_iff_of_find?_drop (k := 0) hfind (Nat.zero_le i) ?_).trans ?_
      · rwa [Nat.zero_add]
      · rw [Nat.zero_add]
    have hmatch := (hiff (Nat.le_refl _)).2 ⟨rfl, rfl, rfl⟩
    obtain ⟨marks, hmarks⟩ := Option.isSome_iff_exists.1
      (Node.search_isSome_iff.2 ⟨before.length, _, _, by simp, hmatch⟩)
    obtain ⟨first, last, made, hfirst, rfl⟩ := Node.exists_leftmostFirst_of_search hmarks
    have hle : first ≤ before.length :=
      Nat.le_of_not_lt fun hlt => hfirst.leftmost _ hlt _ _ hmatch
    obtain ⟨rfl, rfl, rfl⟩ := (hiff hle).1 hfirst.matches
    have hfound : (ofNode shapeNode).find? (before ++ (p.text ++ rest)) = some ⟨_, _⟩ :=
      congrArg (Option.map _) hmarks
    rw [hfound]
    exact (placeholder?_marksAt p before rest).symm

end Placeholder

end RouteTemplate
