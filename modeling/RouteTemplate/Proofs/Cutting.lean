import RouteTemplate.Proofs.Framing
import RouteTemplate.Proofs.Scanning

/-!
Cutting a template in two. If the cut splits no placeholder, the segments of the two parts are those of
the whole, but for literal text at the cut. If it splits one, the front of that placeholder is literal
text in the first part, and the expansions of the parts do not fit together: a group begins with `(`
where the front begins with `<`. What stands before the first placeholder may also go on with other text:
no placeholder begins there then either, unless that text goes on with a name or ends a pattern.
-/

namespace RouteTemplate

namespace Placeholder

variable {p : Placeholder} {a b t before rest : List Char}

theorem mem_text (p : Placeholder) : '>' ∈ p.text := List.mem_of_getLast? p.getLast?_text

theorem WellFormed.exists_text_eq (hp : p.WellFormed) :
    ∃ inner, p.text = '<' :: (inner ++ ['>']) ∧ '>' ∉ inner := by
  obtain ⟨name, pattern⟩ := p
  have hname : '>' ∉ name := Unicode.notMem_of_isWord hp.name_word Unicode.isWord_close
  cases pattern with
  | none => exact ⟨name, rfl, hname⟩
  | some pattern =>
    refine ⟨name ++ ':' :: pattern, by simp [text], ?_⟩
    simpa using ⟨hname, hp.pattern_open pattern rfl⟩

/-- What is cut off from the end of a placeholder takes the only `>` away. -/
theorem WellFormed.notMem_of_text_eq (hp : p.WellFormed) {front back : List Char}
    (h : p.text = front ++ back) (hback : back ≠ []) : '>' ∉ front := by
  obtain ⟨inner, htext, hinner⟩ := hp.exists_text_eq
  obtain ⟨back, last, rfl⟩ := (List.eq_nil_or_concat back).resolve_left hback
  rw [htext, ← List.cons_append, List.concat_eq_append, ← List.append_assoc] at h
  obtain ⟨hfront, -⟩ := List.append_inj' h rfl
  intro hmem
  have : '>' ∈ '<' :: inner := hfront ▸ List.mem_append_left back hmem
  simp [hinner] at this

theorem mem_of_beginsAt {i : Nat} (h : BeginsAt t i) : '>' ∈ t.drop i := by
  obtain ⟨p, -, hprefix⟩ := h
  exact hprefix.subset p.mem_text

theorem BeginsAt.append_right {i : Nat} (h : BeginsAt a i) (b : List Char) : BeginsAt (a ++ b) i := by
  obtain ⟨p, hp, hprefix⟩ := h
  refine ⟨p, hp, hprefix.trans ?_⟩
  rw [List.drop_append]
  exact List.prefix_append _ _

/-! ### Where the first placeholder lies -/

theorem find?_eq_none_iff : find? t = none ↔ ∀ i, ¬BeginsAt t i := by
  refine ⟨not_beginsAt_of_find?_eq_none, fun h => ?_⟩
  have hfind := find?_append (s := t) (t := []) fun i _ => by rw [List.append_nil]; exact h i
  rwa [List.append_nil] at hfind

/-- The first placeholder is the one with no other before it. -/
theorem find?_eq_some_iff : find? t = some (before, p, rest) ↔
    p.WellFormed ∧ t = before ++ (p.text ++ rest) ∧ ∀ i < before.length, ¬BeginsAt t i := by
  constructor
  · exact fun h => ⟨wellFormed_of_find? h, eq_append_of_find? h, fun _ hi => not_beginsAt_of_find? h hi⟩
  · rintro ⟨hp, rfl, hbegins⟩
    simp only [find?_append hbegins, find?_text hp, Option.map_some, List.append_nil]

theorem find?_eq_none_of_append (h : find? (a ++ b) = none) : find? a = none ∧ find? b = none := by
  rw [find?_eq_none_iff] at h
  refine ⟨find?_eq_none_iff.2 fun i hi => h i (hi.append_right b), find?_eq_none_iff.2 fun i hi => ?_⟩
  exact h (a.length + i) (beginsAt_append_add.2 hi)

theorem find?_of_append_left {rest' : List Char}
    (h : find? (before ++ (p.text ++ rest') ++ b) = some (before, p, rest)) :
    find? (before ++ (p.text ++ rest')) = some (before, p, rest') := by
  obtain ⟨hp, -, hbegins⟩ := find?_eq_some_iff.1 h
  exact find?_eq_some_iff.2 ⟨hp, rfl, fun i hi hbegin => hbegins i hi (hbegin.append_right b)⟩

theorem find?_of_append_right {before' : List Char}
    (h : find? (a ++ b) = some (a ++ before', p, rest)) :
    find? a = none ∧ find? b = some (before', p, rest) := by
  obtain ⟨hp, heq, hbegins⟩ := find?_eq_some_iff.1 h
  rw [List.append_assoc, List.append_cancel_left_eq] at heq
  rw [List.length_append] at hbegins
  refine ⟨find?_eq_none_iff.2 fun i hi => ?_, find?_eq_some_iff.2 ⟨hp, heq, fun i hi hbegin => ?_⟩⟩
  · have := hi.lt_length
    exact hbegins i (by omega) (hi.append_right b)
  · exact hbegins (a.length + i) (by omega) (beginsAt_append_add.2 hbegin)

/-- No placeholder begins in the text before the first one or in the front of that one. -/
theorem find?_front {front back : List Char} (h : find? t = some (before, p, rest))
    (htext : p.text = front ++ back) (hback : back ≠ []) : find? (before ++ front) = none := by
  obtain ⟨hp, rfl, hbegins⟩ := find?_eq_some_iff.1 h
  refine find?_eq_none_iff.2 fun i hi => ?_
  rcases Nat.lt_or_ge i before.length with hlt | hle
  · have hbegin := hi.append_right (back ++ rest)
    rw [List.append_assoc, ← List.append_assoc front, ← htext] at hbegin
    exact hbegins i hlt hbegin
  · obtain ⟨j, rfl⟩ := Nat.exists_eq_add_of_le hle
    have hmem := mem_of_beginsAt hi
    rw [List.drop_length_add_append] at hmem
    exact hp.notMem_of_text_eq htext hback (List.mem_of_mem_drop hmem)

/-- The first placeholder of a text that is cut in two lies in the first part, in the second one, or
across the cut. -/
theorem find?_append_cases (h : find? (a ++ b) = some (before, p, rest)) :
    (∃ rest', a = before ++ (p.text ++ rest') ∧ rest = rest' ++ b) ∨
      (∃ before', before = a ++ before') ∨
      ∃ front back, a = before ++ front ∧ b = back ++ rest ∧ p.text = front ++ back ∧
        front ≠ [] ∧ back ≠ [] := by
  rcases List.append_eq_append_iff.1 (eq_append_of_find? h) with ⟨before', hbefore, -⟩ | ⟨front, ha, h⟩
  · exact .inr (.inl ⟨before', hbefore⟩)
  · rcases List.append_eq_append_iff.1 h with ⟨rest', hfront, hrest⟩ | ⟨back, htext, hb⟩
    · exact .inl ⟨rest', by rw [ha, hfront], hrest⟩
    · by_cases hfront : front = []
      · exact .inr (.inl ⟨[], by simp [ha, hfront]⟩)
      · by_cases hback : back = []
        · exact .inl ⟨[], by simp [ha, htext, hback], by simp [hb, hback]⟩
        · exact .inr (.inr ⟨front, back, ha, hb, htext, hfront, hback⟩)

/-- Text without `>` ends no placeholder. -/
theorem find?_append_eq_none {back : List Char} (h : find? t = none) (hback : '>' ∉ back) :
    find? (t ++ back) = none := by
  cases hfind : find? (t ++ back) with
  | none => rfl
  | some found =>
    obtain ⟨before, p, rest⟩ := found
    rcases find?_append_cases hfind with
      ⟨rest', rfl, rfl⟩ | ⟨before', rfl⟩ | ⟨front, back', rfl, rfl, htext, -, hback'⟩
    · rw [find?_of_append_left hfind] at h
      cases h
    · have heq := eq_append_of_find? (find?_of_append_right hfind).2
      exact absurd (heq ▸ List.mem_append_right _ (List.mem_append_left _ p.mem_text)) hback
    · have hlast := p.getLast?_text
      rw [htext, List.getLast?_append_of_ne_nil _ hback'] at hlast
      exact absurd (List.mem_append_left _ (List.mem_of_getLast? hlast)) hback

/-! ### Other text in place of the first placeholder -/

theorem beginsAt_append_of_le {s : List Char} {i : Nat} (h : i ≤ s.length) :
    BeginsAt (s ++ t) i ↔ BeginsAt (s.drop i ++ t) 0 := by
  rw [BeginsAt, List.drop_append_of_le_length h, BeginsAt, List.drop_zero]

/-- A placeholder that begins in a text and goes on behind it at a character that is no part of its
frame is in its pattern there. -/
theorem exists_pattern_of_text_eq {front back : List Char} {c : Char} (hp : p.WellFormed)
    (hword : Unicode.isWord c = false) (hcolon : c ≠ ':') (hclose : c ≠ '>') (hfront : front ≠ [])
    (h : p.text = front ++ c :: back) :
    ∃ pattern, front = '<' :: p.name ++ ':' :: pattern := by
  have hname : c ∉ p.name := Unicode.notMem_of_isWord hp.name_word hword
  obtain ⟨d, front, rfl⟩ := List.exists_cons_of_ne_nil hfront
  obtain ⟨name, pattern⟩ := p
  cases pattern with
  | none =>
    obtain ⟨rfl, hrest⟩ : '<' = d ∧ name ++ ['>'] = front ++ c :: back := by simpa [text] using h
    have hmem : c ∈ name ++ ['>'] := by rw [hrest]; exact List.mem_append_right _ List.mem_cons_self
    simp [hclose, hname] at hmem
  | some pattern =>
    obtain ⟨rfl, hrest⟩ : '<' = d ∧ name ++ ':' :: (pattern ++ ['>']) = front ++ c :: back := by
      simpa [text] using h
    rcases List.append_eq_append_iff.1 hrest with ⟨inner, rfl, htail⟩ | ⟨inner, rfl, htail⟩
    · cases inner with
      | nil => exact absurd (List.cons.inj htail).1.symm hcolon
      | cons e inner =>
        obtain rfl := (List.cons.inj htail).1
        exact ⟨inner, rfl⟩
    · cases inner with
      | nil => exact absurd (List.cons.inj htail).1 hcolon
      | cons e inner =>
        obtain rfl := (List.cons.inj htail).1
        exact absurd (List.mem_append_right _ List.mem_cons_self) hname

/-- A pattern that is open before a placeholder takes it in. -/
theorem beginsAt_of_open {q : Placeholder} {pattern : List Char} (hq : q.WellFormed)
    (hp : p.WellFormed) (hpattern : '>' ∉ pattern) (rest : List Char) :
    BeginsAt ('<' :: q.name ++ ':' :: pattern ++ (p.text ++ rest)) 0 := by
  obtain ⟨inner, htext, hinner⟩ := hp.exists_text_eq
  refine ⟨⟨q.name, some (pattern ++ '<' :: inner)⟩, ⟨hq.name_ne_nil, hq.name_word, by simp, ?_⟩, ?_⟩
  · simpa using ⟨hpattern, hinner⟩
  · exact ⟨rest, by rw [htext]; simp [text]⟩

/-- What is put in place of the first placeholder makes none begin before it, if it does not go on with a
name or end one. -/
theorem not_beginsAt_of_find?_append {c : Char} (h : find? t = some (before, p, rest))
    (hword : Unicode.isWord c = false) (hcolon : c ≠ ':') (hclose : c ≠ '>') (s : List Char) {i : Nat}
    (hi : i < before.length) : ¬BeginsAt (before ++ c :: s) i := by
  obtain ⟨hp, rfl, hbegins⟩ := find?_eq_some_iff.1 h
  have hnot := hbegins i hi
  rw [beginsAt_append_of_le hi.le] at hnot ⊢
  have hne : before.drop i ≠ [] := by simpa using hi
  generalize before.drop i = front at hnot hne
  rintro ⟨q, hq, back, heq⟩
  rcases List.append_eq_append_iff.1 heq with ⟨front', hfront, -⟩ | ⟨back', htext, hback⟩
  · refine hnot ⟨q, hq, ?_⟩
    rw [hfront, List.drop_zero, List.append_assoc]
    exact List.prefix_append _ _
  · cases back' with
    | nil => exact hnot ⟨q, hq, by simp [htext]⟩
    | cons d back' =>
      obtain rfl := (List.cons.inj hback).1
      have hnotMem := hq.notMem_of_text_eq htext (by simp)
      obtain ⟨pattern, rfl⟩ := exists_pattern_of_text_eq hq hword hcolon hclose hne htext
      refine hnot (beginsAt_of_open hq hp ?_ rest)
      exact fun hmem => hnotMem (by simp [hmem])

/-- The name of the first group stands in its pattern as the first placeholder. -/
theorem find?_captureGroup (h : find? t = some (before, p, rest)) (fragment s : List Char) :
    find? (before ++ (p.captureGroup fragment ++ s)) =
      some (before ++ "(?P".toList, ⟨p.name, none⟩, fragment ++ ')' :: s) := by
  have hp := wellFormed_of_find? h
  have hgroup : p.captureGroup fragment ++ s = "(?P".toList ++
      ((⟨p.name, none⟩ : Placeholder).text ++ (fragment ++ ')' :: s)) := by
    simp [captureGroup, text]
  have hword : Unicode.isWord '(' = false := by rw [Unicode.isWord_of_lt (by decide)]; decide
  have hbegins (s : List Char) : ∀ i < before.length, ¬BeginsAt (before ++ ("(?P".toList ++ s)) i :=
    fun i hi => not_beginsAt_of_find?_append h hword (by decide) (by decide) _ hi
  have hname : WellFormed ⟨p.name, none⟩ := ⟨hp.name_ne_nil, hp.name_word, by simp, by simp⟩
  rw [hgroup, find?_append (hbegins _), find?_append_of_notMem (by decide), find?_text hname]
  simp

end Placeholder

/-! ### Segments of the parts -/

namespace Segment

/-- The place `n` of a row of segments, as it is written, lies inside a placeholder: the placeholder
begins before it and ends behind it. -/
def Splits (items : List Segment) (n : Nat) : Prop :=
  ∃ before p after, items = before ++ .placeholder p :: after ∧
    (join before).length < n ∧ n < (join before).length + p.text.length

variable {items : List Segment} {n : Nat}

theorem not_splits_nil : ¬Splits [] n := by
  rintro ⟨before, p, after, heq, -⟩
  simp at heq

theorem not_splits_zero : ¬Splits items 0 :=
  fun ⟨_, _, _, _, hlt, _⟩ => Nat.not_lt_zero _ hlt

theorem splits_cons {x : Segment} : Splits (x :: items) n ↔
    (x.isLiteral = false ∧ 0 < n ∧ n < x.text.length) ∨ Splits items (n - x.text.length) := by
  constructor
  · rintro ⟨before, p, after, heq, hlt, hlt'⟩
    cases before with
    | nil =>
      obtain ⟨rfl, -⟩ := List.cons.inj heq
      exact .inl ⟨rfl, hlt, by simpa using hlt'⟩
    | cons y before =>
      obtain ⟨rfl, rfl⟩ := List.cons.inj heq
      rw [join_cons, List.length_append] at hlt hlt'
      exact .inr ⟨before, p, after, rfl, by omega, by omega⟩
  · rintro (⟨hx, hlt, hlt'⟩ | ⟨before, p, after, rfl, hlt, hlt'⟩)
    · cases x with
      | literal text => cases hx
      | placeholder p => exact ⟨[], p, items, rfl, hlt, by simpa using hlt'⟩
    · refine ⟨x :: before, p, after, rfl, ?_⟩
      rw [join_cons, List.length_append]
      omega

theorem splits_ofText_append {text : List Char} :
    Splits (ofText text ++ items) n ↔ Splits items (n - text.length) := by
  cases text with
  | nil => rfl
  | cons c text => simp [ofText, splits_cons, isLiteral]

theorem filterMap_ofText (text : List Char) : (ofText text).filterMap placeholder? = [] := by
  cases text <;> rfl

end Segment

theorem placeholders_of_find? {t before rest : List Char} {p : Placeholder}
    (h : Placeholder.find? t = some (before, p, rest)) : placeholders t = p :: placeholders rest := by
  rw [placeholders, segments_of_find? h, List.filterMap_append, Segment.filterMap_ofText]
  rfl

open Segment (ofText Splits)

/-- How the segments of a text come from those of the parts it is cut into. -/
inductive Meets (a b : List Char) : Prop where
  /-- Literal text on both sides of the cut becomes one. -/
  | seam (before after : List Segment) (text text' : List Char)
      (hsplits : ¬Splits (segments (a ++ b)) a.length)
      (ha : segments a = before ++ ofText text) (hb : segments b = ofText text' ++ after)
      (h : segments (a ++ b) = before ++ (ofText (text ++ text') ++ after))
  /-- The first part ends with the front of a placeholder. -/
  | split (before after : List Segment) (text front : List Char) (p : Placeholder)
      (hsplits : Splits (segments (a ++ b)) a.length) (hfront : front.head? = some '<')
      (ha : segments a = before ++ ofText (text ++ front))
      (h : segments (a ++ b) = before ++ (ofText text ++ .placeholder p :: after))

theorem meets_of_find?_eq_none {a b : List Char} (h : Placeholder.find? (a ++ b) = none) :
    Meets a b := by
  obtain ⟨ha, hb⟩ := Placeholder.find?_eq_none_of_append h
  have hab := segments_of_find?_eq_none h
  rw [← List.append_nil (ofText _)] at hab
  refine .seam [] [] a b ?_ (segments_of_find?_eq_none ha)
    ((segments_of_find?_eq_none hb).trans (List.append_nil _).symm) hab
  rw [hab, Segment.splits_ofText_append]
  exact Segment.not_splits_nil

/-- The first placeholder lies in the second part. -/
theorem meets_of_append_right {a b before rest : List Char} {p : Placeholder}
    (h : Placeholder.find? (a ++ b) = some (a ++ before, p, rest)) : Meets a b := by
  obtain ⟨ha, hb⟩ := Placeholder.find?_of_append_right h
  have hab := segments_of_find? h
  refine .seam [] _ a before ?_ (segments_of_find?_eq_none ha) (segments_of_find? hb) hab
  rw [hab, Segment.splits_ofText_append, List.length_append, Nat.sub_eq_zero_of_le (Nat.le_add_right ..)]
  exact Segment.not_splits_zero

/-- The first placeholder lies across the cut. -/
theorem meets_of_front {before front back rest : List Char} {p : Placeholder}
    (htext : p.text = front ++ back) (hfront : front ≠ []) (hback : back ≠ [])
    (h : Placeholder.find? (before ++ front ++ (back ++ rest)) = some (before, p, rest)) :
    Meets (before ++ front) (back ++ rest) := by
  have hab := segments_of_find? h
  have hhead : front.head? = some '<' := by
    have := p.head?_text
    obtain ⟨c, front, rfl⟩ := List.exists_cons_of_ne_nil hfront
    rwa [htext] at this
  have ha := segments_of_find?_eq_none (Placeholder.find?_front h htext hback)
  refine .split [] _ before front p ?_ hhead ha hab
  rw [hab, Segment.splits_ofText_append, Segment.splits_cons, List.length_append, Nat.add_sub_cancel_left]
  have := List.length_pos_iff.2 hfront
  have := List.length_pos_iff.2 hback
  exact .inl ⟨rfl, by omega, by rw [Segment.text_placeholder, htext, List.length_append]; omega⟩

/-- The first placeholder lies in the first part: nothing changes in front of it. -/
theorem Meets.append_left {before rest b : List Char} {p : Placeholder}
    (h : Placeholder.find? (before ++ (p.text ++ rest) ++ b) = some (before, p, rest ++ b))
    (hrest : Meets rest b) : Meets (before ++ (p.text ++ rest)) b := by
  have hab := segments_of_find? h
  have ha := segments_of_find? (Placeholder.find?_of_append_left h)
  have hsplits : Splits (segments (before ++ (p.text ++ rest) ++ b)) (before ++ (p.text ++ rest)).length ↔
      Splits (segments (rest ++ b)) rest.length := by
    rw [hab, Segment.splits_ofText_append, Segment.splits_cons, List.length_append, List.length_append,
      Nat.add_sub_cancel_left, Segment.text_placeholder, Nat.add_sub_cancel_left]
    exact or_iff_right fun hin => Nat.not_lt.2 (Nat.le_add_right ..) hin.2.2
  cases hrest with
  | seam before' after text text' hno hrest hb hjoint =>
    refine .seam (ofText before ++ .placeholder p :: before') after text text' (mt hsplits.1 hno) ?_ hb ?_
    · rw [ha, hrest, List.append_assoc, List.cons_append]
    · rw [hab, hjoint, List.append_assoc, List.cons_append]
  | split before' after text front q hyes hfront hrest hjoint =>
    refine .split (ofText before ++ .placeholder p :: before') after text front q (hsplits.2 hyes) hfront
      ?_ ?_
    · rw [ha, hrest, List.append_assoc, List.cons_append]
    · rw [hab, hjoint, List.append_assoc, List.cons_append]

theorem meets (a b : List Char) : Meets a b := by
  induction ht : a ++ b using Placeholder.find?_induction generalizing a with
  | literal t hfind => exact meets_of_find?_eq_none (ht ▸ hfind)
  | placeholder t before p rest hfind ih =>
    subst ht
    rcases Placeholder.find?_append_cases hfind with
      ⟨rest', rfl, rfl⟩ | ⟨before', rfl⟩ | ⟨front, back, rfl, rfl, htext, hfront, hback⟩
    · exact .append_left hfind (ih rest' rfl)
    · exact meets_of_append_right hfind
    · exact meets_of_front htext hfront hback hfind

/-! ### Expansions of the parts -/

theorem captureGroup_append_ne {p : Placeholder} {fragment front s t : List Char}
    (hfront : front.head? = some '<') : p.captureGroup fragment ++ s ≠ front ++ t := by
  intro h
  obtain ⟨front, rfl⟩ := List.head?_eq_some_iff.1 hfront
  cases h

theorem substitute_append_iff {table : FragmentTable} {default a b : List Char} :
    substitute table default (a ++ b) = substitute table default a ++ substitute table default b ↔
      ¬Splits (segments (a ++ b)) a.length := by
  rw [substitute, substitute, substitute]
  cases meets a b with
  | seam before after text text' hsplits ha hb h =>
    refine iff_of_true ?_ hsplits
    simp only [ha, hb, h, List.flatMap_append, flatMap_expand_ofText, List.append_assoc]
  | split before after text front p hsplits hfront ha h =>
    refine iff_of_false ?_ (not_not_intro hsplits)
    simp only [ha, h, List.flatMap_append, flatMap_expand_ofText, List.append_assoc,
      List.append_cancel_left_eq]
    exact captureGroup_append_ne hfront

theorem placeholders_append_of_not_splits {a b : List Char}
    (h : ¬Splits (segments (a ++ b)) a.length) :
    placeholders (a ++ b) = placeholders a ++ placeholders b := by
  cases meets a b with
  | seam before after text text' _ ha hb hab =>
    simp only [placeholders, ha, hb, hab, List.filterMap_append, Segment.filterMap_ofText,
      List.append_nil, List.nil_append]
  | split before after text front p hsplits => exact absurd hsplits h

/-- With all steps off, the expansion of a text that is cut in two is that of the one part followed by that
of the other exactly if no placeholder begins in the one and ends in the other. Then the placeholders are
those of the one followed by those of the other. -/
theorem expand_append_iff (e : Expander) (o : Overrides) (a b : List Char) :
    (e.expand (a ++ b) (o.merge .bare) =
        e.expand a (o.merge .bare) ++ e.expand b (o.merge .bare) ↔
      ¬Splits (segments (a ++ b)) a.length) ∧
      (¬Splits (segments (a ++ b)) a.length →
        placeholders (a ++ b) = placeholders a ++ placeholders b) := by
  refine ⟨?_, placeholders_append_of_not_splits⟩
  rw [e.expand_merge_bare, e.expand_merge_bare, e.expand_merge_bare]
  exact substitute_append_iff

/-- The beginning of a placeholder at the end of the one part does no harm unless the other part ends the
placeholder. -/
theorem expand_append_of_begun :
    let a := "<_><_:".toList
    let body := fun t => Expander.standard.expand t .bare
    ¬Splits (segments (a ++ ['/'])) a.length ∧ body (a ++ ['/']) = body a ++ body ['/'] ∧
      placeholders (a ++ ['/']) = placeholders a ++ placeholders ['/'] ∧
      Splits (segments (a ++ ['/', '>'])) a.length ∧
      body (a ++ ['/', '>']) ≠ body a ++ body ['/', '>'] := by
  intro a body
  have hword : Unicode.isWord '_' := by rw [Unicode.isWord_of_lt (by decide)]; decide
  have hname : Placeholder.WellFormed ⟨['_'], none⟩ := ⟨by simp, by simpa using hword, by simp, by simp⟩
  have hpattern : Placeholder.WellFormed ⟨['_'], some ['/']⟩ :=
    ⟨by simp, by simpa using hword, by simp, by simp⟩
  have hopen : Placeholder.find? "<_:/".toList = none :=
    Placeholder.find?_append_eq_none (t := []) rfl (by decide)
  have hfits : ¬Splits (segments (a ++ ['/'])) a.length := by
    have hsegments : segments (a ++ ['/']) = [.placeholder ⟨['_'], none⟩, .literal "<_:/".toList] :=
      (segments_text hname _).trans (congrArg _ (segments_of_find?_eq_none hopen))
    rw [hsegments, Segment.splits_cons, Segment.splits_cons]
    rintro (h | h | h)
    · exact absurd h.2.2 (by decide)
    · cases h.1
    · exact Segment.not_splits_nil h
  have hsplits : Splits (segments (a ++ ['/', '>'])) a.length := by
    have hsegments : segments (a ++ ['/', '>']) =
        [.placeholder ⟨['_'], none⟩, .placeholder ⟨['_'], some ['/']⟩] :=
      (segments_text hname _).trans (congrArg _ ((segments_text hpattern []).trans
        (congrArg _ (segments_of_find?_eq_none rfl))))
    rw [hsegments]
    exact ⟨[.placeholder ⟨['_'], none⟩], _, [], rfl, by decide, by decide⟩
  obtain ⟨hiff, hplaceholders⟩ := expand_append_iff .standard .none a ['/']
  have hiff' := (expand_append_iff .standard .none a ['/', '>']).1
  exact ⟨hfits, hiff.2 hfits, hplaceholders hfits, hsplits, fun heq => hiff'.1 heq hsplits⟩

end RouteTemplate
