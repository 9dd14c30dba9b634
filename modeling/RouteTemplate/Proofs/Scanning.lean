import Mathlib.Data.List.Chain
import RouteTemplate.Proofs.Grammar

/-!
What a scan makes of a template, place by place. The segments cut the template up: written one after
another they give it back, and literal text is handed out in pieces as large as possible. No text of
the grammar begins in a literal piece, even if it would run on behind it, so wherever one begins there
lies a placeholder that was handed out. The rows of segments that have these properties are the ones
that are read back from what they are written as.
-/

namespace RouteTemplate

open Placeholder (BeginsAt)

namespace Segment

def isLiteral : Segment → Bool
  | .literal _ => true
  | .placeholder _ => false

/-- The place `i` of a row of segments, as it is written, lies in the segment `x`. -/
def Covers (x : Segment) (items : List Segment) (i : Nat) : Prop :=
  ∃ before after, items = before ++ x :: after ∧
    (join before).length ≤ i ∧ i < (join before).length + x.text.length

/-- Rows of segments in which literal text is as it is read: no piece is empty, none goes on in the
next segment, and none has a place at which a placeholder begins. -/
structure Canonical (items : List Segment) : Prop where
  literal_ne_nil : ∀ text, .literal text ∈ items → text ≠ []
  apart : items.IsChain fun x y => ¬(x.isLiteral ∧ y.isLiteral)
  wellFormed : ∀ p, .placeholder p ∈ items → p.WellFormed
  not_beginsAt : ∀ i text, (Segment.literal text).Covers items i → ¬BeginsAt (join items) i

/-! ### Written rows -/

@[simp] theorem join_nil : join [] = [] := rfl

theorem join_append (xs ys : List Segment) : join (xs ++ ys) = join xs ++ join ys :=
  List.flatMap_append

theorem join_cons (x : Segment) (items : List Segment) : join (x :: items) = x.text ++ join items :=
  List.flatMap_cons

@[simp] theorem text_literal (text : List Char) : (literal text).text = text := rfl

@[simp] theorem text_placeholder (p : Placeholder) : (placeholder p).text = p.text := rfl

theorem ofText_of_ne_nil {text : List Char} (h : text ≠ []) : ofText text = [.literal text] := by
  simp [ofText, h]

theorem join_ofText (text : List Char) : join (ofText text) = text := by
  cases text with
  | nil => rfl
  | cons c text => simp [join, ofText]

theorem covers_cons {x y : Segment} {items : List Segment} {i : Nat} :
    x.Covers (y :: items) i ↔
      x = y ∧ i < y.text.length ∨ y.text.length ≤ i ∧ x.Covers items (i - y.text.length) := by
  constructor
  · rintro ⟨before, after, heq, hle, hlt⟩
    cases before with
    | nil =>
      obtain ⟨rfl, rfl⟩ := List.cons.inj heq
      exact .inl ⟨rfl, by simpa using hlt⟩
    | cons z before =>
      obtain ⟨rfl, rfl⟩ := List.cons.inj heq
      rw [join_cons, List.length_append] at hle hlt
      exact .inr ⟨by omega, before, after, rfl, by omega, by omega⟩
  · rintro (⟨rfl, hlt⟩ | ⟨hle, before, after, rfl, hle', hlt⟩)
    · exact ⟨[], items, rfl, Nat.zero_le i, by simpa using hlt⟩
    · refine ⟨y :: before, after, rfl, ?_⟩
      rw [join_cons, List.length_append]
      omega

theorem covers_ofText_append {x : Segment} {text : List Char} {items : List Segment} {i : Nat} :
    x.Covers (ofText text ++ items) i ↔
      x = .literal text ∧ i < text.length ∨ text.length ≤ i ∧ x.Covers items (i - text.length) := by
  cases text with
  | nil => simp [ofText]
  | cons c text => exact covers_cons

/-- Every place of a written row lies in some segment. -/
theorem exists_covers {items : List Segment} {i : Nat} (h : i < (join items).length) :
    ∃ x : Segment, x.Covers items i := by
  induction items generalizing i with
  | nil => cases h
  | cons y items ih =>
    by_cases hi : i < y.text.length
    · exact ⟨y, covers_cons.2 (.inl ⟨rfl, hi⟩)⟩
    · rw [join_cons, List.length_append] at h
      obtain ⟨x, hx⟩ := ih (i := i - y.text.length) (by omega)
      exact ⟨x, covers_cons.2 (.inr ⟨by omega, hx⟩)⟩

end Segment

/-! ### The segments of a template -/

theorem segments_of_not_beginsAt {t : List Char} (h : ∀ i < t.length, ¬BeginsAt t i) :
    segments t = Segment.ofText t := by
  refine segments_of_find?_eq_none ?_
  have hfind := Placeholder.find?_append (s := t) (t := []) (by rwa [List.append_nil])
  rwa [List.append_nil] at hfind

/-- Text in which no placeholder begins is one literal up to the placeholder behind it. -/
theorem segments_append_text {text rest : List Char} {p : Placeholder} (hp : p.WellFormed)
    (h : ∀ i < text.length, ¬BeginsAt (text ++ (p.text ++ rest)) i) :
    segments (text ++ (p.text ++ rest)) =
      Segment.ofText text ++ .placeholder p :: segments rest := by
  refine segments_of_find? ?_
  simp only [Placeholder.find?_append h, Placeholder.find?_text hp, Option.map_some, List.append_nil]

theorem join_segments (t : List Char) : Segment.join (segments t) = t := by
  induction t using Placeholder.find?_induction with
  | literal t hfind => rw [segments_of_find?_eq_none hfind, Segment.join_ofText]
  | placeholder t before p rest hfind ih =>
    rw [segments_of_find? hfind, Segment.join_append, Segment.join_ofText, Segment.join_cons, ih]
    exact (Placeholder.eq_append_of_find? hfind).symm

theorem segments_eq_nil_iff {t : List Char} : segments t = [] ↔ t = [] := by
  constructor
  · intro h
    rw [← join_segments t, h, Segment.join_nil]
  · rintro rfl
    exact segments_of_find?_eq_none rfl

theorem ne_nil_of_literal_mem_segments {t text : List Char} (h : .literal text ∈ segments t) :
    text ≠ [] := by
  induction t using Placeholder.find?_induction with
  | literal t hfind =>
    rw [segments_of_find?_eq_none hfind, Segment.mem_ofText] at h
    obtain ⟨⟨rfl⟩, hne⟩ := h
    exact hne
  | placeholder t before p rest hfind ih =>
    rw [segments_of_find? hfind, List.mem_append, Segment.mem_ofText, List.mem_cons] at h
    rcases h with ⟨⟨rfl⟩, hne⟩ | h | h
    · exact hne
    · cases h
    · exact ih h

/-- A placeholder stands between any two literals. -/
theorem isChain_segments (t : List Char) :
    (segments t).IsChain fun x y => ¬(x.isLiteral ∧ y.isLiteral) := by
  induction t using Placeholder.find?_induction with
  | literal t hfind =>
    rw [segments_of_find?_eq_none hfind, Segment.ofText]
    split <;> simp
  | placeholder t before p rest hfind ih =>
    have hafter : (Segment.placeholder p :: segments rest).IsChain
        fun x y => ¬(x.isLiteral ∧ y.isLiteral) := by
      rw [List.isChain_cons]
      exact ⟨by simp [Segment.isLiteral], ih⟩
    rw [segments_of_find? hfind, Segment.ofText]
    split
    · exact hafter
    · rw [List.singleton_append, List.isChain_cons_cons]
      exact ⟨by simp [Segment.isLiteral], hafter⟩

/-- No text of the grammar begins in a literal of a template. -/
theorem not_beginsAt_of_covers {t text : List Char} {i : Nat}
    (h : (Segment.literal text).Covers (segments t) i) : ¬BeginsAt t i := by
  induction t using Placeholder.find?_induction generalizing i with
  | literal t hfind => exact Placeholder.not_beginsAt_of_find?_eq_none hfind i
  | placeholder t before p rest hfind ih =>
    rw [segments_of_find? hfind, Segment.covers_ofText_append, Segment.covers_cons] at h
    rcases h with ⟨-, hi⟩ | ⟨hbefore, ⟨heq, -⟩ | ⟨hp, hcovers⟩⟩
    · exact Placeholder.not_beginsAt_of_find? hfind hi
    · cases heq
    · -- the place lies behind the first placeholder
      intro hbegins
      refine ih hcovers ?_
      rw [Placeholder.eq_append_of_find? hfind] at hbegins
      rw [Segment.text_placeholder] at hp ⊢
      obtain ⟨j, rfl⟩ := Nat.exists_eq_add_of_le hbefore
      rw [Nat.add_sub_cancel_left] at hp ⊢
      obtain ⟨k, rfl⟩ := Nat.exists_eq_add_of_le hp
      rwa [Placeholder.beginsAt_append_add, Placeholder.beginsAt_append_add,
        ← Nat.add_sub_cancel_left p.text.length k] at hbegins

theorem canonical_segments (t : List Char) : Segment.Canonical (segments t) where
  literal_ne_nil _ := ne_nil_of_literal_mem_segments
  apart := isChain_segments t
  wellFormed _ := wellFormed_of_mem_segments
  not_beginsAt _ _ h := (join_segments t).symm ▸ not_beginsAt_of_covers h

/-- Where some text of the grammar begins, the scan has a placeholder. -/
theorem exists_placeholder_covers {t : List Char} {i : Nat} (h : BeginsAt t i) :
    ∃ p, (Segment.placeholder p).Covers (segments t) i := by
  have hlt : i < (Segment.join (segments t)).length := (join_segments t).symm ▸ h.lt_length
  obtain ⟨x, hx⟩ := Segment.exists_covers hlt
  cases x with
  | literal text => exact absurd h (not_beginsAt_of_covers hx)
  | placeholder p => exact ⟨p, hx⟩

/-! ### Reading back -/

namespace Segment.Canonical

variable {x : Segment} {items : List Segment}

theorem tail (h : Canonical (x :: items)) : Canonical items where
  literal_ne_nil text hmem := h.literal_ne_nil text (List.mem_cons_of_mem x hmem)
  apart := h.apart.tail
  wellFormed p hmem := h.wellFormed p (List.mem_cons_of_mem x hmem)
  not_beginsAt i text hcovers := by
    have hlater := h.not_beginsAt (x.text.length + i) text
      (covers_cons.2 (.inr ⟨Nat.le_add_right .., by rwa [Nat.add_sub_cancel_left]⟩))
    rwa [join_cons, Placeholder.beginsAt_append_add] at hlater

/-- No placeholder begins in the text at the front of a canonical row. -/
theorem not_beginsAt_of_lt {text : List Char} (h : Canonical (.literal text :: items)) (i : Nat)
    (hi : i < text.length) : ¬BeginsAt (text ++ join items) i :=
  h.not_beginsAt i text (covers_cons.2 (.inl ⟨rfl, hi⟩))

theorem segments_join (h : Canonical items) : segments (join items) = items := by
  induction items with
  | nil => exact segments_of_find?_eq_none rfl
  | cons x items ih =>
    cases x with
    | placeholder p =>
      rw [join_cons, text_placeholder, segments_text (h.wellFormed p List.mem_cons_self), ih h.tail]
    | literal text =>
      have hne := h.literal_ne_nil text List.mem_cons_self
      have hbegins := h.not_beginsAt_of_lt
      have hitems := ih h.tail
      -- the next segment, if there is one, is a placeholder and begins where the text ends
      cases items with
      | nil =>
        rw [join_nil, List.append_nil] at hbegins
        rw [join_cons, text_literal, join_nil, List.append_nil,
          segments_of_not_beginsAt hbegins, ofText_of_ne_nil hne]
      | cons y items =>
        cases y with
        | literal other => exact absurd ⟨rfl, rfl⟩ (List.isChain_cons_cons.1 h.apart).1
        | placeholder p =>
          have hp := h.wellFormed p (by simp)
          rw [join_cons, text_placeholder] at hbegins hitems
          rw [segments_text hp] at hitems
          rw [join_cons, text_literal, join_cons, text_placeholder,
            segments_append_text hp hbegins, hitems, ofText_of_ne_nil hne, List.singleton_append]

end Segment.Canonical

/-! ### Main results -/

/-- Every placeholder that is handed out is one of the grammar. Wherever some text of the grammar begins
in a template, it begins in the text of a placeholder that was handed out, at its first character or
inside it, and never in a literal. -/
theorem segments_leftmost (t : List Char) :
    (∀ p, .placeholder p ∈ segments t → p.WellFormed) ∧
      ∀ i, (∃ q : Placeholder, q.WellFormed ∧ q.text <+: t.drop i) →
        (∃ before p after, segments t = before ++ .placeholder p :: after ∧
          t = Segment.join before ++ (p.text ++ Segment.join after) ∧
          (Segment.join before).length ≤ i ∧ i < (Segment.join before).length + p.text.length) ∧
        ∀ text, ¬(Segment.literal text).Covers (segments t) i := by
  refine ⟨fun p => wellFormed_of_mem_segments, fun i hbegins => ⟨?_, ?_⟩⟩
  · obtain ⟨p, before, after, heq, hle, hlt⟩ := exists_placeholder_covers hbegins
    refine ⟨before, p, after, heq, ?_, hle, hlt⟩
    rw [← Segment.text_placeholder, ← Segment.join_cons, ← Segment.join_append, ← heq, join_segments]
  · exact fun text hcovers => not_beginsAt_of_covers hcovers hbegins

/-- In `<a:b<c>>` the text `<c>` begins inside the pattern of the placeholder that is read. -/
theorem segments_leftmost_of_nested :
    (∃ q : Placeholder, q.WellFormed ∧ q.text <+: "<a:b<c>>".toList.drop 4) ∧
      ∃ before p after, segments "<a:b<c>>".toList = before ++ .placeholder p :: after ∧
        "<a:b<c>>".toList = Segment.join before ++ (p.text ++ Segment.join after) ∧
        (Segment.join before).length ≤ 4 ∧ 4 < (Segment.join before).length + p.text.length := by
  have hword : Unicode.isWord 'c' := by rw [Unicode.isWord_of_lt (by decide)]; decide
  have hbegins : ∃ q : Placeholder, q.WellFormed ∧ q.text <+: "<a:b<c>>".toList.drop 4 :=
    ⟨⟨['c'], none⟩, ⟨by simp, by simpa using hword, by simp, by simp⟩, by decide⟩
  exact ⟨hbegins, ((segments_leftmost "<a:b<c>>".toList).2 4 hbegins).1⟩

/-- The segments of a template are the template cut up. No literal is empty, and no literal stands next
to another. -/
theorem segments_partition (t : List Char) :
    Segment.join (segments t) = t ∧ (∀ text, .literal text ∈ segments t → text ≠ []) ∧
      (segments t).IsChain fun x y => ¬(x.isLiteral ∧ y.isLiteral) :=
  ⟨join_segments t, fun _ => ne_nil_of_literal_mem_segments, isChain_segments t⟩

/-- Exactly the canonical rows are read back from what they are written as. -/
theorem segments_join_eq_iff (items : List Segment) :
    segments (Segment.join items) = items ↔ Segment.Canonical items := by
  constructor
  · intro h
    rw [← h]
    exact canonical_segments _
  · exact Segment.Canonical.segments_join

/-- An unfinished placeholder at the end of a literal takes in the beginning of the next segment. -/
example : ¬Segment.Canonical [.literal "<a:".toList, .placeholder ⟨['x'], none⟩] := by
  intro h
  have hword : Unicode.isWord 'a' := by rw [Unicode.isWord_of_lt (by decide)]; decide
  refine h.not_beginsAt_of_lt 0 (by decide) ⟨⟨['a'], some "<x".toList⟩, ?_, by decide⟩
  exact ⟨by simp, by simpa using hword, by decide, by decide⟩

end RouteTemplate
