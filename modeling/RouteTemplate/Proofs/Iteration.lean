import Mathlib.Data.List.Range
import Mathlib.Logic.Function.Iterate
import RouteTemplate.Proofs.Cutting
import RouteTemplate.Segment.Cursor

/-!
What holds of a cursor however often it is asked for a segment. A cursor and a scan, which counts
characters, go on in step, and the search of the cursor is where the cursor is, until there is nothing
more to be found. So no cut fails, what has been handed out and what is held back are the text before the
cursor, and the segments come to an end.
-/

namespace RouteTemplate

open Text (size slice? IsBoundary)

/-! ### Scans -/

namespace Scan

variable {s : Scan} {before rest : List Char} {p : Placeholder}

@[simp] theorem template_next (s : Scan) : s.next.2.template = s.template := by
  unfold next
  split
  · rfl
  · split
    · dsimp only
      split <;> rfl
    · rfl

theorem take_append_rest (s : Scan) : s.template.take s.position ++ s.rest = s.template :=
  List.take_append_drop _ _

/-- The text that is read up to the end of a placeholder. -/
theorem take_of_find? (h : Placeholder.find? s.rest = some (before, p, rest)) :
    s.template.take (s.position + (before.length + p.text.length)) =
      s.template.take s.position ++ (before ++ p.text) := by
  have hrest : s.template.drop s.position = before ++ p.text ++ rest := by
    rw [List.append_assoc]
    exact Placeholder.eq_append_of_find? h
  rw [List.take_add, hrest, ← List.length_append, List.take_left]

theorem rest_of_find? (h : Placeholder.find? s.rest = some (before, p, rest))
    (pending : Option Placeholder) :
    Scan.rest ⟨s.template, s.position + (before.length + p.text.length), pending⟩ = rest := by
  rw [rest_advance, Placeholder.eq_append_of_find? h, ← List.append_assoc, ← List.length_append,
    List.drop_left]

/-- The segments that are still to be handed out begin with the one that is held back. -/
theorem segments_eq (s : Scan) :
    s.segments = s.pending.toList.map .placeholder ++ RouteTemplate.segments s.rest := by
  have hstart {s : Scan} (hp : s.pending = none) : s.segments = RouteTemplate.segments s.rest :=
    segments_congr (t := .start s.rest) rfl hp
  cases hp : s.pending with
  | none => exact hstart hp
  | some p => exact (segments_of_next (next_of_pending hp)).trans (congrArg _ (hstart rfl))

theorem next_fst (s : Scan) : s.next.1 = s.segments.head? := by
  cases hnext : s.next with
  | mk answer s' =>
    cases answer with
    | none => rw [segments_of_next_none hnext, List.head?_nil]
    | some x => rw [segments_of_next hnext, List.head?_cons]

/-- A scan that has come to the end stays there. -/
theorem segments_next (s : Scan) : s.next.2.segments = s.segments.tail := by
  cases hnext : s.next with
  | mk answer s' =>
    cases answer with
    | some x => rw [segments_of_next hnext, List.tail_cons]
    | none =>
      have hdone := segments_of_next_none hnext
      rw [hdone, List.tail_nil]
      rw [segments_eq, List.append_eq_nil_iff, List.map_eq_nil_iff, Option.toList_eq_nil_iff,
        segments_eq_nil_iff] at hdone
      obtain ⟨hp, hrest⟩ := hdone
      have hend := next_of_find?_eq_none hp (by rw [hrest]; rfl)
      rw [hnext] at hend
      cases (Prod.mk.inj hend).2
      have hread : Scan.rest ⟨s.template, s.template.length, none⟩ = [] := List.drop_length
      exact (segments_eq _).trans (segments_eq_nil_iff.2 hread)

/-- What is left of the segments after a number of them has been asked for. -/
theorem segments_iterate (s : Scan) (n : Nat) :
    ((fun s : Scan => s.next.2)^[n] s).segments = s.segments.drop n := by
  induction n generalizing s with
  | zero => rfl
  | succ n ih => rw [Function.iterate_succ_apply, ih, segments_next, List.drop_tail]

theorem template_iterate (s : Scan) (n : Nat) :
    ((fun s : Scan => s.next.2)^[n] s).template = s.template := by
  induction n generalizing s with
  | zero => rfl
  | succ n ih => rw [Function.iterate_succ_apply, ih, template_next]

end Scan

/-- Between two placeholders, before the first and behind the last there is one literal at most. -/
theorem length_segments_le (t : List Char) :
    (segments t).length ≤ 2 * (placeholders t).length + 1 := by
  have hliteral (text : List Char) : (Segment.ofText text).length ≤ 1 := by
    unfold Segment.ofText
    split <;> simp
  induction t using Placeholder.find?_induction with
  | literal t hfind =>
    rw [segments_of_find?_eq_none hfind]
    exact Nat.le_trans (hliteral t) (Nat.le_add_left _ _)
  | placeholder t before p rest hfind ih =>
    have hbefore := hliteral before
    rw [segments_of_find? hfind, placeholders_of_find? hfind, List.length_append, List.length_cons,
      List.length_cons]
    omega

/-! ### Steps -/

namespace Cursor

/-- A cursor is where a scan is, and holds back what it does. Its search is there too, or all has been
read and nothing is left to be found. -/
structure Tracks (c : Cursor) (s : Scan) : Prop where
  template : c.template = s.template
  position : c.position = size (s.template.take s.position)
  pending : c.pending = s.pending
  search : c.search = ⟨s.rest, c.position⟩ ∨ s.rest = [] ∧ Placeholder.find? c.search.rest = none

variable {c : Cursor} {s : Scan}

theorem tracks_start (t : List Char) : (start t).Tracks (.start t) :=
  ⟨rfl, rfl, rfl, .inl rfl⟩

namespace Tracks

theorem find?_search (h : c.Tracks s) (hfind : Placeholder.find? s.rest = none) :
    Placeholder.find? c.search.rest = none := by
  rcases h.search with hsearch | ⟨-, hnone⟩
  · rwa [hsearch]
  · exact hnone

theorem slice?_rest (h : c.Tracks s) :
    slice? c.template c.position (size c.template) = some s.rest := by
  rw [h.template, h.position]
  refine Text.slice?_eq_some_iff.2 ⟨_, [], ?_, rfl, ?_⟩
  · rw [List.append_nil, s.take_append_rest]
  · rw [s.take_append_rest]

section

variable {before rest : List Char} {p : Placeholder}

theorem search_next (h : c.Tracks s) (hfind : Placeholder.find? s.rest = some (before, p, rest)) :
    c.search.next = (some ⟨c.position + size before, c.position + size before + size p.text, p⟩,
      ⟨rest, c.position + size before + size p.text⟩) := by
  rcases h.search with hsearch | ⟨hrest, -⟩
  · rw [hsearch, Search.next, hfind]
  · rw [hrest] at hfind
    cases hfind

theorem slice?_before (h : c.Tracks s) (hfind : Placeholder.find? s.rest = some (before, p, rest)) :
    slice? c.template c.position (c.position + size before) = some before := by
  rw [h.template, h.position]
  refine Text.slice?_eq_some_iff.2 ⟨_, p.text ++ rest, ?_, rfl, Text.size_append _ _⟩
  rw [List.append_assoc, ← Placeholder.eq_append_of_find? hfind, s.take_append_rest]

theorem slice?_text (h : c.Tracks s) (hfind : Placeholder.find? s.rest = some (before, p, rest)) :
    slice? c.template (c.position + size before) (c.position + size before + size p.text) =
      some p.text := by
  rw [h.template, h.position]
  refine Text.slice?_eq_some_iff.2
    ⟨s.template.take s.position ++ before, rest, ?_, Text.size_append _ _, ?_⟩
  · rw [List.append_assoc, List.append_assoc, ← Placeholder.eq_append_of_find? hfind,
      s.take_append_rest]
  · rw [Text.size_append, Text.size_append]

/-- Behind a placeholder, whether it is held back or not, the cursor is where the scan is again. -/
theorem past (h : c.Tracks s) (hfind : Placeholder.find? s.rest = some (before, p, rest))
    (pending : Option Placeholder) :
    Tracks ⟨c.template, ⟨rest, c.position + size before + size p.text⟩,
        c.position + size before + size p.text, pending⟩
      ⟨s.template, s.position + (before.length + p.text.length), pending⟩ where
  template := h.template
  position := by
    rw [Scan.take_of_find? hfind, Text.size_append, Text.size_append, h.position, Nat.add_assoc]
  pending := rfl
  search := .inl (by rw [Scan.rest_of_find? hfind])

end

/-- The cursor goes on as the scan does, and not back. -/
theorem next (h : c.Tracks s) :
    ∃ c', c.next = some (s.next.1, c') ∧ c'.Tracks s.next.2 ∧ c.position ≤ c'.position := by
  cases hp : s.pending with
  | some p =>
    -- what was held back
    rw [Scan.next_of_pending hp]
    refine ⟨{ c with pending := none }, ?_, ⟨h.template, h.position, rfl, h.search⟩, Nat.le_refl _⟩
    rw [Cursor.next, h.pending, hp]
  | none =>
    have hcp : c.pending = none := h.pending.trans hp
    cases hfind : Placeholder.find? s.rest with
    | none =>
      -- the text behind the last placeholder, or nothing
      have hstay : c.search.next = (none, c.search) := by
        rw [Search.next, h.find?_search hfind]
      have hle : c.position ≤ size c.template :=
        (Text.isSome_slice?_iff.1 (Option.isSome_of_eq_some h.slice?_rest)).1
      rw [Scan.next_of_find?_eq_none hp hfind]
      refine ⟨{ c with position := size c.template }, ?_,
        ⟨h.template, ?_, hcp, .inr ⟨List.drop_length, h.find?_search hfind⟩⟩, hle⟩
      · rw [Cursor.next, hcp, hstay]
        simp only [h.slice?_rest, Option.bind_eq_bind, Option.bind_some]
      · rw [h.template, List.take_length]
    | some found =>
      obtain ⟨before, p, rest⟩ := found
      have hle : c.position ≤ c.position + size before + size p.text := by omega
      by_cases hbefore : before = []
      · -- a placeholder without a text before it
        have hpast := h.past hfind none
        subst hbefore
        rw [Scan.next_of_find?_nil hp hfind]
        simp only [List.length_nil, Nat.zero_add] at hpast
        refine ⟨_, ?_, hpast, hle⟩
        rw [Cursor.next, hcp, h.search_next hfind]
        simp only [h.slice?_before hfind, Option.bind_eq_bind, Option.bind_some]
        rfl
      · -- the text before a placeholder, which is held back
        rw [Scan.next_of_find? hp hfind hbefore]
        refine ⟨_, ?_, h.past hfind (some p), hle⟩
        rw [Cursor.next, hcp, h.search_next hfind]
        simp only [h.slice?_before hfind, Option.bind_eq_bind, Option.bind_some, List.isEmpty_iff,
          hbefore, if_false]

end Tracks

/-! ### The invariant -/

/-- What holds of a cursor in a template when some segments have been handed out. It stands between
characters, and the text before it is what has been handed out and what is held back. The literal text up
to what is found next can be cut out, and so can the rest of the template. It can go on, and not back. -/
structure Invariant (t : List Char) (handed : List Segment) (c : Cursor) : Prop where
  template : c.template = t
  boundary : IsBoundary t c.position
  le_size : c.position ≤ size t
  text : slice? t 0 c.position =
    some (Segment.join handed ++ (c.pending.map Placeholder.text).getD [])
  found : ∀ found, c.search.next.1 = some found →
    c.position ≤ found.start ∧ found.start ≤ size t ∧ IsBoundary t found.start ∧
      slice? t found.start found.stop = some found.placeholder.text
  next : ∃ answer c', c.next = some (answer, c') ∧ c.position ≤ c'.position

namespace Tracks

/-- What has been read is what has been handed out and what is held back. -/
theorem take_eq {handed : List Segment} (h : c.Tracks s)
    (hsegments : segments s.template = handed ++ s.segments) :
    s.template.take s.position =
      Segment.join handed ++ (c.pending.map Placeholder.text).getD [] := by
  have hpending : Segment.join (s.pending.toList.map .placeholder) =
      (s.pending.map Placeholder.text).getD [] := by
    cases s.pending <;> simp [Segment.join]
  have hjoin := join_segments s.template
  rw [hsegments, s.segments_eq, Segment.join_append, Segment.join_append, join_segments, hpending,
    ← List.append_assoc] at hjoin
  rw [h.pending]
  exact List.append_cancel_right (s.take_append_rest.trans hjoin.symm)

theorem isBoundary (h : c.Tracks s) : IsBoundary s.template c.position := by
  have hcut := Text.isBoundary_append (s.template.take s.position) s.rest
  rwa [s.take_append_rest, ← h.position] at hcut

theorem found {found : Finding} (h : c.Tracks s) (hfound : c.search.next.1 = some found) :
    c.position ≤ found.start ∧ IsBoundary s.template found.start ∧
      slice? s.template found.start found.stop = some found.placeholder.text := by
  cases hfind : Placeholder.find? s.rest with
  | none =>
    rw [Search.next, h.find?_search hfind] at hfound
    cases hfound
  | some next =>
    obtain ⟨before, p, rest⟩ := next
    rw [h.search_next hfind] at hfound
    cases hfound
    have hcut := h.slice?_before hfind
    have htext := h.slice?_text hfind
    rw [h.template] at hcut htext
    obtain ⟨hle, -, hstart⟩ := Text.isSome_slice?_iff.1 (Option.isSome_of_eq_some hcut)
    exact ⟨hle, hstart, htext⟩

theorem invariant {t : List Char} {handed : List Segment} (h : c.Tracks s) (ht : s.template = t)
    (hsegments : segments t = handed ++ s.segments) : c.Invariant t handed := by
  subst ht
  refine ⟨h.template, h.isBoundary, h.isBoundary.le_size, ?_, fun found hfound => ?_, ?_⟩
  · rw [← h.take_eq hsegments]
    exact Text.slice?_eq_some_iff.2 ⟨[], s.rest, s.take_append_rest.symm, rfl, h.position.symm⟩
  · obtain ⟨hle, hstart, htext⟩ := h.found hfound
    exact ⟨hle, hstart.le_size, hstart, htext⟩
  · obtain ⟨c', hnext, -, hle⟩ := h.next
    exact ⟨_, c', hnext, hle⟩

end Tracks

/-! ### Runs -/

theorem filterMap_range (xs : List Segment) (n : Nat) :
    ((List.range n).map (xs[·]?)).filterMap id = xs.take n := by
  induction n with
  | zero => rfl
  | succ n ih =>
    rw [List.range_succ, List.map_append, List.filterMap_append, ih, List.take_add_one,
      List.map_singleton]
    cases hx : xs[n]? <;> simp

theorem Tracks.run (h : c.Tracks s) (n : Nat) :
    ∃ c', c.run n = some ((List.range n).map (s.segments[·]?), c') ∧
      c'.Tracks ((fun s : Scan => s.next.2)^[n] s) := by
  induction n generalizing c s with
  | zero => exact ⟨c, rfl, h⟩
  | succ n ih =>
    obtain ⟨d, hd, hstep, -⟩ := h.next
    obtain ⟨c', hc', htracks⟩ := ih hstep
    refine ⟨c', ?_, htracks⟩
    have hanswers : (List.range (n + 1)).map (s.segments[·]?) =
        s.next.1 :: (List.range n).map (s.next.2.segments[·]?) := by
      rw [List.range_succ_eq_map, List.map_cons, List.map_map, Scan.next_fst, Scan.segments_next,
        List.head?_eq_getElem?]
      simp [Function.comp_def]
    rw [Cursor.run, hanswers]
    simp only [hd, hc', Option.bind_eq_bind, Option.bind_some]
    rfl

/-- However often a cursor is asked for a segment, no cut fails, the invariant holds, and the cursor is
where the scan is. The answers are the segments of the template, of which there are no more than two for
each placeholder and one, and after them that there is none. -/
theorem run_invariant (t : List Char) :
    (segments t).length ≤ 2 * (placeholders t).length + 1 ∧
    ∀ n, ∃ answers c, (start t).run n = some (answers, c) ∧ c.Invariant t (answers.filterMap id) ∧
      c.Tracks ((fun s : Scan => s.next.2)^[n] (.start t)) ∧
      answers = (List.range n).map ((segments t)[·]?) ∧
      ∀ i < n, answers[i]? = some none ↔ (segments t).length ≤ i := by
  refine ⟨length_segments_le t, fun n => ?_⟩
  obtain ⟨c, hrun, htracks⟩ := (tracks_start t).run n
  refine ⟨_, c, hrun, ?_, htracks, rfl, fun i hi => ?_⟩
  · rw [filterMap_range]
    refine htracks.invariant (Scan.template_iterate _ n) ?_
    rw [Scan.segments_iterate]
    exact (List.take_append_drop n _).symm
  · rw [← List.getElem?_eq_none_iff, List.getElem?_map, List.getElem?_range hi]
    exact Option.some_inj

/-- The position counts bytes, of which the first character has two. -/
example : ((start "ü/".toList).run 1).map (·.2.position) = some 3 := by decide

end Cursor

end RouteTemplate
