import RouteTemplate.Segment.Scan

/-!
The grammar of placeholders, `<` name `>` or `<` name `:` pattern `>`, and what a scan makes of a
template by it. Reading a placeholder is shown to invert writing one. The first placeholder of a text
is the one at the first place where some text of the grammar begins, and the segments of a template
come from it, the text before it and the segments of the text after it.
-/

namespace RouteTemplate

/-! ### Character facts -/

namespace Unicode

theorem isWord_of_lt {c : Char} (h : c.toNat < 128) :
    isWord c = asciiWordChars.hasCode c.toNat := by
  rw [isWord, CharSet.contains, wordChars, CharSet.hasCode_splice_of_lt _ _ h]

theorem isWord_close : isWord '>' = false := by
  rw [isWord_of_lt (by decide)]; decide

theorem isWord_colon : isWord ':' = false := by
  rw [isWord_of_lt (by decide)]; decide

theorem notMem_of_isWord {c : Char} {name : List Char} (h : ∀ d ∈ name, isWord d)
    (hc : isWord c = false) : c ∉ name :=
  fun hmem => by simpa [hc] using h c hmem

end Unicode

namespace Placeholder

/-- What the grammar asks of the parts of a placeholder. -/
structure WellFormed (p : Placeholder) : Prop where
  name_ne_nil : p.name ≠ []
  name_word : ∀ c ∈ p.name, Unicode.isWord c
  pattern_ne_nil : p.pattern ≠ some []
  pattern_open : ∀ pattern ∈ p.pattern, '>' ∉ pattern

/-- Whether ASCII text is well-formed is seen without the tables of Unicode. -/
theorem wellFormed_of_ascii {p : Placeholder} (h : p.name ≠ [] ∧
    (p.name.all fun c => decide (c.toNat < 128) && Unicode.asciiWordChars.hasCode c.toNat) ∧
    p.pattern ≠ some [] ∧ ∀ pattern ∈ p.pattern, '>' ∉ pattern) : p.WellFormed where
  name_ne_nil := h.1
  name_word c hc := by
    have hascii := List.all_eq_true.1 h.2.1 c hc
    simp only [Bool.and_eq_true, decide_eq_true_eq] at hascii
    rw [Unicode.isWord_of_lt hascii.1]
    exact hascii.2
  pattern_ne_nil := h.2.2.1
  pattern_open := h.2.2.2

/-! ### Reading inverts writing -/

theorem takeWhile_append_of_all {α : Type} {f : α → Bool} {s r : List α} {c : α}
    (hs : ∀ x ∈ s, f x) (hc : f c = false) :
    (s ++ c :: r).takeWhile f = s ∧ (s ++ c :: r).dropWhile f = c :: r := by
  rw [List.takeWhile_append_of_pos hs, List.dropWhile_append_of_pos hs]
  simp [hc]

theorem read?_text {p : Placeholder} (hp : p.WellFormed) (rest : List Char) :
    read? (p.text ++ rest) = some (p, rest) := by
  obtain ⟨name, pattern⟩ := p
  obtain ⟨c, name, rfl⟩ := List.exists_cons_of_ne_nil hp.name_ne_nil
  cases pattern with
  | none =>
    obtain ⟨ht, hd⟩ := takeWhile_append_of_all (r := rest) hp.name_word Unicode.isWord_close
    simp only [List.cons_append] at ht hd
    simp [text, read?, ht, hd]
  | some pattern =>
    obtain ⟨d, pattern, rfl⟩ :=
      List.exists_cons_of_ne_nil (fun h : pattern = [] => hp.pattern_ne_nil (by rw [h]))
    have hopen : ∀ x ∈ d :: pattern, decide (x ≠ '>') = true := by
      intro x hx
      simpa using fun h : x = '>' => hp.pattern_open _ rfl (h ▸ hx)
    obtain ⟨ht, hd⟩ := takeWhile_append_of_all (r := d :: pattern ++ '>' :: rest)
      hp.name_word Unicode.isWord_colon
    obtain ⟨ht', hd'⟩ := takeWhile_append_of_all (r := rest) hopen (c := '>') (by decide)
    simp only [List.cons_append] at ht hd ht' hd'
    simp only [text, List.cons_append, List.append_assoc, List.nil_append, read?]
    rw [ht, hd]
    simp only [ht', hd']

theorem wellFormed_of_read? {s rest : List Char} {p : Placeholder} (h : read? s = some (p, rest)) :
    p.WellFormed := by
  unfold read? at h
  split at h
  next s =>
    have hword : ∀ c ∈ s.takeWhile Unicode.isWord, Unicode.isWord c :=
      List.all_eq_true.1 List.all_takeWhile
    split at h
    next c name rest hname hrest =>
      simp only [Option.some.injEq, Prod.mk.injEq] at h
      obtain ⟨rfl, rfl⟩ := h
      exact ⟨by simp, hname ▸ hword, by simp, by simp⟩
    next c name s' hname hrest =>
      have hopen : ∀ d ∈ s'.takeWhile (· ≠ '>'), d ≠ '>' := by
        simpa using List.all_eq_true.1 (List.all_takeWhile (p := (· ≠ '>')) (l := s'))
      split at h
      next d pattern rest hpattern hrest' =>
        simp only [Option.some.injEq, Prod.mk.injEq] at h
        obtain ⟨rfl, rfl⟩ := h
        refine ⟨by simp, hname ▸ hword, by simp, ?_⟩
        rintro _ ⟨⟩ hmem
        exact hopen '>' (hpattern ▸ hmem) rfl
      next => simp at h
    next => simp at h
  next => simp at h

theorem read?_eq_some_iff {s rest : List Char} {p : Placeholder} :
    read? s = some (p, rest) ↔ p.WellFormed ∧ s = p.text ++ rest := by
  constructor
  · exact fun h => ⟨wellFormed_of_read? h, eq_append_of_read? h⟩
  · rintro ⟨hp, rfl⟩
    exact read?_text hp rest

theorem read?_eq_none_iff {s : List Char} :
    read? s = none ↔ ∀ p : Placeholder, p.WellFormed → ¬p.text <+: s := by
  constructor
  · rintro h p hp ⟨rest, rfl⟩
    simp [read?_text hp] at h
  · intro h
    cases hread : read? s with
    | none => rfl
    | some pr =>
      obtain ⟨hp, hs⟩ := read?_eq_some_iff.1 hread
      exact absurd ⟨pr.2, hs.symm⟩ (h pr.1 hp)

/-! ### The first placeholder -/

theorem find?_of_read? {c : Char} {s rest : List Char} {p : Placeholder}
    (h : read? (c :: s) = some (p, rest)) : find? (c :: s) = some ([], p, rest) := by
  rw [find?, h]

theorem find?_of_read?_eq_none {c : Char} {s : List Char} (h : read? (c :: s) = none) :
    find? (c :: s) = (find? s).map fun (before, p, rest) => (c :: before, p, rest) := by
  rw [find?, h]

/-- The first placeholder stands at the beginning, or else it is the first one of the rest. -/
theorem find?_cons_eq_some_iff {c : Char} {s before rest : List Char} {p : Placeholder} :
    find? (c :: s) = some (before, p, rest) ↔
      before = [] ∧ read? (c :: s) = some (p, rest) ∨
        read? (c :: s) = none ∧ ∃ b, before = c :: b ∧ find? s = some (b, p, rest) := by
  cases hread : read? (c :: s) with
  | some found =>
    obtain ⟨q, r⟩ := found
    simp [find?_of_read? hread, eq_comm]
  | none =>
    rw [find?_of_read?_eq_none hread, Option.map_eq_some_iff]
    constructor
    · rintro ⟨⟨b, q, r⟩, hfind, heq⟩
      obtain ⟨rfl, rfl, rfl⟩ : c :: b = before ∧ q = p ∧ r = rest := by simpa using heq
      exact .inr ⟨rfl, b, rfl, hfind⟩
    · rintro (⟨-, h⟩ | ⟨-, b, rfl, hfind⟩)
      · cases h
      · exact ⟨(b, p, rest), hfind, rfl⟩

theorem find?_cons_eq_none_iff {c : Char} {s : List Char} :
    find? (c :: s) = none ↔ read? (c :: s) = none ∧ find? s = none := by
  cases hread : read? (c :: s) with
  | some found => simp [find?_of_read? hread]
  | none => simp [find?_of_read?_eq_none hread]

theorem wellFormed_of_find? {s before rest : List Char} {p : Placeholder}
    (h : find? s = some (before, p, rest)) : p.WellFormed := by
  induction s generalizing before with
  | nil => cases h
  | cons c s ih =>
    rcases find?_cons_eq_some_iff.1 h with ⟨-, hread⟩ | ⟨-, before, -, hfind⟩
    · exact wellFormed_of_read? hread
    · exact ih hfind

theorem length_lt_of_find? {s before rest : List Char} {p : Placeholder}
    (h : find? s = some (before, p, rest)) : rest.length < s.length := by
  have hlen := congrArg List.length (eq_append_of_find? h)
  have hpos := List.length_pos_iff.2 p.text_ne_nil
  simp only [List.length_append] at hlen
  omega

/-- What holds of text without placeholders, and of a text if of what stands behind its first
placeholder, holds of every text. -/
theorem find?_induction {motive : List Char → Prop}
    (literal : ∀ t, find? t = none → motive t)
    (placeholder : ∀ t before p rest, find? t = some (before, p, rest) → motive rest → motive t)
    (t : List Char) : motive t := by
  induction hn : t.length using Nat.strongRecOn generalizing t with
  | ind n ih =>
    cases hfind : find? t with
    | none => exact literal t hfind
    | some found =>
      obtain ⟨before, p, rest⟩ := found
      exact placeholder t before p rest hfind (ih _ (hn ▸ length_lt_of_find? hfind) rest rfl)

/-- Some text of the grammar begins at a place of a text. -/
def BeginsAt (t : List Char) (i : Nat) : Prop :=
  ∃ p : Placeholder, p.WellFormed ∧ p.text <+: t.drop i

theorem not_beginsAt_zero_iff {t : List Char} : ¬BeginsAt t 0 ↔ read? t = none := by
  simp [read?_eq_none_iff, BeginsAt]

theorem beginsAt_append_add {s t : List Char} {i : Nat} :
    BeginsAt (s ++ t) (s.length + i) ↔ BeginsAt t i := by
  simp only [BeginsAt, List.drop_length_add_append]

theorem BeginsAt.lt_length {t : List Char} {i : Nat} (h : BeginsAt t i) : i < t.length := by
  obtain ⟨p, -, hprefix⟩ := h
  have hlen := hprefix.length_le
  have hpos := List.length_pos_iff.2 p.text_ne_nil
  simp only [List.length_drop] at hlen
  omega

/-- No placeholder begins before the first one. -/
theorem not_beginsAt_of_find? {s before rest : List Char} {p : Placeholder}
    (h : find? s = some (before, p, rest)) {i : Nat} (hi : i < before.length) :
    ¬BeginsAt s i := by
  induction s generalizing before i with
  | nil => cases h
  | cons c s ih =>
    rcases find?_cons_eq_some_iff.1 h with ⟨rfl, -⟩ | ⟨hread, before, rfl, hfind⟩
    · cases hi
    · cases i with
      | zero => exact not_beginsAt_zero_iff.2 hread
      | succ i => exact ih hfind (Nat.lt_of_succ_lt_succ hi)

theorem not_beginsAt_of_find?_eq_none {s : List Char} (h : find? s = none) (i : Nat) :
    ¬BeginsAt s i := by
  induction s generalizing i with
  | nil => exact fun hbegins => absurd hbegins.lt_length (Nat.not_lt_zero i)
  | cons c s ih =>
    obtain ⟨hread, hfind⟩ := find?_cons_eq_none_iff.1 h
    cases i with
    | zero => exact not_beginsAt_zero_iff.2 hread
    | succ i => exact ih hfind i

/-- Text in which no placeholder begins is passed over, whatever ones begin behind it. -/
theorem find?_append {s t : List Char} (h : ∀ i < s.length, ¬BeginsAt (s ++ t) i) :
    find? (s ++ t) = (find? t).map fun (before, p, rest) => (s ++ before, p, rest) := by
  induction s with
  | nil => simp
  | cons c s ih =>
    have hread : read? (c :: (s ++ t)) = none :=
      not_beginsAt_zero_iff.1 (h 0 (Nat.zero_lt_succ _))
    have hs : ∀ i < s.length, ¬BeginsAt (s ++ t) i := fun i hi => h (i + 1) (Nat.succ_lt_succ hi)
    rw [List.cons_append, find?_of_read?_eq_none hread, ih hs, Option.map_map]
    rfl

theorem head?_text (p : Placeholder) : p.text.head? = some '<' := by
  unfold text
  split <;> rfl

/-- Text without `<` is passed over. -/
theorem find?_append_of_notMem {before : List Char} (h : '<' ∉ before) (s : List Char) :
    find? (before ++ s) = (find? s).map fun (b, p, rest) => (before ++ b, p, rest) := by
  refine find?_append ?_
  rintro i hi ⟨p, -, rest, hrest⟩
  have hopen : (before ++ s)[i]? = some '<' := by
    rw [← List.head?_drop, ← hrest, List.head?_append, head?_text, Option.some_or]
  rw [List.getElem?_append_left hi] at hopen
  exact h (List.mem_of_getElem? hopen)

theorem find?_text {p : Placeholder} (hp : p.WellFormed) (rest : List Char) :
    find? (p.text ++ rest) = some ([], p, rest) := by
  have hread := read?_text hp rest
  obtain ⟨c, s, hs⟩ := List.exists_cons_of_ne_nil (l := p.text ++ rest) (by simp [p.text_ne_nil])
  rw [hs] at hread ⊢
  exact find?_of_read? hread

end Placeholder

/-! ### Segments -/

/-- A literal segment, unless its text is empty. -/
def Segment.ofText (text : List Char) : List Segment :=
  if text.isEmpty then [] else [.literal text]

theorem Segment.mem_ofText {x : Segment} {text : List Char} :
    x ∈ ofText text ↔ x = .literal text ∧ text ≠ [] := by
  cases text <;> simp [ofText]

namespace Scan

variable {s t : Scan} {p : Placeholder} {before rest : List Char}

theorem next_of_pending (h : s.pending = some p) :
    s.next = (some (.placeholder p), ⟨s.template, s.position, none⟩) := by
  simp [next, h]

theorem next_of_find?_nil (hp : s.pending = none)
    (h : Placeholder.find? s.rest = some ([], p, rest)) :
    s.next = (some (.placeholder p), ⟨s.template, s.position + p.text.length, none⟩) := by
  simp [next, h, hp]

theorem next_of_find? (hp : s.pending = none)
    (h : Placeholder.find? s.rest = some (before, p, rest)) (hne : before ≠ []) :
    s.next = (some (.literal before),
      ⟨s.template, s.position + (before.length + p.text.length), some p⟩) := by
  simp [next, h, hp, hne]

theorem next_of_find?_eq_none (hp : s.pending = none) (h : Placeholder.find? s.rest = none) :
    s.next = (if s.rest.isEmpty then none else some (.literal s.rest),
      ⟨s.template, s.template.length, none⟩) := by
  simp [next, h, hp]

theorem rest_advance (s : Scan) (n : Nat) (pending : Option Placeholder) :
    Scan.rest ⟨s.template, s.position + n, pending⟩ = s.rest.drop n := by
  simp [Scan.rest]

/-- What a scan hands out next depends on nothing that stands before its position. -/
theorem next_congr (hrest : s.rest = t.rest) (hpending : s.pending = t.pending) :
    s.next.1 = t.next.1 ∧ s.next.2.rest = t.next.2.rest ∧
      s.next.2.pending = t.next.2.pending := by
  cases hs : s.pending with
  | some p =>
    rw [next_of_pending hs, next_of_pending (hpending ▸ hs)]
    exact ⟨rfl, hrest, rfl⟩
  | none =>
    have ht : t.pending = none := hpending ▸ hs
    cases hfind : Placeholder.find? s.rest with
    | none =>
      rw [next_of_find?_eq_none hs hfind, next_of_find?_eq_none ht (hrest ▸ hfind), hrest]
      exact ⟨rfl, by simp [Scan.rest], rfl⟩
    | some found =>
      obtain ⟨before, p, rest⟩ := found
      by_cases hbefore : before = []
      · subst hbefore
        rw [next_of_find?_nil hs hfind, next_of_find?_nil ht (hrest ▸ hfind)]
        exact ⟨rfl, by simp only [rest_advance, hrest], rfl⟩
      · rw [next_of_find? hs hfind hbefore, next_of_find? ht (hrest ▸ hfind) hbefore]
        exact ⟨rfl, by simp only [rest_advance, hrest], rfl⟩

theorem segments_of_next {s' : Scan} {x : Segment} (h : s.next = (some x, s')) :
    s.segments = x :: s'.segments := by
  rw [segments]
  split
  next y u hy =>
    rw [h] at hy
    simp only [Prod.mk.injEq, Option.some.injEq] at hy
    rw [hy.1, hy.2]
  next u hu => simp [h] at hu

theorem segments_of_next_none {s' : Scan} (h : s.next = (none, s')) : s.segments = [] := by
  rw [segments]
  split
  next y u hy => simp [h] at hy
  next => rfl

theorem segments_congr (hrest : s.rest = t.rest) (hpending : s.pending = t.pending) :
    s.segments = t.segments := by
  induction hn : s.size using Nat.strongRecOn generalizing s t with
  | ind n ih =>
    obtain ⟨hout, hrest', hpending'⟩ := next_congr hrest hpending
    cases hs : s.next with
    | mk x s' =>
      cases ht : t.next with
      | mk y t' =>
        simp only [hs, ht] at hout hrest' hpending'
        subst hout
        cases x with
        | none => rw [segments_of_next_none hs, segments_of_next_none ht]
        | some x =>
          rw [segments_of_next hs, segments_of_next ht,
            ih s'.size (hn ▸ size_next_lt hs) hrest' hpending' rfl]

end Scan

/-- A template without a placeholder is literal. -/
theorem segments_of_find?_eq_none {t : List Char} (h : Placeholder.find? t = none) :
    segments t = Segment.ofText t := by
  have hnext := Scan.next_of_find?_eq_none (s := Scan.start t) rfl h
  have hdone : Scan.segments ⟨t, t.length, none⟩ = [] := by
    have hrest : Scan.rest ⟨t, t.length, none⟩ = [] := List.drop_length
    have hend : Scan.next ⟨t, t.length, none⟩ = (none, ⟨t, t.length, none⟩) := by
      rw [Scan.next_of_find?_eq_none rfl (by rw [hrest]; rfl), hrest]
      rfl
    exact Scan.segments_of_next_none hend
  cases t with
  | nil => exact Scan.segments_of_next_none hnext
  | cons c t => exact (Scan.segments_of_next hnext).trans (congrArg (.literal (c :: t) :: ·) hdone)

/-- A template is the text before its first placeholder, the placeholder and another template. -/
theorem segments_of_find? {t before rest : List Char} {p : Placeholder}
    (h : Placeholder.find? t = some (before, p, rest)) :
    segments t = Segment.ofText before ++ .placeholder p :: segments rest := by
  have hafter : Scan.segments ⟨t, 0 + (before.length + p.text.length), none⟩ = segments rest := by
    refine Scan.segments_congr ?_ rfl
    show t.drop (0 + (before.length + p.text.length)) = rest
    rw [Placeholder.eq_append_of_find? h, ← List.append_assoc, ← List.length_append, Nat.zero_add]
    exact List.drop_left
  by_cases hbefore : before = []
  · subst hbefore
    have hnext := Scan.next_of_find?_nil (s := Scan.start t) rfl h
    rw [List.length_nil, Nat.zero_add] at hafter
    exact (Scan.segments_of_next hnext).trans (by rw [← hafter]; rfl)
  · have hnext := Scan.next_of_find? (s := Scan.start t) rfl h hbefore
    have hpending := Scan.segments_of_next (Scan.next_of_pending
      (s := ⟨t, 0 + (before.length + p.text.length), some p⟩) rfl)
    refine (Scan.segments_of_next hnext).trans ?_
    simp only [Scan.start, hpending, hafter, Segment.ofText, List.isEmpty_iff, hbefore, if_false]
    rfl

theorem segments_text {p : Placeholder} (hp : p.WellFormed) (rest : List Char) :
    segments (p.text ++ rest) = .placeholder p :: segments rest :=
  segments_of_find? (Placeholder.find?_text hp rest)

/-- What is gathered from the segments of a template comes from the text before the first `<` and the
rest of it, if literal text may be cut anywhere. -/
theorem flatMap_segments_append {α : Type} {f : Segment → List α}
    (hnil : f (.literal []) = [])
    (happend : ∀ a b, f (.literal (a ++ b)) = f (.literal a) ++ f (.literal b))
    {text : List Char} (h : '<' ∉ text) (rest : List Char) :
    (segments (text ++ rest)).flatMap f = f (.literal text) ++ (segments rest).flatMap f := by
  have htext (text : List Char) : (Segment.ofText text).flatMap f = f (.literal text) := by
    cases text with
    | nil => exact hnil.symm
    | cons c text => simp [Segment.ofText]
  have hfind := Placeholder.find?_append_of_notMem h rest
  cases hrest : Placeholder.find? rest with
  | none =>
    rw [hrest] at hfind
    rw [segments_of_find?_eq_none hfind, segments_of_find?_eq_none hrest, htext, htext, happend]
  | some found =>
    obtain ⟨before, p, rest'⟩ := found
    rw [hrest] at hfind
    rw [segments_of_find? hfind, segments_of_find? hrest, List.flatMap_append, List.flatMap_append,
      htext, htext, happend, List.append_assoc]

/-- A segment that is read as it is written, whatever stands around it. -/
def Segment.Clear : Segment → Prop
  | .literal text => '<' ∉ text
  | .placeholder p => p.WellFormed

/-- A template of clear segments is read as them, but for cuts in literal text. -/
theorem flatMap_segments_join {α : Type} {f : Segment → List α} (hnil : f (.literal []) = [])
    (happend : ∀ a b, f (.literal (a ++ b)) = f (.literal a) ++ f (.literal b))
    {items : List Segment} (h : ∀ item ∈ items, item.Clear) :
    (segments (Segment.join items)).flatMap f = items.flatMap f := by
  induction items with
  | nil => rw [Segment.join, List.flatMap_nil, segments_of_find?_eq_none rfl]; rfl
  | cons item items ih =>
    simp only [List.mem_cons, forall_eq_or_imp] at h
    rw [List.flatMap_cons, ← ih h.2]
    cases item with
    | literal text => exact flatMap_segments_append hnil happend h.1 _
    | placeholder p =>
      show (segments (p.text ++ Segment.join items)).flatMap f = _
      rw [segments_text h.1, List.flatMap_cons]

/-- Every placeholder of a template is written as the grammar asks. -/
theorem wellFormed_of_mem_segments {t : List Char} {p : Placeholder}
    (h : Segment.placeholder p ∈ segments t) : p.WellFormed := by
  induction t using Placeholder.find?_induction with
  | literal t hfind =>
    rw [segments_of_find?_eq_none hfind, Segment.mem_ofText] at h
    cases h.1
  | placeholder t before q rest hfind ih =>
    rw [segments_of_find? hfind, List.mem_append, Segment.mem_ofText, List.mem_cons] at h
    rcases h with h | h | h
    · cases h.1
    · obtain rfl := Segment.placeholder.inj h
      exact Placeholder.wellFormed_of_find? hfind
    · exact ih h

theorem mem_filterMap_placeholder? {segs : List Segment} {p : Placeholder} :
    p ∈ segs.filterMap Segment.placeholder? ↔ Segment.placeholder p ∈ segs := by
  rw [List.mem_filterMap]
  constructor
  · rintro ⟨seg, hseg, heq⟩
    cases seg with
    | literal text => cases heq
    | placeholder q => exact Option.some.inj heq ▸ hseg
  · exact fun h => ⟨_, h, rfl⟩

theorem mem_placeholders {t : List Char} {p : Placeholder} :
    p ∈ placeholders t ↔ Segment.placeholder p ∈ segments t :=
  mem_filterMap_placeholder?

theorem placeholders_join {items : List Segment} (h : ∀ item ∈ items, item.Clear) :
    placeholders (Segment.join items) = items.filterMap Segment.placeholder? := by
  have hflat (segs : List Segment) : segs.filterMap Segment.placeholder? =
      segs.flatMap fun seg => seg.placeholder?.toList := by
    induction segs with
    | nil => rfl
    | cons seg segs ih =>
      rw [List.flatMap_cons, ← ih]
      cases hseg : seg.placeholder? <;> simp [hseg]
  rw [placeholders, hflat, hflat, flatMap_segments_join rfl (fun _ _ => rfl) h]

end RouteTemplate
