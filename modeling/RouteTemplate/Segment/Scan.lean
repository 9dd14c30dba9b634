import RouteTemplate.Segment.Basic
import RouteTemplate.Unicode.Property

/-!
Scanning a template for its segments. A name is a row of word characters, and a pattern is all that
stands before the next `>`; text that begins like a placeholder and does not end like one is literal.
A scan hands out one segment at a time. It holds back a placeholder while the literal text before it
is handed out.
-/

namespace RouteTemplate

/-! ### Placeholders -/

/-- Reads a placeholder that stands at the beginning. -/
def Placeholder.read? : List Char → Option (Placeholder × List Char)
  | '<' :: s =>
    match s.takeWhile Unicode.isWord, s.dropWhile Unicode.isWord with
    | c :: name, '>' :: rest => some (⟨c :: name, none⟩, rest)
    | c :: name, ':' :: s =>
      match s.takeWhile (· ≠ '>'), s.dropWhile (· ≠ '>') with
      | d :: pattern, '>' :: rest => some (⟨c :: name, some (d :: pattern)⟩, rest)
      | _, _ => none
    | _, _ => none
  | _ => none

/-- The first placeholder, with the text before it and after it. -/
def Placeholder.find? : List Char → Option (List Char × Placeholder × List Char)
  | [] => none
  | c :: s =>
    match read? (c :: s) with
    | some (p, rest) => some ([], p, rest)
    | none => (find? s).map fun (before, p, rest) => (c :: before, p, rest)

namespace Placeholder

theorem eq_append_of_read? {s rest : List Char} {p : Placeholder} (h : read? s = some (p, rest)) :
    s = p.text ++ rest := by
  unfold read? at h
  split at h
  next s =>
    have hs : s.takeWhile Unicode.isWord ++ s.dropWhile Unicode.isWord = s :=
      List.takeWhile_append_dropWhile
    split at h
    next c name rest hname hrest =>
      simp only [Option.some.injEq, Prod.mk.injEq] at h
      obtain ⟨rfl, rfl⟩ := h
      rw [← hs, hname, hrest]
      simp [text]
    next c name s' hname hrest =>
      have hs' : s'.takeWhile (· ≠ '>') ++ s'.dropWhile (· ≠ '>') = s' :=
        List.takeWhile_append_dropWhile
      split at h
      next d pattern rest hpattern hrest' =>
        simp only [Option.some.injEq, Prod.mk.injEq] at h
        obtain ⟨rfl, rfl⟩ := h
        rw [← hs, hname, hrest, ← hs', hpattern, hrest']
        simp [text]
      next => simp at h
    next => simp at h
  next => simp at h

theorem eq_append_of_find? {s before rest : List Char} {p : Placeholder}
    (h : find? s = some (before, p, rest)) : s = before ++ (p.text ++ rest) := by
  induction s generalizing before with
  | nil => simp [find?] at h
  | cons c s ih =>
    unfold find? at h
    split at h
    next hread =>
      simp only [Option.some.injEq, Prod.mk.injEq] at h
      obtain ⟨rfl, rfl, rfl⟩ := h
      simpa using eq_append_of_read? hread
    next =>
      obtain ⟨⟨before, p, rest⟩, hfind, heq⟩ := Option.map_eq_some_iff.1 h
      simp only [Prod.mk.injEq] at heq
      obtain ⟨rfl, rfl, rfl⟩ := heq
      simp [ih hfind]

theorem text_ne_nil (p : Placeholder) : p.text ≠ [] := by
  unfold text
  split <;> simp

end Placeholder

/-! ### Scans -/

/-- How far a template has been read, and the placeholder that was read but not handed out. -/
structure Scan where
  template : List Char
  position : Nat
  pending : Option Placeholder
  deriving DecidableEq, Repr, Inhabited

namespace Scan

def start (template : List Char) : Scan := ⟨template, 0, none⟩

/-- The part of the template that has not been read. -/
def rest (s : Scan) : List Char := s.template.drop s.position

/-- Hands out the next segment. -/
def next (s : Scan) : Option Segment × Scan :=
  match s.pending with
  | some p => (some (.placeholder p), { s with pending := none })
  | none =>
    match Placeholder.find? s.rest with
    | some (before, p, _) =>
      let s := { s with position := s.position + (before.length + p.text.length) }
      if before.isEmpty then (some (.placeholder p), s)
      else (some (.literal before), { s with pending := some p })
    | none =>
      (if s.rest.isEmpty then none else some (.literal s.rest),
        { s with position := s.template.length })

/-- How much there is left to do: the rest to be read, and what is held back. -/
def size (s : Scan) : Nat := 2 * s.rest.length + s.pending.toList.length

theorem size_next_lt {s s' : Scan} {x : Segment} (h : s.next = (some x, s')) :
    s'.size < s.size := by
  unfold next at h
  split at h
  next p hp =>
    simp only [Prod.mk.injEq] at h
    obtain ⟨-, rfl⟩ := h
    simp [size, rest, hp]
  next hp =>
    split at h
    next before p rest hfind =>
      have hlen := congrArg List.length (Placeholder.eq_append_of_find? hfind)
      have hpos := List.length_pos_iff.2 p.text_ne_nil
      simp only [Scan.rest, List.length_drop, List.length_append] at hlen
      split at h
      all_goals
        simp only [Prod.mk.injEq] at h
        obtain ⟨-, rfl⟩ := h
        simp [size, Scan.rest, hp]
        omega
    next hfind =>
      simp only [Prod.mk.injEq] at h
      obtain ⟨hx, rfl⟩ := h
      split at hx
      · simp at hx
      next hne =>
        have hpos : 0 < s.rest.length :=
          List.length_pos_iff.2 (by simpa [List.isEmpty_iff] using hne)
        simp only [Scan.rest, List.length_drop] at hpos
        simp [size, Scan.rest, hp]
        omega

/-- All segments that are still to be handed out. -/
def segments (s : Scan) : List Segment :=
  match _h : s.next with
  | (some x, s') => x :: s'.segments
  | (none, _) => []
  termination_by s.size
  decreasing_by exact size_next_lt _h

end Scan

/-- The segments of a template, in order. -/
def segments (template : List Char) : List Segment := (Scan.start template).segments

/-- The placeholders of a template, in order. -/
def placeholders (template : List Char) : List Placeholder :=
  (segments template).filterMap Segment.placeholder?

end RouteTemplate
