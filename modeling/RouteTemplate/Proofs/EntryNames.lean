import RouteTemplate.Proofs.Characters
import RouteTemplate.Proofs.ExpandCommand

/-!
The names that entries on the command line define, and the names of placeholders. Both may be made of letters,
decimal digits and underscores. An entry takes all that is alphanumeric, and a placeholder all that patterns
take for a part of words, and there they part: other numbers, and what was added to the letters and
digits later, are in the names of entries only; marks, connectors and joiners that are no letters are in those
of placeholders only.
-/

namespace RouteTemplate

namespace Unicode

open Category (ofChar)

variable {c : Char}

/-! ### Where the names part -/

/-- A character of entries' names that patterns take for no part of words: a number that is no decimal
digit, or a letter or digit that was added later. -/
def EntryOnly (c : Char) : Prop :=
  ¬alphabetic.contains c ∧ (ofChar c = .no ∨ Later.alphabetic.contains c ∨ Later.digits.contains c)

/-- A character of placeholders' names that is not alphanumeric: a mark, a connector other than the
underscore, or a joiner. -/
def PlaceholderOnly (c : Char) : Prop :=
  ¬isAlphabetic c ∧ c ≠ '_' ∧ ((ofChar c).isMark ∨ ofChar c = .pc ∨ joinControl.contains c)

theorem isWord_iff_of_entry (h : isAlphanumeric c ∨ c = '_') : isWord c ↔ ¬EntryOnly c := by
  rw [isWord_iff]
  constructor
  · rintro hword ⟨halphabetic, honly⟩
    have hcategory : ofChar c = .no ∨ ofChar c = .cn := honly.imp_right ofChar_of_later
    rcases hword with hc | hc | hc | hc | hc
    · exact halphabetic hc
    · rcases hcategory with hcategory | hcategory <;> simp [hcategory, Category.isMark] at hc
    · simp [hc] at hcategory
    · simp [hc] at hcategory
    · simp [ofChar_of_joinControl hc] at hcategory
  · intro honly
    by_cases halphabetic : alphabetic.contains c
    · exact .inl halphabetic
    · have hnot : ¬(ofChar c = .no ∨ Later.alphabetic.contains c ∨ Later.digits.contains c) :=
        fun hc => honly ⟨halphabetic, hc⟩
      rcases h with h | rfl
      · rcases isAlphanumeric_iff.1 h with hc | hc | hc | hc
        · exact absurd (.inr (.inl ((isAlphabetic_iff.1 hc).resolve_left halphabetic))) hnot
        · exact .inr (.inr (.inl hc))
        · exact absurd (.inl hc) hnot
        · exact absurd (.inr (.inr hc)) hnot
      · exact .inr (.inr (.inr (.inl ofChar_underscore)))

theorem entry_iff_of_isWord (h : isWord c) : isAlphanumeric c ∨ c = '_' ↔ ¬PlaceholderOnly c := by
  rw [isAlphanumeric_iff]
  constructor
  · rintro hentry ⟨halphabetic, hunderscore, honly⟩
    have hcategory : ofChar c = .nd ∨ ofChar c = .no ∨ ofChar c = .cn := by
      rcases hentry.resolve_right hunderscore with hc | hc | hc | hc
      · exact absurd hc halphabetic
      · exact .inl hc
      · exact .inr (.inl hc)
      · exact .inr (.inr (ofChar_of_later (.inr hc)))
    rcases honly with hc | hc | hc
    · rcases hcategory with hcategory | hcategory | hcategory <;>
        simp [hcategory, Category.isMark] at hc
    · simp [hc] at hcategory
    · simp [ofChar_of_joinControl hc] at hcategory
  · intro honly
    by_cases hentry : isAlphabetic c ∨ c = '_'
    · exact hentry.imp_left .inl
    · obtain ⟨halphabetic, hunderscore⟩ := not_or.1 hentry
      have hnot : ¬((ofChar c).isMark ∨ ofChar c = .pc ∨ joinControl.contains c) :=
        fun hc => honly ⟨halphabetic, hunderscore, hc⟩
      rcases isWord_iff.1 h with hc | hc | hc | hc | hc
      · exact absurd (isAlphabetic_iff.2 (.inl hc)) halphabetic
      · exact absurd (.inl hc) hnot
      · exact .inl (.inr (.inl hc))
      · exact absurd (.inr (.inl hc)) hnot
      · exact absurd (.inr (.inr hc)) hnot

end Unicode

namespace CommandLine

/-! ### Names -/

variable {name fragment : List Char}

theorem parseEntry?_eq_some_iff :
    parseEntry? (name ++ '=' :: fragment) = some (name, fragment) ↔
      name ≠ [] ∧ ∀ c ∈ name, Unicode.isAlphanumeric c ∨ c = '_' := by
  rw [← denotes_iff]
  exact ⟨fun h => ⟨h.nonempty, h.word⟩, fun h => ⟨rfl, h.1, h.2⟩⟩

theorem segments_name_iff : segments ('<' :: name ++ ['>']) = [.placeholder ⟨name, none⟩] ↔
    name ≠ [] ∧ ∀ c ∈ name, Unicode.isWord c := by
  constructor
  · intro h
    have hp := wellFormed_of_mem_segments (h ▸ List.mem_singleton_self _)
    exact ⟨hp.name_ne_nil, hp.name_word⟩
  · intro h
    have hp : Placeholder.WellFormed ⟨name, none⟩ := ⟨h.1, h.2, by simp, by simp⟩
    have hsegments := segments_text hp []
    rwa [List.append_nil, segments_of_find?_eq_none (t := []) rfl] at hsegments

/-- The names of entries and of placeholders are the same but for the characters that only the ones or only the
others may have: an entry's name is one of a placeholder exactly if it has none of the first kind, and a
placeholder's name one of an entry exactly if it has none of the second kind. -/
theorem entry_and_placeholder_iff (name fragment : List Char) :
    ( parseEntry? (name ++ '=' :: fragment) = some (name, fragment) ∧
        segments ('<' :: name ++ ['>']) = [.placeholder ⟨name, none⟩] ↔
      parseEntry? (name ++ '=' :: fragment) = some (name, fragment) ∧
        ∀ c ∈ name, ¬Unicode.EntryOnly c) ∧
    ( parseEntry? (name ++ '=' :: fragment) = some (name, fragment) ∧
        segments ('<' :: name ++ ['>']) = [.placeholder ⟨name, none⟩] ↔
      segments ('<' :: name ++ ['>']) = [.placeholder ⟨name, none⟩] ∧
        ∀ c ∈ name, ¬Unicode.PlaceholderOnly c) := by
  rw [parseEntry?_eq_some_iff, segments_name_iff]
  constructor
  · refine and_congr_right fun hentry => ?_
    rw [and_iff_right hentry.1]
    exact forall₂_congr fun c hc => Unicode.isWord_iff_of_entry (hentry.2 c hc)
  · rw [and_comm]
    refine and_congr_right fun hplaceholder => ?_
    rw [and_iff_right hplaceholder.1]
    exact forall₂_congr fun c hc => Unicode.entry_iff_of_isWord (hplaceholder.2 c hc)

/-- A raised two may be defined and is no placeholder; a tie is one and may not be defined. -/
theorem entry_and_placeholder_differ :
    ( parseEntry? (['²'] ++ '=' :: ['x']) = some (['²'], ['x']) ∧
        segments ('<' :: ['²'] ++ ['>']) ≠ [.placeholder ⟨['²'], none⟩]) ∧
      ( parseEntry? (['‿'] ++ '=' :: ['x']) ≠ some (['‿'], ['x']) ∧
        segments ('<' :: ['‿'] ++ ['>']) = [.placeholder ⟨['‿'], none⟩]) := by
  have hnumber : Unicode.Category.ofChar '²' = .no := by decide +kernel
  have hconnector : Unicode.Category.ofChar '‿' = .pc := by decide +kernel
  have htwo : ¬Unicode.alphabetic.contains '²' := by
    rw [Unicode.contains_alphabetic, hnumber]
    decide +kernel
  have htie : ¬Unicode.isAlphabetic '‿' := by
    rw [Unicode.isAlphabetic_iff, Unicode.contains_alphabetic, hconnector]
    decide +kernel
  have hentry : Unicode.isAlphanumeric '²' := Unicode.isAlphanumeric_iff.2 (.inr (.inr (.inl hnumber)))
  have hplaceholder : Unicode.isWord '‿' :=
    Unicode.isWord_iff.2 (.inr (.inr (.inr (.inl hconnector))))
  rw [ne_eq, ne_eq, parseEntry?_eq_some_iff, parseEntry?_eq_some_iff, segments_name_iff,
    segments_name_iff]
  simp only [List.mem_singleton, forall_eq]
  refine ⟨⟨⟨by simp, .inl hentry⟩, fun h => ?_⟩, fun h => ?_, by simp, hplaceholder⟩
  · exact (Unicode.isWord_iff_of_entry (.inl hentry)).1 h.2 ⟨htwo, .inl hnumber⟩
  · exact (Unicode.entry_iff_of_isWord hplaceholder).1 h.2 ⟨htie, by decide, .inr (.inl hconnector)⟩

end CommandLine

end RouteTemplate
