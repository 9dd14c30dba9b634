import RouteTemplate.Unicode.Property

/-!
Characters by their general categories. The properties are put together from sets of whole categories and
short lists, with ASCII written out; here they are taken apart again. What the later edition adds
to the letters and digits has no category in the tables yet.
-/

namespace RouteTemplate

namespace Unicode

open Category (charsIn ofChar ofCode)

/-! ### Sets by category -/

namespace Category

theorem hasCode_charsIn (p : Category → Bool) {n : Nat} (h : n ≤ CodeRange.maxCode) :
    (charsIn p).hasCode n = p (ofCode n) := by
  have hlength : runsLength runs = CodeRange.maxCode + 1 := by decide +kernel
  rw [charsIn, CharSet.hasCode, CharSet.any_contains_coalesce]
  exact any_contains_rangesWhere p 0 runs n (Nat.zero_le n) (by omega)

theorem hasCode_charsIn_of_lt (p : Category → Bool) {n : Nat} (h : n < 128) :
    (charsIn p).hasCode n = p (ofCode n) :=
  hasCode_charsIn p (Nat.le_trans (Nat.le_of_lt h) (by decide : 128 ≤ CodeRange.maxCode))

/-- A range lies in the run that begins at `start`, and the category of that run passes a test. -/
def covered (p : Category → Bool) (start : Nat) (run : Category × Nat) (r : CodeRange) : Bool :=
  decide (start ≤ r.lo ∧ r.hi < start + run.2) && p run.1

/-- Goes through runs and drops the ranges that they cover, until there are none left. -/
def coversAll (p : Category → Bool) : Nat → List (Category × Nat) → List CodeRange → Bool
  | _, [], ranges => ranges.isEmpty
  | start, run :: rest, ranges =>
    match ranges.dropWhile (covered p start run) with
    | [] => true
    | r :: ranges => coversAll p (start + run.2) rest (r :: ranges)

theorem test_of_coversAll {p : Category → Bool} {start : Nat} {l : List (Category × Nat)}
    {ranges : List CodeRange} (h : coversAll p start l ranges) {r : CodeRange} (hr : r ∈ ranges) {n : Nat}
    (hn : r.contains n) : start ≤ n ∧ p (inRuns start l n) := by
  simp only [CodeRange.contains, Bool.and_eq_true, decide_eq_true_eq] at hn
  induction l generalizing start ranges with
  | nil =>
    rw [coversAll, List.isEmpty_iff] at h
    exact absurd hr (h ▸ List.not_mem_nil)
  | cons run rest ih =>
    have hsplit : r ∈ ranges.takeWhile (covered p start run) ∨
        r ∈ ranges.dropWhile (covered p start run) := by
      rwa [← List.mem_append, List.takeWhile_append_dropWhile]
    rcases hsplit with hmem | hmem
    · have hcovered := List.all_eq_true.1 List.all_takeWhile r hmem
      simp only [covered, Bool.and_eq_true, decide_eq_true_eq] at hcovered
      refine ⟨by omega, ?_⟩
      rw [inRuns, if_pos (by omega)]
      exact hcovered.2
    · rw [coversAll] at h
      split at h
      next hdrop => exact absurd hmem (hdrop ▸ List.not_mem_nil)
      next hdrop =>
        obtain ⟨hle, htest⟩ := ih h (hdrop ▸ hmem)
        refine ⟨by omega, ?_⟩
        rwa [inRuns, if_neg (by omega)]

end Category

namespace CharSet

/-- What agrees with a set on ASCII may be put in its place there. -/
theorem hasCode_splice {low high : CharSet} (hlow : low.isAscii)
    (h : ∀ n < 128, low.hasCode n = high.hasCode n) (n : Nat) :
    (splice low high).hasCode n = high.hasCode n := by
  rcases Nat.lt_or_ge n 128 with hlt | hge
  · rw [hasCode_splice_of_lt low high hlt, h n hlt]
  · have habove : low.hasCode n = false := by
      refine List.any_eq_false.2 fun r hr => ?_
      have := of_decide_eq_true (List.all_eq_true.1 hlow r hr)
      simp only [CodeRange.contains, Bool.and_eq_true, decide_eq_true_eq]
      omega
    have hascii : (⟨[⟨0, 0x7F⟩]⟩ : CharSet).hasCode n = false := by
      simp [hasCode, CodeRange.contains]
      omega
    simp only [splice, aboveAscii, hasCode_union, hasCode_difference, habove, hascii]
    simp

end CharSet

/-- The ASCII parts of the properties agree with the categories. -/
theorem ascii_categories : ∀ n < 128,
    asciiDigits.hasCode n = (ofCode n).isNumber ∧
      asciiLetters.hasCode n = ((ofCode n).isLetter || ofCode n == .nl || (otherLowercase.hasCode n ||
        (otherUppercase.hasCode n || otherAlphabetic.hasCode n))) ∧
      asciiWordChars.hasCode n = (asciiLetters.hasCode n ||
        (((ofCode n).isMark || ofCode n == .nd || ofCode n == .pc) || joinControl.hasCode n)) := by
  decide +kernel

/-! ### Characters by category -/

variable {c : Char}

theorem contains_charsIn (p : Category → Bool) (c : Char) : (charsIn p).contains c = p (ofChar c) := by
  refine Category.hasCode_charsIn p ?_
  have := c.valid
  simp only [UInt32.isValidChar, Nat.isValidChar] at this
  simp only [CodeRange.maxCode, Char.toNat]
  omega

theorem contains_numbers : numbers.contains c = (ofChar c).isNumber := by
  rw [← contains_charsIn Category.isNumber]
  refine CharSet.hasCode_splice (by decide) (fun n hn => ?_) c.toNat
  rw [(ascii_categories n hn).1, Category.hasCode_charsIn_of_lt _ hn]

theorem contains_alphabetic : alphabetic.contains c = ((ofChar c).isLetter || ofChar c == .nl ||
    (otherLowercase.contains c || (otherUppercase.contains c || otherAlphabetic.contains c))) := by
  rw [← contains_charsIn fun g => g.isLetter || g == .nl]
  refine (CharSet.hasCode_splice (by decide) (fun n hn => ?_) c.toNat).trans ?_
  · rw [(ascii_categories n hn).2.1, CharSet.hasCode_unions]
    simp [Category.hasCode_charsIn_of_lt _ hn]
  · simp [CharSet.contains]

theorem isWord_iff : isWord c ↔ alphabetic.contains c ∨ (ofChar c).isMark ∨ ofChar c = .nd ∨
    ofChar c = .pc ∨ joinControl.contains c := by
  have heq : isWord c = (alphabetic.contains c ||
      (((ofChar c).isMark || ofChar c == .nd || ofChar c == .pc) || joinControl.contains c)) := by
    rw [← contains_charsIn fun g => g.isMark || g == .nd || g == .pc]
    refine (CharSet.hasCode_splice (by decide) (fun n hn => ?_) c.toNat).trans ?_
    · rw [(ascii_categories n hn).2.2, CharSet.hasCode_unions, alphabetic]
      simp [CharSet.hasCode_splice_of_lt _ _ hn, Category.hasCode_charsIn_of_lt _ hn]
    · simp [CharSet.contains]
  simp [heq, or_assoc]

theorem isAlphabetic_iff : isAlphabetic c ↔ alphabetic.contains c ∨ Later.alphabetic.contains c :=
  Bool.or_eq_true_iff

/-- Numbers that are letters are alphabetic. -/
theorem isAlphanumeric_iff : isAlphanumeric c ↔
    isAlphabetic c ∨ ofChar c = .nd ∨ ofChar c = .no ∨ Later.digits.contains c := by
  have hletter : ofChar c = .nl → isAlphabetic c := by
    intro h
    simp [isAlphabetic, contains_alphabetic, h]
  rw [isAlphanumeric, contains_numbers]
  cases hcategory : ofChar c <;> simp_all [Category.isNumber]

/-- Joiners are formats. -/
theorem ofChar_of_joinControl (h : joinControl.contains c) : ofChar c = .cf := by
  have hcode : c.toNat = 0x200C ∨ c.toNat = 0x200D := by
    simp only [CharSet.contains, CharSet.hasCode, joinControl, CodeRange.contains, List.any_cons,
      List.any_nil, Bool.or_false, Bool.and_eq_true, decide_eq_true_eq] at h
    omega
  rcases hcode with hcode | hcode <;> rw [ofChar, hcode] <;> decide +kernel

/-- What was added later has no category yet. -/
theorem ofChar_of_later (h : Later.alphabetic.contains c ∨ Later.digits.contains c) :
    ofChar c = .cn := by
  have hcovers : Category.coversAll (· == .cn) 0 Category.runs
      (Later.alphabetic.union Later.digits).ranges := by decide +kernel
  have hcontains : (Later.alphabetic.union Later.digits).contains c := by
    simpa [CharSet.contains] using h
  obtain ⟨r, hr, hn⟩ := List.any_eq_true.1 hcontains
  exact eq_of_beq (Category.test_of_coversAll hcovers hr hn).2

theorem ofChar_underscore : ofChar '_' = .pc := by decide +kernel

end Unicode

end RouteTemplate
