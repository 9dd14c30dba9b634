import RouteTemplate.Regex.Search

/-!
What a node matches, said of the node itself and without a program: from which place of a text to
which, and with which marks on the way.
-/

namespace RouteTemplate.Regex

open Unicode (CharSet)

/-- The ways through a text that a part allows: from where, to where, and the marks made, the last
one first. -/
abbrev Passage := Nat → Nat → Marks → Prop

namespace Passage

def stay : Passage := fun i j made => j = i ∧ made = []

/-- Goes nowhere and marks the place. -/
def mark (slot : Nat) : Passage := fun i j made => j = i ∧ made = [(slot, i)]

/-- One passage after another. -/
def andThen (P Q : Passage) : Passage := fun i k made =>
  ∃ j first second, P i j first ∧ Q j k second ∧ made = second ++ first

def or (P Q : Passage) : Passage := fun i j made => P i j made ∨ Q i j made

/-- A passage a number of times. -/
def iterate (P : Passage) : Nat → Passage
  | 0 => stay
  | n + 1 => P.andThen (P.iterate n)

/-- A passage at least `least` times, and at most `most` times unless that is less. -/
def repeated (P : Passage) (least : Nat) (most : Option Nat) : Passage := fun i j made =>
  ∃ n, least ≤ n ∧ (∀ m ∈ most, n ≤ max least m) ∧ P.iterate n i j made

variable {P Q R : Passage}

@[simp] theorem stay_andThen (P : Passage) : stay.andThen P = P := by
  funext i k made
  simp [andThen, stay, and_assoc]

@[simp] theorem andThen_stay (P : Passage) : P.andThen stay = P := by
  funext i k made
  simp [andThen, stay, and_assoc]

theorem andThen_assoc (P Q R : Passage) : (P.andThen Q).andThen R = P.andThen (Q.andThen R) := by
  funext i l made
  apply propext
  constructor
  · rintro ⟨k, _, third, ⟨j, first, second, hP, hQ, rfl⟩, hR, rfl⟩
    exact ⟨j, first, third ++ second, hP, ⟨k, second, third, hQ, hR, rfl⟩, by simp⟩
  · rintro ⟨j, first, _, hP, ⟨k, second, third, hQ, hR, rfl⟩, rfl⟩
    exact ⟨k, second ++ first, third, ⟨j, first, second, hP, hQ, rfl⟩, hR, by simp⟩

theorem iterate_add (P : Passage) (m n : Nat) :
    P.iterate (m + n) = (P.iterate m).andThen (P.iterate n) := by
  induction m with
  | zero => simp [iterate]
  | succ m ih => rw [Nat.succ_add, iterate, iterate, ih, andThen_assoc]

@[simp] theorem iterate_one (P : Passage) : P.iterate 1 = P := by
  simp [iterate]

theorem iterate_succ_last (P : Passage) (n : Nat) :
    P.iterate (n + 1) = (P.iterate n).andThen P := by
  rw [iterate_add, iterate_one]

theorem repeated_of_le {least m : Nat} (h : m ≤ least) :
    P.repeated least (some m) = P.iterate least := by
  funext i j made
  apply propext
  constructor
  · rintro ⟨n, hleast, hmost, hn⟩
    have := hmost m rfl
    rwa [show n = least by omega] at hn
  · exact fun hn => ⟨least, Nat.le_refl _, fun _ _ => Nat.le_max_left _ _, hn⟩

/-- A passage a fixed number of times and then some more. -/
theorem iterate_andThen_repeated (P : Passage) (k least : Nat) (most : Option Nat) :
    (P.iterate k).andThen (P.repeated least most) = P.repeated (k + least) (most.map (k + ·)) := by
  funext i l made
  apply propext
  constructor
  · rintro ⟨j, first, second, hfirst, ⟨n, hleast, hmost, hn⟩, rfl⟩
    refine ⟨k + n, by omega, ?_, iterate_add P k n ▸ ⟨j, first, second, hfirst, hn, rfl⟩⟩
    intro m hm
    obtain ⟨m', hm', rfl⟩ := Option.map_eq_some_iff.1 hm
    have := hmost m' hm'
    omega
  · rintro ⟨n, hleast, hmost, hn⟩
    obtain ⟨n, rfl⟩ : ∃ d, n = k + d := ⟨n - k, by omega⟩
    obtain ⟨j, first, second, hfirst, hsecond, rfl⟩ := iterate_add P k n ▸ hn
    refine ⟨j, first, second, hfirst, ⟨n, by omega, ?_, hsecond⟩, rfl⟩
    intro m hm
    have := hmost (k + m) (Option.mem_map_of_mem _ hm)
    omega

theorem repeated_zero_none_eq : P.repeated 0 none = (P.repeated 1 none).or stay := by
  funext i j made
  apply propext
  constructor
  · rintro ⟨n, -, -, hn⟩
    cases n with
    | zero => exact .inr hn
    | succ n => exact .inl ⟨n + 1, by omega, by simp, hn⟩
  · rintro (⟨n, -, -, hn⟩ | h)
    · exact ⟨n, by omega, by simp, hn⟩
    · exact ⟨0, by omega, by simp, h⟩

theorem repeated_zero_some_succ (m : Nat) :
    P.repeated 0 (some (m + 1)) = (P.andThen (P.repeated 0 (some m))).or stay := by
  funext i j made
  apply propext
  constructor
  · rintro ⟨n, -, hmost, hn⟩
    cases n with
    | zero => exact .inr hn
    | succ n =>
      obtain ⟨k, first, second, hfirst, hsecond, rfl⟩ := hn
      have := hmost _ rfl
      exact .inl ⟨k, first, second, hfirst, ⟨n, by omega, by simp; omega, hsecond⟩, rfl⟩
  · rintro (⟨k, first, second, hfirst, ⟨n, -, hmost, hn⟩, rfl⟩ | h)
    · have := hmost _ rfl
      exact ⟨n + 1, by omega, by simp; omega, k, first, second, hfirst, hn, rfl⟩
    · exact ⟨0, by omega, by simp, h⟩

theorem repeated_zero_some_zero : P.repeated 0 (some 0) = stay :=
  repeated_of_le (Nat.le_refl 0)

end Passage

namespace Node

/-- The ways through a text that a node allows. -/
def Matches (text : Array Char) : Node → Passage
  | .empty => .stay
  | .set s => fun i j made => j = i + 1 ∧ made = [] ∧ text[i]?.any s.contains
  | .look l => fun i j made => j = i ∧ made = [] ∧ l.holds (charBefore? text i) text[i]?
  | .capture index _ inside =>
    ((Passage.mark (2 * index)).andThen (inside.Matches text)).andThen (.mark (2 * index + 1))
  | .repetition r inside => (inside.Matches text).repeated r.min r.max
  | .seq first second => (first.Matches text).andThen (second.Matches text)
  | .alt first second => (first.Matches text).or (second.Matches text)

theorem matches_set {text : Array Char} {s : CharSet} {i j : Nat} {made : Marks} :
    (set s).Matches text i j made ↔
      ∃ c, text[i]? = some c ∧ s.contains c ∧ j = i + 1 ∧ made = [] := by
  simp only [Matches, Option.any_eq_true]
  exact ⟨fun ⟨hj, hmade, c, hc, hs⟩ => ⟨c, hc, hs, hj, hmade⟩,
    fun ⟨c, hc, hs, hj, hmade⟩ => ⟨hj, hmade, c, hc, hs⟩⟩

theorem contains_singleton {c d : Char} : (CharSet.singleton c).contains d ↔ d = c := by
  rw [CharSet.contains, CharSet.singleton, CharSet.hasCode_interval, ← Char.toNat_inj]
  grind

theorem matches_singleton {text : Array Char} {c : Char} {i j : Nat} {made : Marks} :
    (set (.singleton c)).Matches text i j made ↔ text[i]? = some c ∧ j = i + 1 ∧ made = [] := by
  simp only [matches_set, contains_singleton]
  grind

theorem matches_capture {text : Array Char} {index : Nat} {name : Option (List Char)}
    {inside : Node} {i j : Nat} {made : Marks} :
    (capture index name inside).Matches text i j made ↔
      ∃ inner, inside.Matches text i j inner ∧
        made = (2 * index + 1, j) :: (inner ++ [(2 * index, i)]) := by
  constructor
  · rintro ⟨_, _, _, ⟨_, _, inner, ⟨rfl, rfl⟩, h, rfl⟩, ⟨rfl, rfl⟩, rfl⟩
    exact ⟨inner, h, rfl⟩
  · rintro ⟨inner, h, rfl⟩
    exact ⟨j, inner ++ [(2 * index, i)], [(2 * index + 1, j)],
      ⟨i, [(2 * index, i)], inner, ⟨rfl, rfl⟩, h, rfl⟩, ⟨rfl, rfl⟩, rfl⟩

end Node

/-! ### Bounds and marks -/

namespace Passage

/-- A passage goes forward, inside a text of a certain size, and makes marks of certain slots only. -/
def Keeps (P : Passage) (size : Nat) (slots : Nat → Prop) : Prop :=
  ∀ i j made, P i j made → i ≤ j ∧ (i ≤ size → j ≤ size) ∧ ∀ m ∈ made, slots m.1

variable {P Q : Passage} {size : Nat} {slots : Nat → Prop}

theorem keeps_stay : stay.Keeps size slots := by
  rintro i j made ⟨rfl, rfl⟩
  exact ⟨Nat.le_refl _, id, by simp⟩

theorem Keeps.mono {slots' : Nat → Prop} (hP : P.Keeps size slots)
    (h : ∀ slot, slots slot → slots' slot) : P.Keeps size slots' := fun i j made hmade =>
  let ⟨hle, hsize, hslots⟩ := hP i j made hmade
  ⟨hle, hsize, fun m hm => h m.1 (hslots m hm)⟩

theorem Keeps.andThen (hP : P.Keeps size slots) (hQ : Q.Keeps size slots) :
    (P.andThen Q).Keeps size slots := by
  rintro i k made ⟨j, first, second, hfirst, hsecond, rfl⟩
  obtain ⟨hle, hsize, hslots⟩ := hP _ _ _ hfirst
  obtain ⟨hle', hsize', hslots'⟩ := hQ _ _ _ hsecond
  refine ⟨Nat.le_trans hle hle', fun h => hsize' (hsize h), fun m hm => ?_⟩
  exact (List.mem_append.1 hm).elim (hslots' m) (hslots m)

theorem Keeps.or (hP : P.Keeps size slots) (hQ : Q.Keeps size slots) : (P.or Q).Keeps size slots :=
  fun i j made h => h.elim (hP i j made) (hQ i j made)

theorem Keeps.iterate (hP : P.Keeps size slots) (n : Nat) : (P.iterate n).Keeps size slots := by
  induction n with
  | zero => exact keeps_stay
  | succ n ih => exact hP.andThen ih

end Passage

namespace Node

/-- A match goes forward inside the text and marks the ends of the groups of the node only. -/
theorem keeps_matches (text : Array Char) (n : Node) : (n.Matches text).Keeps text.size
    fun slot => ∃ g ∈ n.groups, slot = 2 * g.1 ∨ slot = 2 * g.1 + 1 := by
  induction n with
  | empty => exact Passage.keeps_stay
  | set s =>
    intro i j made h
    obtain ⟨c, hc, -, rfl, rfl⟩ := matches_set.1 h
    have := (Array.getElem?_eq_some_iff.1 hc).1
    exact ⟨by omega, fun _ => this, by simp⟩
  | look l =>
    rintro i j made ⟨rfl, rfl, -⟩
    exact ⟨Nat.le_refl _, id, by simp⟩
  | capture index name inside ih =>
    intro i j made h
    obtain ⟨inner, hinner, rfl⟩ := matches_capture.1 h
    obtain ⟨hle, hsize, hslots⟩ := ih i j inner hinner
    refine ⟨hle, hsize, fun m hm => ?_⟩
    simp only [List.mem_cons, List.mem_append, List.not_mem_nil, or_false] at hm
    rcases hm with rfl | hm | rfl
    · exact ⟨(index, name), List.mem_cons_self, .inr rfl⟩
    · obtain ⟨g, hg, hslot⟩ := hslots m hm
      exact ⟨g, List.mem_cons_of_mem _ hg, hslot⟩
    · exact ⟨(index, name), List.mem_cons_self, .inl rfl⟩
  | repetition r inside ih =>
    rintro i j made ⟨n, -, -, h⟩
    exact ih.iterate n i j made h
  | seq first second ih1 ih2 =>
    exact (ih1.mono fun _ ⟨g, hg, h⟩ => ⟨g, List.mem_append_left _ hg, h⟩).andThen
      (ih2.mono fun _ ⟨g, hg, h⟩ => ⟨g, List.mem_append_right _ hg, h⟩)
  | alt first second ih1 ih2 =>
    exact (ih1.mono fun _ ⟨g, hg, h⟩ => ⟨g, List.mem_append_left _ hg, h⟩).or
      (ih2.mono fun _ ⟨g, hg, h⟩ => ⟨g, List.mem_append_right _ hg, h⟩)

theorem matches_ofFactors_cons (text : Array Char) (n : Node) (ns : List Node) :
    (ofFactors (n :: ns)).Matches text = (n.Matches text).andThen ((ofFactors ns).Matches text) := by
  cases ns with
  | nil => exact (Passage.andThen_stay _).symm
  | cons m ns => rfl

end Node

/-! ### Stretches of a text -/

theorem extract_append {text : Array Char} {i j k : Nat} (hij : i ≤ j) (hjk : j ≤ k) :
    (text.extract i j).toList ++ (text.extract j k).toList = (text.extract i k).toList := by
  rw [← Array.toList_append, Array.extract_append_extract, Nat.min_eq_left hij, Nat.max_eq_right hjk]

theorem extract_succ {text : Array Char} {i : Nat} {c : Char} (h : text[i]? = some c) :
    (text.extract i (i + 1)).toList = [c] := by
  obtain ⟨hlt, rfl⟩ := Array.getElem?_eq_some_iff.1 h
  rw [Array.extract_succ_right (Nat.lt_succ_self i) hlt, Array.extract_eq_empty_of_le (by omega)]
  rfl

theorem extract_self (text : Array Char) (i : Nat) : (text.extract i i).toList = [] := by
  simp

/-! ### Repetitions of a set -/

/-- A text of characters of a set, as many as a repetition admits. -/
structure Admits (r : Repetition) (set : CharSet) (v : List Char) : Prop where
  min_le : r.min ≤ v.length
  le_max : ∀ m ∈ r.max, v.length ≤ max r.min m
  all_mem : ∀ c ∈ v, set.contains c

namespace Node

/-- A node matches a text as a whole, wherever it stands. -/
def MatchesAnywhere (n : Node) (v : List Char) : Prop :=
  ∀ before after, ∃ made,
    n.Matches (before ++ (v ++ after)).toArray before.length (before.length + v.length) made

theorem all_mem_of_iterate {text : Array Char} {set : CharSet} {k i j : Nat} {made : Marks}
    (h : (((Node.set set).Matches text).iterate k) i j made) :
    j = i + k ∧ made = [] ∧ (text.extract i j).toList.length = k ∧
      ∀ c ∈ (text.extract i j).toList, set.contains c := by
  induction k generalizing i made with
  | zero =>
    obtain ⟨rfl, rfl⟩ := h
    simp
  | succ k ih =>
    obtain ⟨i', first, second, hfirst, hsecond, rfl⟩ := h
    obtain ⟨c, hc, hmem, rfl, rfl⟩ := matches_set.1 hfirst
    obtain ⟨rfl, rfl, hlength, hall⟩ := ih hsecond
    have heq : (text.extract i (i + 1 + k)).toList =
        c :: (text.extract (i + 1) (i + 1 + k)).toList := by
      rw [← extract_append (Nat.le_succ i) (Nat.le_add_right _ k), extract_succ hc]
      rfl
    refine ⟨by omega, rfl, by rw [heq, List.length_cons, hlength], ?_⟩
    rw [heq]
    simpa [hmem] using hall

theorem iterate_of_all_mem {set : CharSet} {v : List Char} (h : ∀ c ∈ v, set.contains c)
    (before after : List Char) :
    (((Node.set set).Matches (before ++ (v ++ after)).toArray).iterate v.length)
      before.length (before.length + v.length) [] := by
  induction v generalizing before with
  | nil => exact ⟨rfl, rfl⟩
  | cons c v ih =>
    simp only [List.mem_cons, forall_eq_or_imp] at h
    have hrest := ih h.2 (before ++ [c])
    simp only [List.append_assoc, List.singleton_append, List.length_append,
      List.length_singleton] at hrest
    refine ⟨before.length + 1, [], [], matches_set.2 ⟨c, by simp, h.1, rfl, rfl⟩, ?_, rfl⟩
    rw [List.length_cons, Nat.add_comm v.length, ← Nat.add_assoc]
    exact hrest

theorem admits_of_matches {r : Repetition} {set : CharSet} {text : Array Char} {i j : Nat}
    {made : Marks} (h : (repetition r (.set set)).Matches text i j made) :
    Admits r set (text.extract i j).toList := by
  obtain ⟨k, hmin, hmax, h⟩ := h
  obtain ⟨-, -, hlength, hall⟩ := all_mem_of_iterate h
  exact ⟨by omega, by rwa [hlength], hall⟩

theorem matchesAnywhere_of_admits {r : Repetition} {set : CharSet} {v : List Char}
    (h : Admits r set v) : (repetition r (.set set)).MatchesAnywhere v := fun before after =>
  ⟨[], v.length, h.min_le, h.le_max, iterate_of_all_mem h.all_mem before after⟩

end Node

end RouteTemplate.Regex
