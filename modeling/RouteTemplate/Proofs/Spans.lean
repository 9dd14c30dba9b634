import RouteTemplate.Proofs.Matching
import RouteTemplate.Proofs.Naming

/-!
Where the groups of a match lie. Each time a match goes through a group, it marks where it enters and where it
leaves, and between these marks are those of a match of what is inside. The last time counts. A group
through which a match never goes is not marked at all, and has no place.
-/

namespace RouteTemplate.Regex

/-- A group is nowhere entered or left. -/
def Unmarked (g : Nat) (made : Marks) : Prop := ∀ m ∈ made, m.1 ≠ 2 * g ∧ m.1 ≠ 2 * g + 1

/-- The last time that a group is gone through is from one place to another: between the marks of these
places are those of a match of one of the given insides of groups, and after them the group is not
entered again. -/
def Spans (insides : List (Nat × Node)) (text : Array Char) (made : Marks) (g start stop : Nat) : Prop :=
  ∃ inside later inner earlier, (g, inside) ∈ insides ∧ inside.Matches text start stop inner ∧
    made = later ++ (2 * g + 1, stop) :: (inner ++ (2 * g, start) :: earlier) ∧
    Unmarked g later ∧ Unmarked g inner

section

variable {g start stop : Nat} {made first second : Marks} {insides insides' : List (Nat × Node)}
  {text : Array Char}

theorem unmarked_append : Unmarked g (second ++ first) ↔ Unmarked g second ∧ Unmarked g first :=
  List.forall_mem_append

theorem Spans.mono (h : Spans insides text made g start stop) (hsub : insides ⊆ insides') :
    Spans insides' text made g start stop := by
  obtain ⟨inside, later, inner, earlier, hinside, h⟩ := h
  exact ⟨inside, later, inner, earlier, hsub hinside, h⟩

theorem Spans.append_left (h : Spans insides text first g start stop) (hsecond : Unmarked g second) :
    Spans insides text (second ++ first) g start stop := by
  obtain ⟨inside, later, inner, earlier, hinside, hmatch, rfl, hlater, hinner⟩ := h
  refine ⟨inside, second ++ later, inner, earlier, hinside, hmatch, ?_, ?_, hinner⟩
  · rw [List.append_assoc]
  · exact unmarked_append.2 ⟨hsecond, hlater⟩

theorem Spans.append_right (h : Spans insides text second g start stop) (first : Marks) :
    Spans insides text (second ++ first) g start stop := by
  obtain ⟨inside, later, inner, earlier, hinside, hmatch, rfl, hlater, hinner⟩ := h
  exact ⟨inside, later, inner, earlier ++ first, hinside, hmatch, by simp, hlater, hinner⟩

theorem Spans.lookup_eq (h : Spans insides text made g start stop) :
    made.lookup (2 * g) = some start ∧ made.lookup (2 * g + 1) = some stop := by
  obtain ⟨inside, later, inner, earlier, -, -, rfl, hlater, hinner⟩ := h
  exact lookup_group (by omega) hinner hlater earlier

end

/-! ### Groups of a passage -/

namespace Passage

/-- Every way of a passage either leaves a group alone or goes through it somewhere between its own
ends. -/
def Places (P : Passage) (text : Array Char) (insides : List (Nat × Node)) (g : Nat) : Prop :=
  ∀ i j made, P i j made → i ≤ j ∧ (Unmarked g made ∨
    ∃ start stop, Spans insides text made g start stop ∧ i ≤ start ∧ start ≤ stop ∧ stop ≤ j)

variable {P Q : Passage} {text : Array Char} {insides insides' : List (Nat × Node)} {g : Nat}

theorem places_stay : stay.Places text insides g := by
  rintro i j made ⟨rfl, rfl⟩
  exact ⟨Nat.le_refl _, .inl (by simp [Unmarked])⟩

theorem Places.mono (hP : P.Places text insides g) (h : insides ⊆ insides') :
    P.Places text insides' g := by
  intro i j made hmade
  obtain ⟨hle, hfree | ⟨start, stop, hspans, hbounds⟩⟩ := hP i j made hmade
  · exact ⟨hle, .inl hfree⟩
  · exact ⟨hle, .inr ⟨start, stop, hspans.mono h, hbounds⟩⟩

/-- What comes later counts, if it goes through the group at all. -/
theorem Places.andThen (hP : P.Places text insides g) (hQ : Q.Places text insides g) :
    (P.andThen Q).Places text insides g := by
  rintro i k made ⟨j, first, second, hfirst, hsecond, rfl⟩
  obtain ⟨hle, hfirst⟩ := hP i j first hfirst
  obtain ⟨hle', hfree | ⟨start, stop, hspans, hi, hstart, hstop⟩⟩ := hQ j k second hsecond
  · refine ⟨Nat.le_trans hle hle', ?_⟩
    rcases hfirst with hfree' | ⟨start, stop, hspans, hi, hstart, hstop⟩
    · exact .inl (unmarked_append.2 ⟨hfree, hfree'⟩)
    · exact .inr ⟨start, stop, hspans.append_left hfree, hi, hstart, Nat.le_trans hstop hle'⟩
  · exact ⟨Nat.le_trans hle hle', .inr ⟨start, stop, hspans.append_right first,
      Nat.le_trans hle hi, hstart, hstop⟩⟩

theorem Places.or (hP : P.Places text insides g) (hQ : Q.Places text insides g) :
    (P.or Q).Places text insides g := fun i j made h => h.elim (hP i j made) (hQ i j made)

theorem Places.iterate (hP : P.Places text insides g) (n : Nat) :
    (P.iterate n).Places text insides g := by
  induction n with
  | zero => exact places_stay
  | succ n ih => exact hP.andThen ih

end Passage

/-! ### Groups of a node -/

namespace Node

/-- What is inside the groups, by their numbers. -/
def insides : Node → List (Nat × Node)
  | .empty | .set _ | .look _ => []
  | .capture index _ inside => (index, inside) :: inside.insides
  | .repetition _ inside => inside.insides
  | .seq first second | .alt first second => first.insides ++ second.insides

/-- A match of a node leaves a group alone or goes through it. -/
theorem places_matches (text : Array Char) {n : Node} (hn : (n.groups.map (·.1)).Nodup) (g : Nat) :
    (n.Matches text).Places text n.insides g := by
  induction n with
  | empty => exact Passage.places_stay
  | set s =>
    rintro i j made ⟨rfl, rfl, -⟩
    exact ⟨Nat.le_succ i, .inl (by simp [Unmarked])⟩
  | look l =>
    rintro i j made ⟨rfl, rfl, -⟩
    exact ⟨Nat.le_refl _, .inl (by simp [Unmarked])⟩
  | capture index name inside ih =>
    rw [groups, List.map_cons, List.nodup_cons] at hn
    intro i j made h
    obtain ⟨inner, hinner, rfl⟩ := matches_capture.1 h
    obtain ⟨hle, hplaces⟩ := ih hn.2 i j inner hinner
    refine ⟨hle, ?_⟩
    by_cases hg : g = index
    · -- The number is that of no group inside, so these marks are the last ones.
      subst hg
      have hfree : Unmarked g inner := by
        intro m hm
        obtain ⟨⟨k, name'⟩, hk, hslot⟩ := (keeps_matches text inside i j inner hinner).2.2 m hm
        have hne : k ≠ g := fun heq => hn.1 (List.mem_map.2 ⟨(k, name'), hk, heq⟩)
        simp only at hslot
        omega
      exact .inr ⟨i, j, ⟨inside, [], inner, [], List.mem_cons_self, hinner, rfl, by simp [Unmarked],
        hfree⟩, Nat.le_refl i, hle, Nat.le_refl j⟩
    · have hopen : Unmarked g [(2 * index, i)] := by
        simp only [Unmarked, List.mem_singleton, forall_eq]
        omega
      have hclose : Unmarked g [(2 * index + 1, j)] := by
        simp only [Unmarked, List.mem_singleton, forall_eq]
        omega
      rw [← List.singleton_append]
      rcases hplaces with hfree | ⟨start, stop, hspans, hbounds⟩
      · exact .inl (unmarked_append.2 ⟨hclose, unmarked_append.2 ⟨hfree, hopen⟩⟩)
      · refine .inr ⟨start, stop, ?_, hbounds⟩
        exact ((hspans.append_right _).append_left hclose).mono (List.subset_cons_self _ _)
  | repetition r inside ih =>
    rintro i j made ⟨k, -, -, h⟩
    exact (ih hn).iterate k i j made h
  | seq first second ih1 ih2 =>
    rw [groups, List.map_append, List.nodup_append] at hn
    exact ((ih1 hn.1).mono (List.subset_append_left _ _)).andThen
      ((ih2 hn.2.1).mono (List.subset_append_right _ _))
  | alt first second ih1 ih2 =>
    rw [groups, List.map_append, List.nodup_append] at hn
    exact ((ih1 hn.1).mono (List.subset_append_left _ _)).or
      ((ih2 hn.2.1).mono (List.subset_append_right _ _))

end Node

/-! ### Groups of a match -/

section

variable {text : Array Char} {made : Marks} {g first last start stop : Nat} {insides : List (Nat × Node)}

/-- A group of the whole pattern has the place that it has in the match of the pattern. -/
theorem group?_of_spans (hg : 1 ≤ g) (h : Spans insides text made g start stop) :
    (⟨text, (1, last) :: (made ++ [(0, first)])⟩ : Match).group? g =
      some (text.extract start stop).toList := by
  have hlast : Unmarked g [(1, last)] := by
    simp only [Unmarked, List.mem_singleton, forall_eq]
    omega
  obtain ⟨hopen, hclose⟩ := ((h.append_right [(0, first)]).append_left hlast).lookup_eq
  exact group?_eq hopen hclose

theorem group?_of_unmarked (hg : 1 ≤ g) (h : Unmarked g made) :
    (⟨text, (1, last) :: (made ++ [(0, first)])⟩ : Match).group? g = none := by
  refine group?_eq_none (lookup_eq_none_of_ne fun m hm => ?_)
  rcases List.mem_cons.1 hm with rfl | hm
  · simp only
    omega
  · rcases List.mem_append.1 hm with hm | hm
    · exact (h m hm).1
    · obtain rfl := List.mem_singleton.1 hm
      simp only
      omega

end

end RouteTemplate.Regex
