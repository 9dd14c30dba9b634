import RouteTemplate.Proofs.Searching

/-!
The order of preference among matches. All ways of a thread to the end of a program are listed, at a fork
those on the preferred side first; a way that comes back to a place of its own is given up. The search
gives up much more, every place that any thread has come to before, and still finds the first of
all ways: what a place that was given up led to has been tried before, and would have been found.
-/

namespace RouteTemplate.Regex

namespace Program

variable (p : Program) (text : Array Char)

/-- The marks of all ways of a thread to the end that come to no place twice and to none that has been
passed, the preferred ones first. -/
def ways (passed : Visited) (t : Thread) : List Marks :=
  match _h : passed.has t with
  | true => []
  | false =>
    if p.accepts t then [t.marks]
    else (t.next p text).flatMap fun u => ways (passed.add t) u
  termination_by passed.left
  decreasing_by
    have := Visited.left_add _h
    omega

/-- The marks of all matches in a text: those that begin further to the left first, and of those that begin
at one place the preferred ones first. -/
def ranked : List Marks :=
  (List.range (text.size + 1)).flatMap fun i => p.ways text (.none p text) ⟨0, i, []⟩

end Program

namespace Visited

variable {p : Program} {text : Array Char} {seen seen' passed : Visited} {t : Thread}

/-- The places that a search has come to lead to nothing new: none of them ends the program, and all that
follow them are among them. This is not said yet of the places on the way to where the search is. -/
structure Explored (p : Program) (text : Array Char) (seen passed : Visited) : Prop where
  passed_le : ∀ t, passed.has t → seen.has t
  closed : ∀ t, seen.has t → passed.has t = false →
    p.accepts t = false ∧ ∀ u ∈ t.next p text, seen.has u

theorem explored_none (p : Program) (text : Array Char) :
    Explored p text (none p text) (none p text) :=
  ⟨fun _ h => h, fun _ h h' => by simp [h] at h'⟩

theorem has_eq_false_of_add (hp : passed.has t = false) {u : Thread} (h : (passed.add t).has u = false) :
    passed.has u = false :=
  Bool.eq_false_iff.2 fun hu => by simp [(has_add hp u).2 (.inl hu)] at h

/-- Going on to a place that the search has come to before. -/
theorem Explored.pass (h : Explored p text seen passed) (ht : seen.has t) (hp : passed.has t = false) :
    Explored p text seen (passed.add t) where
  passed_le u hu := by
    rcases (has_add hp u).1 hu with hu | hu
    · exact h.passed_le u hu
    · exact hu.has_eq seen ▸ ht
  closed u hu hu' := h.closed u hu (has_eq_false_of_add hp hu')

/-- Going on to a new place. -/
theorem Explored.enter (h : Explored p text seen passed) (ht : seen.has t = false)
    (hp : passed.has t = false) : Explored p text (seen.add t) (passed.add t) where
  passed_le u hu := by
    rcases (has_add hp u).1 hu with hu | hu
    · exact (has_add ht u).2 (.inl (h.passed_le u hu))
    · exact (has_add ht u).2 (.inr hu)
  closed u hu hu' := by
    rcases (has_add ht u).1 hu with hu | hu
    · obtain ⟨hacc, hnext⟩ := h.closed u hu (has_eq_false_of_add hp hu')
      exact ⟨hacc, fun w hw => (has_add ht w).2 (.inl (hnext w hw))⟩
    · simp [(has_add hp u).2 (.inr hu)] at hu'

/-- Going back from a place when all that follows it has been tried. -/
theorem Explored.leave (h : Explored p text seen (passed.add t)) (hp : passed.has t = false)
    (hacc : p.accepts t = false) (hnext : ∀ u ∈ t.next p text, seen.has u) :
    Explored p text seen passed where
  passed_le u hu := h.passed_le u ((has_add hp u).2 (.inl hu))
  closed u hu hu' := by
    by_cases hplace : u.SamePlace t
    · refine ⟨hplace.accepts_eq.trans hacc, fun w hw => ?_⟩
      obtain ⟨x, hx, hxw⟩ := hplace.next hw
      exact hxw.has_eq seen ▸ hnext x hx
    · refine h.closed u hu (Bool.eq_false_iff.2 fun hadd => ?_)
      rcases (has_add hp u).1 hadd with hadd | hadd
      · simp [hadd] at hu'
      · exact hplace hadd

/-- What is left behind by a search that has tried threads in vain. -/
structure Exhausted (p : Program) (text : Array Char) (passed seen : Visited) (threads : List Thread)
    (seen' : Visited) : Prop where
  explored : Explored p text seen' passed
  seen_le : ∀ t, seen.has t → seen'.has t
  tried : ∀ t ∈ threads, seen'.has t
  left_le : seen'.left ≤ seen.left

end Visited

namespace Program

open Visited (Explored Exhausted)

variable {p : Program} {text : Array Char} {seen passed : Visited} {t : Thread}

/-- From a place that the search has come to there is no way that it has not tried. -/
theorem ways_eq_nil (h : Explored p text seen passed) (ht : seen.has t) :
    p.ways text passed t = [] := by
  fun_induction ways p text passed t with
  | case1 => rfl
  | case2 passed t hp hacc => simp [(h.closed t ht hp).1] at hacc
  | case3 passed t hp hacc ih =>
    exact List.flatMap_eq_nil_iff.2 fun u hu => ih u (h.pass ht hp) ((h.closed t ht hp).2 u hu)

theorem ways_of_accepts (hp : passed.has t = false) (hacc : p.accepts t) :
    p.ways text passed t = [t.marks] := by
  rw [ways]
  split
  next hp' => simp [hp] at hp'
  next => exact if_pos hacc

theorem ways_of_not_accepts (hp : passed.has t = false) (hacc : p.accepts t = false) :
    p.ways text passed t = (t.next p text).flatMap (p.ways text (passed.add t)) := by
  rw [ways]
  split
  next hp' => simp [hp] at hp'
  next => exact if_neg (by simp [hacc])

theorem run_cons (threads : List Thread) : p.run text seen (t :: threads) =
    if seen.has t then p.run text seen threads
    else if p.accepts t then some t.marks
    else p.run text (seen.add t) (t.next p text ++ threads) := by
  rw [run]
  split <;> simp_all

/-- A run finds the first way of its first threads, or it tries them all in vain and goes on with the
other ones. -/
theorem run_append (h : Explored p text seen passed) (threads more : List Thread) :
    (∃ marks, (threads.flatMap (p.ways text passed)).head? = some marks ∧
      p.run text seen (threads ++ more) = some marks) ∨
    (threads.flatMap (p.ways text passed) = [] ∧ ∃ seen', Exhausted p text passed seen threads seen' ∧
      p.run text seen (threads ++ more) = p.run text seen' more) := by
  induction hn : 2 * seen.left + threads.length using Nat.strongRecOn
    generalizing seen passed threads more with
  | ind n ih =>
    cases threads with
    | nil => exact .inr ⟨rfl, seen, ⟨h, fun _ => id, by simp, Nat.le_refl _⟩, rfl⟩
    | cons t threads =>
      rw [List.length_cons] at hn
      rw [List.flatMap_cons, List.cons_append, run_cons]
      by_cases ht : seen.has t
      · -- The place gives nothing, in the run as among the ways.
        rw [ways_eq_nil h ht, List.nil_append, if_pos ht]
        rcases ih _ (by omega) h threads more rfl with hfound | ⟨hnone, seen', hseen', hrun⟩
        · exact .inl hfound
        · refine .inr ⟨hnone, seen', ⟨hseen'.explored, hseen'.seen_le, ?_, hseen'.left_le⟩, hrun⟩
          exact List.forall_mem_cons.2 ⟨hseen'.seen_le t ht, hseen'.tried⟩
      · have ht' := Bool.eq_false_iff.2 ht
        have hp : passed.has t = false := Bool.eq_false_iff.2 fun hp => ht (h.passed_le t hp)
        rw [if_neg ht]
        by_cases hacc : p.accepts t
        · rw [ways_of_accepts hp hacc, if_pos hacc]
          exact .inl ⟨t.marks, rfl, rfl⟩
        · have hacc' := Bool.eq_false_iff.2 hacc
          have hleft := Visited.left_add ht'
          have hlength := t.length_next_le p text
          rw [ways_of_not_accepts hp hacc', if_neg hacc]
          rcases ih _ (by omega) (h.enter ht' hp) (t.next p text) (threads ++ more) rfl with
            ⟨marks, hfirst, hrun⟩ | ⟨hnone, seen', hseen', hrun⟩
          · exact .inl ⟨marks, by rw [List.head?_append, hfirst, Option.some_or], hrun⟩
          · -- All that follows the place is tried: the search goes back and on to its neighbours.
            have hback := hseen'.explored.leave hp hacc' hseen'.tried
            have hadd : ∀ u, seen.has u ∨ u.SamePlace t → seen'.has u := fun u hu =>
              hseen'.seen_le u ((Visited.has_add ht' u).2 hu)
            have hle := hseen'.left_le
            rw [hnone, List.nil_append, hrun]
            rcases ih _ (by omega) hback threads more rfl with hfound | ⟨hnone', seen'', hseen'', hrun'⟩
            · exact .inl hfound
            · have hle' := hseen''.left_le
              refine .inr ⟨hnone', seen'', ⟨hseen''.explored, ?_, ?_, by omega⟩, hrun'⟩
              · exact fun u hu => hseen''.seen_le u (hadd u (.inl hu))
              · refine List.forall_mem_cons.2 ⟨?_, hseen''.tried⟩
                exact hseen''.seen_le t (hadd t (.inr ⟨rfl, rfl⟩))

/-- What a run finds from the beginning is the first way of all its threads. -/
theorem run_eq_head? (threads : List Thread) : p.run text (.none p text) threads =
    (threads.flatMap (p.ways text (.none p text))).head? := by
  rcases run_append (Visited.explored_none p text) threads [] with
    ⟨marks, hfirst, hrun⟩ | ⟨hnone, seen', -, hrun⟩
  · rw [List.append_nil] at hrun
    rw [hrun, hfirst]
  · rw [List.append_nil] at hrun
    rw [hrun, hnone, run]
    rfl

/-- The search finds the first of all matches. -/
theorem search_eq_head? : p.search text = (p.ranked text).head? := by
  rw [search, run_eq_head?, List.flatMap_map, ranked]

theorem accepts_of_mem_ways {marks : Marks} (h : marks ∈ p.ways text passed t) :
    ∃ n, p.Accepts text n t marks := by
  fun_induction ways p text passed t with
  | case1 => cases h
  | case2 passed t hp hacc => exact ⟨0, hacc, List.mem_singleton.1 h⟩
  | case3 passed t hp hacc ih =>
    obtain ⟨u, hu, hmem⟩ := List.mem_flatMap.1 h
    obtain ⟨n, hn⟩ := ih u hmem
    exact ⟨n + 1, u, hu, hn⟩

/-- A thread that gets to the end at all gets there without coming to a place twice. -/
theorem ways_ne_nil_of_accepts {n : Nat} {marks : Marks} (hp : t.position ≤ text.size)
    (h : p.Accepts text n t marks) : p.ways text (.none p text) t ≠ [] := by
  intro hnil
  have hrun : p.run text (.none p text) [t] = none := by
    rw [run_eq_head?, List.flatMap_singleton, hnil, List.head?_nil]
  exact not_accepts_of_run_eq_none hrun (List.mem_singleton_self t) hp h

end Program

/-! ### The match that is found -/

namespace Node

/-- A match that begins further to the left than any other and is preferred of all that begin there. -/
structure LeftmostFirst (n : Node) (text : Array Char) (first last : Nat) (made : Marks) : Prop where
  le_size : first ≤ text.size
  leftmost : ∀ i < first, ∀ j made, ¬n.Matches text i j made
  preferred : (n.program.ways text (.none n.program text) ⟨0, first, []⟩).head? =
    some ((1, last) :: (made ++ [(0, first)]))

variable {n : Node} {text : Array Char} {marks : Marks}

theorem exists_matches_of_mem_ways {i : Nat}
    (h : marks ∈ n.program.ways text (.none n.program text) ⟨0, i, []⟩) :
    ∃ j made, n.Matches text i j made ∧ marks = (1, j) :: (made ++ [(0, i)]) := by
  obtain ⟨k, hk⟩ := Program.accepts_of_mem_ways h
  obtain ⟨j, hj⟩ := exists_matches_of_accepts hk
  obtain ⟨made, hmade, rfl⟩ := matches_capture.1 hj
  exact ⟨j, made, hmade, rfl⟩

theorem not_matches_of_ways_eq_nil {i : Nat} (hi : i ≤ text.size)
    (h : n.program.ways text (.none n.program text) ⟨0, i, []⟩ = []) (j : Nat) (made : Marks) :
    ¬n.Matches text i j made := by
  intro hmatch
  obtain ⟨k, hk⟩ := accepts_of_matches (matches_capture.2 ⟨made, hmatch, rfl⟩)
  exact Program.ways_ne_nil_of_accepts hi hk h

theorem LeftmostFirst.matches {first last : Nat} {made : Marks}
    (h : n.LeftmostFirst text first last made) : n.Matches text first last made := by
  obtain ⟨j, made', hmatch, heq⟩ := exists_matches_of_mem_ways (List.mem_of_head? h.preferred)
  obtain ⟨hj, hmade⟩ := List.cons.inj heq
  obtain rfl := (Prod.mk.inj hj).2
  rwa [List.append_cancel_right hmade]

/-- There is no other match like it. -/
theorem LeftmostFirst.unique {first last first' last' : Nat} {made made' : Marks}
    (h : n.LeftmostFirst text first last made) (h' : n.LeftmostFirst text first' last' made') :
    first = first' ∧ last = last' ∧ made = made' := by
  obtain rfl : first = first' := by
    rcases Nat.lt_trichotomy first first' with hlt | heq | hlt
    · exact absurd h.matches (h'.leftmost first hlt last made)
    · exact heq
    · exact absurd h'.matches (h.leftmost first' hlt last' made')
  have heq := Option.some.inj (h.preferred.symm.trans h'.preferred)
  obtain ⟨hlast, hmade⟩ := List.cons.inj heq
  exact ⟨rfl, (Prod.mk.inj hlast).2, List.append_cancel_right hmade⟩

/-- What the search finds is the leftmost match, and the first of those in the order of preference. -/
theorem exists_leftmostFirst_of_search (h : n.program.search text = some marks) :
    ∃ first last made, n.LeftmostFirst text first last made ∧
      marks = (1, last) :: (made ++ [(0, first)]) := by
  rw [Program.search_eq_head?, Program.ranked, List.head?_flatMap, List.findSome?_eq_some_iff] at h
  obtain ⟨before, first, after, hrange, hfirst, hbefore⟩ := h
  have hsorted := List.pairwise_lt_range (n := text.size + 1)
  rw [hrange, List.pairwise_append, List.pairwise_cons] at hsorted
  have hle : first ≤ text.size := by
    have hmem : first ∈ List.range (text.size + 1) := by simp [hrange]
    exact Nat.le_of_lt_succ (List.mem_range.1 hmem)
  obtain ⟨last, made, -, rfl⟩ := exists_matches_of_mem_ways (List.mem_of_head? hfirst)
  refine ⟨first, last, made, ⟨hle, fun i hi => ?_, hfirst⟩, rfl⟩
  have hmem : i ∈ before ++ first :: after := hrange ▸ List.mem_range.2 (by omega)
  have hin : i ∈ before := by
    rcases List.mem_append.1 hmem with hmem | hmem
    · exact hmem
    · rcases List.mem_cons.1 hmem with rfl | hmem
      · omega
      · have := hsorted.2.1.1 i hmem
        omega
  exact not_matches_of_ways_eq_nil (by omega) (List.head?_eq_none_iff.1 (hbefore i hin))

end Node

end RouteTemplate.Regex
