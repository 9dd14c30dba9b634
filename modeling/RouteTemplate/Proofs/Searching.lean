import RouteTemplate.Proofs.Matching
import RouteTemplate.Regex.Search

/-!
The search finds what a node matches. The code of a node is shown to go the same ways through a text
as the node allows, and the search to miss none of them for having been somewhere before.
-/

namespace RouteTemplate.Regex

/-! ### Programs -/

namespace Program

/-- The program has the given code from a place on. -/
def Holds (p : Program) (base : Nat) (code : List Instruction) : Prop :=
  ∀ k i, code[k]? = some i → p[base + k]? = some i

/-- A thread gets to the end of the program in a number of steps, with all its marks. -/
def Accepts (p : Program) (text : Array Char) : Nat → Thread → Marks → Prop
  | 0, t, marks => p.accepts t ∧ marks = t.marks
  | n + 1, t, marks => ∃ u ∈ t.next p text, p.Accepts text n u marks

variable {p : Program} {text : Array Char}

theorem holds_append {base : Nat} {a b : List Instruction} (h : p.Holds base (a ++ b)) :
    p.Holds base a ∧ p.Holds (base + a.length) b := by
  constructor
  · intro k i hk
    have hlt := (List.getElem?_eq_some_iff.1 hk).1
    exact h k i (by rw [List.getElem?_append_left hlt, hk])
  · intro k i hk
    have := h (a.length + k) i (by rw [List.getElem?_append_right (by omega)]; simpa using hk)
    rwa [← Nat.add_assoc] at this

theorem holds_cons {base : Nat} {i : Instruction} {code : List Instruction}
    (h : p.Holds base (i :: code)) : p[base]? = some i ∧ p.Holds (base + 1) code :=
  ⟨h 0 i rfl, (holds_append (a := [i]) h).2⟩

/-- A thread before any instruction but the last has to take a step. -/
theorem accepts_step {n : Nat} {t : Thread} {marks : Marks} {i : Instruction}
    (hi : p[t.state]? = some i) (hne : i ≠ .accept) (h : p.Accepts text n t marks) :
    ∃ k, n = k + 1 ∧ ∃ u ∈ t.next p text, p.Accepts text k u marks := by
  cases n with
  | zero => simp [Accepts, accepts, hi, hne] at h
  | succ n => exact ⟨n, rfl, h⟩

theorem mem_next_choose {t u : Thread} {greedy : Bool} {stay leave : Nat}
    (hi : p[t.state]? = some (Block.choose greedy stay leave)) :
    u ∈ t.next p text ↔ u = ⟨stay, t.position, t.marks⟩ ∨ u = ⟨leave, t.position, t.marks⟩ := by
  cases greedy <;> simp [Thread.next, hi, Block.choose, or_comm]

end Program

/-! ### Blocks -/

/-- The code of a block goes the ways of a passage, wherever it stands and leaves for. -/
structure Block.Implements (b : Block) (text : Array Char) (P : Passage) : Prop where
  enter : ∀ {p : Program} {base next n i : Nat} {marks final : Marks},
    p.Holds base (b.code base next) → p.Accepts text n ⟨base, i, marks⟩ final →
    ∃ k j made, k < n ∧ P i j made ∧ p.Accepts text k ⟨next, j, made ++ marks⟩ final
  leave : ∀ {p : Program} {base next n i j : Nat} {made marks final : Marks},
    p.Holds base (b.code base next) → P i j made →
    p.Accepts text n ⟨next, j, made ++ marks⟩ final →
    ∃ k, p.Accepts text k ⟨base, i, marks⟩ final

namespace Block.Implements

variable {text : Array Char} {a b : Block} {P Q : Passage}

theorem single {f : Nat → Instruction} (hne : ∀ next, f next ≠ .accept)
    (h : ∀ {p : Program} {base next i : Nat} {marks : Marks} {u : Thread},
      p[base]? = some (f next) →
      (u ∈ Thread.next p text ⟨base, i, marks⟩ ↔
        ∃ j made, P i j made ∧ u = ⟨next, j, made ++ marks⟩)) :
    (Block.single f).Implements text P where
  enter hcode hacc := by
    have hi := (Program.holds_cons hcode).1
    obtain ⟨k, rfl, u, hu, hk⟩ := Program.accepts_step hi (hne _) hacc
    obtain ⟨j, made, hP, rfl⟩ := (h hi).1 hu
    exact ⟨k, j, made, Nat.lt_succ_self k, hP, hk⟩
  leave hcode hP hacc :=
    ⟨_ + 1, _, (h (Program.holds_cons hcode).1).2 ⟨_, _, hP, rfl⟩, hacc⟩

theorem skip : Block.skip.Implements text .stay :=
  single (by simp) fun hi => by simp [Thread.next, hi, Passage.stay, and_assoc]

theorem mark (slot : Nat) : (Block.single (.mark slot)).Implements text (.mark slot) :=
  single (by simp) fun hi => by simp [Thread.next, hi, Passage.mark, and_assoc]

theorem append (ha : a.Implements text P) (hb : b.Implements text Q) :
    (a.append b).Implements text (P.andThen Q) where
  enter hcode hacc := by
    obtain ⟨hcodea, hcodeb⟩ := Program.holds_append hcode
    rw [Block.length_code] at hcodeb
    obtain ⟨k, j, first, hk, hP, hacc⟩ := ha.enter hcodea hacc
    obtain ⟨l, j', second, hl, hQ, hacc⟩ := hb.enter hcodeb hacc
    exact ⟨l, j', second ++ first, by omega, ⟨j, first, second, hP, hQ, rfl⟩, by simpa using hacc⟩
  leave hcode hPQ hacc := by
    obtain ⟨hcodea, hcodeb⟩ := Program.holds_append hcode
    rw [Block.length_code] at hcodeb
    obtain ⟨j, first, second, hP, hQ, rfl⟩ := hPQ
    rw [List.append_assoc] at hacc
    obtain ⟨k, hacc⟩ := hb.leave hcodeb hQ hacc
    exact ha.leave hcodea hP hacc

theorem either (ha : a.Implements text P) (hb : b.Implements text Q) :
    (a.either b).Implements text (P.or Q) where
  enter hcode hacc := by
    obtain ⟨hi, hcode⟩ := Program.holds_cons hcode
    obtain ⟨hcodea, hcodeb⟩ := Program.holds_append hcode
    rw [Block.length_code] at hcodeb
    obtain ⟨n, rfl, u, hu, hacc⟩ := Program.accepts_step hi (by simp) hacc
    simp only [Thread.next, hi, List.mem_cons, List.not_mem_nil, or_false] at hu
    rcases hu with rfl | rfl
    · obtain ⟨k, j, made, hk, hP, hacc⟩ := ha.enter hcodea hacc
      exact ⟨k, j, made, by omega, .inl hP, hacc⟩
    · obtain ⟨k, j, made, hk, hQ, hacc⟩ := hb.enter hcodeb hacc
      exact ⟨k, j, made, by omega, .inr hQ, hacc⟩
  leave hcode hPQ hacc := by
    obtain ⟨hi, hcode⟩ := Program.holds_cons hcode
    obtain ⟨hcodea, hcodeb⟩ := Program.holds_append hcode
    rw [Block.length_code] at hcodeb
    rcases hPQ with hP | hQ
    · obtain ⟨k, hacc⟩ := ha.leave hcodea hP hacc
      exact ⟨k + 1, _, by simp [Thread.next, hi], hacc⟩
    · obtain ⟨k, hacc⟩ := hb.leave hcodeb hQ hacc
      exact ⟨k + 1, _, by simp [Thread.next, hi], hacc⟩

theorem optional (greedy : Bool) (ha : a.Implements text P) :
    (a.optional greedy).Implements text (P.or .stay) where
  enter hcode hacc := by
    obtain ⟨hi, hcode⟩ := Program.holds_cons hcode
    obtain ⟨n, rfl, u, hu, hacc⟩ := Program.accepts_step hi (by cases greedy <;> simp [choose]) hacc
    rcases (Program.mem_next_choose hi).1 hu with rfl | rfl
    · obtain ⟨k, j, made, hk, hP, hacc⟩ := ha.enter hcode hacc
      exact ⟨k, j, made, by omega, .inl hP, hacc⟩
    · exact ⟨n, _, [], by omega, .inr ⟨rfl, rfl⟩, hacc⟩
  leave hcode hP hacc := by
    obtain ⟨hi, hcode⟩ := Program.holds_cons hcode
    rcases hP with hP | ⟨rfl, rfl⟩
    · obtain ⟨k, hacc⟩ := ha.leave hcode hP hacc
      exact ⟨k + 1, _, (Program.mem_next_choose hi).2 (.inl rfl), hacc⟩
    · exact ⟨_ + 1, _, (Program.mem_next_choose hi).2 (.inr rfl), hacc⟩

theorem repeated (greedy : Bool) (ha : a.Implements text P) :
    (a.repeated greedy).Implements text (P.repeated 1 none) where
  enter {p base next n i marks final} hcode hacc := by
    obtain ⟨hcodea, hfork⟩ := Program.holds_append hcode
    rw [Block.length_code] at hfork
    have hi := (Program.holds_cons hfork).1
    -- Each time round takes steps, so the number of steps carries the induction.
    induction n using Nat.strongRecOn generalizing i marks with
    | ind n ih =>
      obtain ⟨k, j, first, hk, hP, hacc⟩ := ha.enter hcodea hacc
      obtain ⟨k, rfl, u, hu, hacc⟩ := Program.accepts_step hi (by cases greedy <;> simp [choose]) hacc
      rcases (Program.mem_next_choose hi).1 hu with rfl | rfl
      · obtain ⟨l, j', second, hl, ⟨m, hm, -, hiter⟩, hacc⟩ := ih k (by omega) hacc
        exact ⟨l, j', second ++ first, by omega,
          ⟨m + 1, by omega, by simp, j, first, second, hP, hiter, rfl⟩, by simpa using hacc⟩
      · exact ⟨k, j, first, by omega, ⟨1, by omega, by simp, by simpa using hP⟩, hacc⟩
  leave {p base next n i j made marks final} hcode hP hacc := by
    obtain ⟨hcodea, hfork⟩ := Program.holds_append hcode
    rw [Block.length_code] at hfork
    have hi := (Program.holds_cons hfork).1
    obtain ⟨m, hm, -, hiter⟩ := hP
    obtain ⟨m, rfl⟩ : ∃ d, m = d + 1 := ⟨m - 1, by omega⟩
    induction m generalizing i made marks with
    | zero =>
      rw [Passage.iterate_one] at hiter
      exact ha.leave hcodea hiter (n := n + 1)
        ⟨_, (Program.mem_next_choose hi).2 (.inr rfl), hacc⟩
    | succ m ih =>
      obtain ⟨j', first, second, hfirst, hsecond, rfl⟩ := hiter
      rw [List.append_assoc] at hacc
      obtain ⟨k, hacc⟩ := ih hacc (by omega) hsecond
      exact ha.leave hcodea hfirst (n := k + 1)
        ⟨_, (Program.mem_next_choose hi).2 (.inl rfl), hacc⟩

theorem loop (greedy : Bool) (ha : a.Implements text P) :
    (a.loop greedy).Implements text (P.repeated 0 none) where
  enter {p base next n i marks final} hcode hacc := by
    obtain ⟨hi, hcodea⟩ := Program.holds_cons hcode
    induction n using Nat.strongRecOn generalizing i marks with
    | ind n ih =>
      obtain ⟨n, rfl, u, hu, hacc⟩ := Program.accepts_step hi (by cases greedy <;> simp [choose]) hacc
      rcases (Program.mem_next_choose hi).1 hu with rfl | rfl
      · obtain ⟨k, j, first, hk, hP, hacc⟩ := ha.enter hcodea hacc
        obtain ⟨l, j', second, hl, ⟨m, -, -, hiter⟩, hacc⟩ := ih k (by omega) hacc
        exact ⟨l, j', second ++ first, by omega,
          ⟨m + 1, by omega, by simp, j, first, second, hP, hiter, rfl⟩, by simpa using hacc⟩
      · exact ⟨n, i, [], by omega, ⟨0, by omega, by simp, rfl, rfl⟩, hacc⟩
  leave {p base next n i j made marks final} hcode hP hacc := by
    obtain ⟨hi, hcodea⟩ := Program.holds_cons hcode
    obtain ⟨m, -, -, hiter⟩ := hP
    induction m generalizing i made marks with
    | zero =>
      obtain ⟨rfl, rfl⟩ := hiter
      exact ⟨n + 1, _, (Program.mem_next_choose hi).2 (.inr rfl), hacc⟩
    | succ m ih =>
      obtain ⟨j', first, second, hfirst, hsecond, rfl⟩ := hiter
      rw [List.append_assoc] at hacc
      obtain ⟨k, hacc⟩ := ih hacc hsecond
      obtain ⟨k, hacc⟩ := ha.leave hcodea hfirst hacc
      exact ⟨k + 1, _, (Program.mem_next_choose hi).2 (.inl rfl), hacc⟩

theorem times (ha : a.Implements text P) (hb : b.Implements text Q) (n : Nat) :
    (a.times b n).Implements text ((P.iterate n).andThen Q) := by
  induction n with
  | zero => simpa [Block.times, Passage.iterate] using hb
  | succ n ih =>
    rw [Passage.iterate, Passage.andThen_assoc]
    exact ha.append ih

theorem upTo (greedy : Bool) (ha : a.Implements text P) (n : Nat) :
    (a.upTo greedy n).Implements text (P.repeated 0 (some (n + 1))) := by
  induction n with
  | zero =>
    rw [Passage.repeated_zero_some_succ, Passage.repeated_zero_some_zero, Passage.andThen_stay]
    exact ha.optional greedy
  | succ n ih =>
    rw [Passage.repeated_zero_some_succ]
    exact (ha.append ih).optional greedy

/-- Whether a block is looped or repeated makes no difference to where it leads. -/
theorem repetition (r : Repetition) (consumes : Bool) (ha : a.Implements text P) :
    (a.repetition r consumes).Implements text (P.repeated r.min r.max) := by
  obtain ⟨least, most, greedy⟩ := r
  cases most with
  | none =>
    cases least with
    | zero =>
      cases consumes with
      | true => exact ha.loop greedy
      | false =>
        show (Block.optional greedy (a.repeated greedy)).Implements text _
        rw [Passage.repeated_zero_none_eq]
        exact (ha.repeated greedy).optional greedy
    | succ n =>
      have h := ha.times (ha.repeated greedy) n
      rwa [Passage.iterate_andThen_repeated, Option.map_none] at h
  | some m =>
    cases least with
    | zero =>
      cases m with
      | zero => exact Passage.repeated_zero_some_zero ▸ skip
      | succ m => exact ha.upTo greedy m
    | succ n =>
      simp only [Block.repetition]
      split
      next hle =>
        rw [Passage.repeated_of_le hle, Passage.iterate_succ_last]
        exact ha.times ha n
      next hlt =>
        have h := ha.times (ha.upTo greedy (m - n - 2)) (n + 1)
        rw [Passage.iterate_andThen_repeated, Option.map_some] at h
        rwa [show n + 1 + (m - n - 2 + 1) = m by omega] at h

end Block.Implements

theorem Node.block_implements (text : Array Char) (n : Node) :
    n.block.Implements text (n.Matches text) := by
  induction n with
  | empty => exact .skip
  | set s =>
    refine .single (by simp) fun hi => ?_
    simp only [Thread.next, hi]
    split <;> simp_all [Node.Matches, and_assoc]
  | look l =>
    refine .single (by simp) fun hi => ?_
    simp only [Thread.next, hi]
    split <;> simp_all [Node.Matches, and_assoc]
  | capture index name inside ih =>
    exact (Block.Implements.append (.mark (2 * index)) ih).append (.mark (2 * index + 1))
  | repetition r inside ih => exact ih.repetition r inside.consumes
  | seq first second ihf ihs => exact ihf.append ihs
  | alt first second ihf ihs => exact ihf.either ihs

/-! ### The search -/

/-- Two threads at one place. -/
def Thread.SamePlace (t u : Thread) : Prop := t.state = u.state ∧ t.position = u.position

namespace Thread.SamePlace

variable {p : Program} {text : Array Char} {t u : Thread}

theorem accepts_eq (h : t.SamePlace u) : p.accepts t = p.accepts u := by
  simp only [Program.accepts, h.1]

theorem has_eq (h : t.SamePlace u) (v : Visited) : v.has t = v.has u := by
  simp only [Visited.has, h.1, h.2]

theorem next (h : t.SamePlace u) {w : Thread} (hw : w ∈ t.next p text) :
    ∃ x ∈ u.next p text, x.SamePlace w := by
  obtain ⟨state, position, marks⟩ := t
  obtain ⟨state', position', marks'⟩ := u
  obtain ⟨rfl, rfl⟩ : state = state' ∧ position = position' := h
  unfold Thread.next at hw ⊢
  cases hi : p[state]? with
  | none => simp [hi] at hw
  | some i =>
    cases i with
    | read s state | check l state =>
      simp only [hi] at hw ⊢
      split at hw <;> simp_all [SamePlace]
    | fork preferred other =>
      simp only [hi, List.mem_cons, List.not_mem_nil, or_false] at hw ⊢
      rcases hw with rfl | rfl
      · exact ⟨_, .inl rfl, rfl, rfl⟩
      · exact ⟨_, .inr rfl, rfl, rfl⟩
    | mark slot state | jump state => simp_all [SamePlace]
    | accept => simp [hi] at hw

end Thread.SamePlace

theorem Thread.position_next_le {p : Program} {text : Array Char} {t u : Thread}
    (ht : t.position ≤ text.size) (hu : u ∈ t.next p text) : u.position ≤ text.size := by
  unfold Thread.next at hu
  cases hi : p[t.state]? with
  | none => simp [hi] at hu
  | some i => cases i <;> simp only [hi] at hu <;> grind

namespace Visited

theorem has_add {v : Visited} {t : Thread} (h : v.has t = false) (u : Thread) :
    (v.add t).has u = true ↔ v.has u = true ∨ u.SamePlace t := by
  simp only [has, Bool.or_eq_false_iff, decide_eq_false_iff_not, Nat.not_le] at h
  obtain ⟨hs, hrow⟩ := h
  cases hget : v.rows[t.position]? with
  | none => simp [hget] at hrow
  | some row =>
    by_cases hp : u.position = t.position
    · simp only [has, add, Array.getElem?_modify, hp, if_true, hget, Option.map_some,
        Option.all_some, testBit_or_shift, Thread.SamePlace]
      grind
    · simp only [has, add, Array.getElem?_modify, if_neg (Ne.symm hp), Thread.SamePlace]
      grind

theorem has_none {p : Program} {text : Array Char} {t : Thread} (hs : t.state < p.size)
    (hp : t.position ≤ text.size) : (none p text).has t = false := by
  have hlt : t.position < text.size + 1 := Nat.lt_succ_of_le hp
  simp [has, none, hlt, Nat.not_le.2 hs]

/-- No visited place ends the program, and what follows it is visited or still to be tried. -/
def Closed (p : Program) (text : Array Char) (v : Visited) (threads : List Thread) : Prop :=
  ∀ t : Thread, t.state < p.size → t.position ≤ text.size → v.has t →
    p.accepts t = false ∧ ∀ u ∈ t.next p text, v.has u ∨ ∃ w ∈ threads, w.SamePlace u

end Visited

namespace Program

variable {p : Program} {text : Array Char}

theorem accepts_of_run {seen : Visited} {threads : List Thread} {marks : Marks}
    (h : p.run text seen threads = some marks) :
    ∃ t ∈ threads, ∃ n, p.Accepts text n t marks := by
  fun_induction run p text seen threads with
  | case1 => simp at h
  | case2 seen t threads hseen ih =>
    obtain ⟨u, hu, hacc⟩ := ih h
    exact ⟨u, .tail _ hu, hacc⟩
  | case3 seen t threads hseen hacc =>
    exact ⟨t, .head _, 0, hacc, (Option.some.inj h).symm⟩
  | case4 seen t threads hseen hacc ih =>
    obtain ⟨u, hu, n, hn⟩ := ih h
    rcases List.mem_append.1 hu with hu | hu
    · exact ⟨t, .head _, n + 1, u, hu, hn⟩
    · exact ⟨u, .tail _ hu, n, hn⟩

/-- A run that finds nothing has visited all that its threads can come to. -/
theorem closed_of_run_eq_none {seen : Visited} {threads : List Thread}
    (h : p.run text seen threads = none) (hclosed : seen.Closed p text threads) :
    ∃ v : Visited, v.Closed p text [] ∧ (∀ t, seen.has t → v.has t) ∧ ∀ t ∈ threads, v.has t := by
  fun_induction run p text seen threads with
  | case1 seen => exact ⟨seen, hclosed, fun _ => id, by simp⟩
  | case2 seen t threads hseen ih =>
    have hclosed' : seen.Closed p text threads := by
      intro u hs hp hu
      obtain ⟨hacc, hnext⟩ := hclosed u hs hp hu
      refine ⟨hacc, fun w hw => ?_⟩
      rcases hnext w hw with hw | ⟨x, hx, hxw⟩
      · exact .inl hw
      · rcases List.mem_cons.1 hx with rfl | hx
        · exact .inl (hxw.has_eq seen ▸ hseen)
        · exact .inr ⟨x, hx, hxw⟩
    obtain ⟨v, hv, hmono, hthreads⟩ := ih h hclosed'
    exact ⟨v, hv, hmono, List.forall_mem_cons.2 ⟨hmono t hseen, hthreads⟩⟩
  | case3 => simp at h
  | case4 seen t threads hseen hacc ih =>
    have hadd := Visited.has_add hseen
    have hclosed' : (seen.add t).Closed p text (t.next p text ++ threads) := by
      intro u hs hp hu
      rcases (hadd u).1 hu with hu | hu
      · obtain ⟨hacc, hnext⟩ := hclosed u hs hp hu
        refine ⟨hacc, fun w hw => ?_⟩
        rcases hnext w hw with hw | ⟨x, hx, hxw⟩
        · exact .inl ((hadd w).2 (.inl hw))
        · rcases List.mem_cons.1 hx with rfl | hx
          · exact .inl ((hadd w).2 (.inr ⟨hxw.1.symm, hxw.2.symm⟩))
          · exact .inr ⟨x, List.mem_append_right _ hx, hxw⟩
      · refine ⟨by simpa [hu.accepts_eq] using hacc, fun w hw => ?_⟩
        obtain ⟨x, hx, hxw⟩ := hu.next hw
        exact .inr ⟨x, List.mem_append_left _ hx, hxw⟩
    obtain ⟨v, hv, hmono, hthreads⟩ := ih h hclosed'
    refine ⟨v, hv, fun u hu => hmono u ((hadd u).2 (.inl hu)), List.forall_mem_cons.2 ⟨?_, ?_⟩⟩
    · exact hmono t ((hadd t).2 (.inr ⟨rfl, rfl⟩))
    · exact fun u hu => hthreads u (List.mem_append_right _ hu)

theorem not_accepts_of_closed {v : Visited} (hv : v.Closed p text []) {n : Nat} {t : Thread}
    {marks : Marks} (hp : t.position ≤ text.size) (ht : v.has t) :
    ¬p.Accepts text n t marks := by
  induction n generalizing t with
  | zero =>
    rintro ⟨hacc, -⟩
    have hs : t.state < p.size := by
      simp only [accepts, decide_eq_true_eq] at hacc
      exact (Array.getElem?_eq_some_iff.1 hacc).1
    simp [(hv t hs hp ht).1] at hacc
  | succ n ih =>
    rintro ⟨u, hu, hacc⟩
    have hs : t.state < p.size := by
      refine Nat.lt_of_not_le fun hle => ?_
      simp [Thread.next, Array.getElem?_eq_none hle] at hu
    rcases (hv t hs hp ht).2 u hu with hw | ⟨w, hw, -⟩
    · exact ih (Thread.position_next_le hp hu) hw hacc
    · simp at hw

/-- A run that finds nothing has missed nothing. -/
theorem not_accepts_of_run_eq_none {threads : List Thread}
    (h : p.run text (.none p text) threads = none) {t : Thread} (ht : t ∈ threads)
    (hp : t.position ≤ text.size) {n : Nat} {marks : Marks} : ¬p.Accepts text n t marks := by
  have hclosed : (Visited.none p text).Closed p text threads := by
    intro u hs hp hu
    simp [Visited.has_none hs hp] at hu
  obtain ⟨v, hv, -, hthreads⟩ := closed_of_run_eq_none h hclosed
  exact not_accepts_of_closed hv hp (hthreads t ht)

/-- The search finds something as soon as any thread gets to the end from any place. -/
theorem search_isSome_iff : (p.search text).isSome ↔
    ∃ i n marks, i ≤ text.size ∧ p.Accepts text n ⟨0, i, []⟩ marks := by
  constructor
  · intro h
    obtain ⟨marks, hmarks⟩ := Option.isSome_iff_exists.1 h
    obtain ⟨t, ht, n, hn⟩ := accepts_of_run hmarks
    obtain ⟨i, hi, rfl⟩ := List.mem_map.1 ht
    exact ⟨i, n, marks, by simpa [Nat.lt_succ_iff] using hi, hn⟩
  · rintro ⟨i, n, marks, hi, hacc⟩
    refine Option.isSome_iff_ne_none.2 fun hnone => ?_
    have hmem : (⟨0, i, []⟩ : Thread) ∈ (List.range (text.size + 1)).map (⟨0, ·, []⟩) :=
      List.mem_map.2 ⟨i, by simpa [Nat.lt_succ_iff] using hi, rfl⟩
    exact not_accepts_of_run_eq_none hnone hmem hi hacc

end Program

namespace Node

theorem program_holds (n : Node) :
    Program.Holds n.program 0 ((Node.capture 0 none n).block.code 0 (Node.capture 0 none n).block.size) ∧
      n.program[(Node.capture 0 none n).block.size]? = some .accept := by
  constructor
  · intro k i hk
    have hlt := (List.getElem?_eq_some_iff.1 hk).1
    simp only [program, List.getElem?_toArray, Nat.zero_add]
    rw [List.getElem?_append_left hlt, hk]
  · simp [program]

/-- What a program marks is what a match of its node marks. -/
theorem exists_matches_of_accepts {n : Node} {text : Array Char} {k i : Nat} {marks : Marks}
    (h : Program.Accepts n.program text k ⟨0, i, []⟩ marks) :
    ∃ j, (capture 0 none n).Matches text i j marks := by
  obtain ⟨hcode, hend⟩ := n.program_holds
  obtain ⟨l, j, made, -, hmatch, hacc⟩ := (block_implements text (capture 0 none n)).enter hcode h
  cases l with
  | zero =>
    obtain ⟨-, rfl⟩ := hacc
    exact ⟨j, by simpa using hmatch⟩
  | succ l =>
    obtain ⟨u, hu, -⟩ := hacc
    simp [Thread.next, hend] at hu

theorem accepts_of_matches {n : Node} {text : Array Char} {i j : Nat} {marks : Marks}
    (h : (capture 0 none n).Matches text i j marks) :
    ∃ k, Program.Accepts n.program text k ⟨0, i, []⟩ marks := by
  obtain ⟨hcode, hend⟩ := n.program_holds
  refine (block_implements text (capture 0 none n)).leave hcode h (n := 0) ?_
  exact ⟨by simp [Program.accepts, hend], by simp⟩

/-- What the search finds is a match of the node. -/
theorem matches_of_search {n : Node} {text : Array Char} {marks : Marks}
    (h : n.program.search text = some marks) :
    ∃ i j, i ≤ text.size ∧ (capture 0 none n).Matches text i j marks := by
  obtain ⟨t, ht, k, hk⟩ := Program.accepts_of_run h
  obtain ⟨i, hi, rfl⟩ := List.mem_map.1 ht
  obtain ⟨j, hj⟩ := exists_matches_of_accepts hk
  exact ⟨i, j, by simpa [Nat.lt_succ_iff] using hi, hj⟩

/-- The search finds something exactly in a text in which the node matches somewhere. -/
theorem search_isSome_iff {n : Node} {text : Array Char} :
    (n.program.search text).isSome ↔ ∃ i j made, i ≤ text.size ∧ n.Matches text i j made := by
  rw [Program.search_isSome_iff]
  constructor
  · rintro ⟨i, k, marks, hi, hk⟩
    obtain ⟨j, hj⟩ := exists_matches_of_accepts hk
    obtain ⟨inner, hinner, -⟩ := matches_capture.1 hj
    exact ⟨i, j, inner, hi, hinner⟩
  · rintro ⟨i, j, made, hi, h⟩
    obtain ⟨k, hk⟩ := accepts_of_matches (matches_capture.2 ⟨made, h, rfl⟩)
    exact ⟨i, k, _, hi, hk⟩

end Node

end RouteTemplate.Regex
