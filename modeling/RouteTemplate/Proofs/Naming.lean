import RouteTemplate.Proofs.Numbering
import RouteTemplate.Regex

/-!
The names of a regular expression and what its groups capture. A name stands for one group, and the
named groups come in the order of their numbers.
-/

namespace RouteTemplate

theorem lookup_of_mem {α β : Type} [BEq α] [LawfulBEq α] {l : List (α × β)} {i : α} {x : β}
    (h : (i, x) ∈ l) (hinj : ∀ y, (i, y) ∈ l → y = x) : l.lookup i = some x := by
  induction l with
  | nil => cases h
  | cons e l ih =>
    obtain ⟨j, y⟩ := e
    rw [List.lookup_cons]
    by_cases hij : i = j
    · subst hij
      simp [hinj y List.mem_cons_self]
    · have hmem : (i, x) ∈ l := by simpa [hij] using h
      rw [beq_eq_false_iff_ne.2 hij]
      exact ih hmem fun z hz => hinj z (List.mem_cons_of_mem _ hz)

theorem mem_of_lookup {α β : Type} [BEq α] [LawfulBEq α] {l : List (α × β)} {i : α} {x : β}
    (h : l.lookup i = some x) : (i, x) ∈ l := by
  obtain ⟨before, after, rfl, -⟩ := List.lookup_eq_some_iff.1 h
  simp

/-- Under distinct keys, the value that is found for a key is the one that stands with it. -/
theorem lookup_eq_some_iff {α β : Type} [BEq α] [LawfulBEq α] {l : List (α × β)}
    (hl : (l.map (·.1)).Nodup) {i : α} {x : β} : l.lookup i = some x ↔ (i, x) ∈ l := by
  constructor
  · exact mem_of_lookup
  · intro h
    refine lookup_of_mem h fun y hy => ?_
    exact congrArg Prod.snd (List.inj_on_of_nodup_map hl hy h rfl)

/-- Under distinct keys, the order of the entries does not matter. -/
theorem lookup_eq_of_perm {α β : Type} [BEq α] [LawfulBEq α] {l l' : List (α × β)}
    (hl : (l.map (·.1)).Nodup) (h : l.Perm l') (i : α) : l.lookup i = l'.lookup i := by
  have hl' : (l'.map (·.1)).Nodup := (h.map (·.1)).nodup_iff.1 hl
  refine Option.ext fun x => ?_
  rw [lookup_eq_some_iff hl, lookup_eq_some_iff hl', h.mem_iff]

/-- Entries in the order of their numbers are settled by which there are. -/
theorem eq_of_ascending {β : Type} {l l' : List (Nat × β)} (hl : l.Pairwise fun x y => x.1 < y.1)
    (hl' : l'.Pairwise fun x y => x.1 < y.1) (h : ∀ x, x ∈ l ↔ x ∈ l') : l = l' := by
  have hnodup {l : List (Nat × β)} (hl : l.Pairwise fun x y => x.1 < y.1) : l.Nodup :=
    hl.imp fun hlt heq => by rw [heq] at hlt; omega
  exact ((List.perm_ext_iff_of_nodup (hnodup hl) (hnodup hl')).2 h).eq_of_pairwise
    (fun _ _ _ _ h1 h2 => by omega) hl hl'

namespace Regex

namespace Node

/-- The highest number of a group, or 0. -/
def lastGroup (n : Node) : Nat := n.groups.foldl (fun i g => max i g.1) 0

theorem le_lastGroup {n : Node} {g : Nat × Option (List Char)} (h : g ∈ n.groups) :
    g.1 ≤ n.lastGroup := by
  have key (groups : List (Nat × Option (List Char))) (i : Nat) :
      i ≤ groups.foldl (fun i g => max i g.1) i ∧
        ∀ g ∈ groups, g.1 ≤ groups.foldl (fun i g => max i g.1) i := by
    induction groups generalizing i with
    | nil => simp
    | cons g groups ih =>
      obtain ⟨hle, hall⟩ := ih (max i g.1)
      simp only [List.foldl_cons, List.mem_cons, forall_eq_or_imp]
      exact ⟨by omega, by omega, hall⟩
  exact (key n.groups 0).2 g h

/-- The named groups in the order of their numbers. -/
def named (n : Node) : List (Nat × List Char) :=
  (List.range (n.lastGroup + 1)).filterMap fun i => (n.groups.lookup i).join.map (i, ·)

theorem named_ascending (n : Node) : n.named.Pairwise fun x y => x.1 < y.1 := by
  refine List.pairwise_lt_range.filterMap _ fun i j hij x hx y hy => ?_
  obtain ⟨name, -, rfl⟩ := Option.map_eq_some_iff.1 hx
  obtain ⟨name', -, rfl⟩ := Option.map_eq_some_iff.1 hy
  exact hij

theorem mem_named {n : Node} (hn : Distinct n.groups) {i : Nat} {name : List Char} :
    (i, name) ∈ n.named ↔ (i, some name) ∈ n.groups := by
  rw [named, List.mem_filterMap]
  constructor
  · rintro ⟨j, -, hj⟩
    obtain ⟨name', hname', heq⟩ := Option.map_eq_some_iff.1 hj
    simp only [Prod.mk.injEq] at heq
    obtain ⟨rfl, rfl⟩ := heq
    exact mem_of_lookup (Option.join_eq_some_iff.1 hname')
  · intro h
    have hlookup := lookup_of_mem h fun x hx => hn.number hx h
    exact ⟨i, List.mem_range.2 (Nat.lt_succ_of_le (le_lastGroup h)), by rw [hlookup]; rfl⟩

end Node

theorem groupNames_eq (n : Node) : n.groupNames =
    (List.range (n.lastGroup + 1)).map fun i => (n.groups.lookup i).join := rfl

theorem names_ofNode (n : Node) : (ofNode n).names = n.named.map (·.2) := by
  rw [names, ofNode, groupNames_eq, Node.named, List.filterMap_map, List.map_filterMap]
  congr
  funext i
  simp only [Function.comp, id]
  cases (n.groups.lookup i).join <;> rfl

/-! ### Places of groups -/

theorem lookup_eq_none_of_ne {made : Marks} {slot : Nat} (h : ∀ m ∈ made, m.1 ≠ slot) :
    made.lookup slot = none := by
  rw [List.lookup_eq_none_iff]
  exact fun m hm => by simpa using (h m hm).symm

/-- The last marks of two slots that are marked one after the other are found. -/
theorem lookup_group {slot slot' i j : Nat} {inner later : Marks} (hne : slot ≠ slot')
    (hinner : ∀ m ∈ inner, m.1 ≠ slot ∧ m.1 ≠ slot') (hlater : ∀ m ∈ later, m.1 ≠ slot ∧ m.1 ≠ slot')
    (earlier : Marks) :
    (later ++ (slot', j) :: (inner ++ (slot, i) :: earlier)).lookup slot = some i ∧
      (later ++ (slot', j) :: (inner ++ (slot, i) :: earlier)).lookup slot' = some j := by
  rw [List.lookup_append, List.lookup_append, lookup_eq_none_of_ne fun m hm => (hlater m hm).1,
    lookup_eq_none_of_ne fun m hm => (hlater m hm).2, List.lookup_cons, List.lookup_cons,
    List.lookup_append, lookup_eq_none_of_ne fun m hm => (hinner m hm).1, beq_eq_false_iff_ne.2 hne]
  simp

theorem group?_eq {m : Match} {g first last : Nat} (hopen : m.marks.lookup (2 * g) = some first)
    (hclose : m.marks.lookup (2 * g + 1) = some last) :
    m.group? g = some (m.text.extract first last).toList := by
  simp [Match.group?, Match.span?, hopen, hclose]

theorem group?_eq_none {m : Match} {g : Nat} (h : m.marks.lookup (2 * g) = none) :
    m.group? g = none := by
  simp [Match.group?, Match.span?, h]

/-! ### Captures -/

theorem zipIdx_map_range {α : Type} (f : Nat → α) (count : Nat) :
    ((List.range count).map f).zipIdx = (List.range count).map fun i => (f i, i) := by
  refine List.ext_getElem (by simp) fun i h1 h2 => ?_
  simp

theorem captures_ofNode (n : Node) (m : Match) :
    (ofNode n).captures m = n.named.filterMap fun g => (m.group? g.1).map (g.2, ·) := by
  rw [captures, ofNode, groupNames_eq, zipIdx_map_range, Node.named, List.filterMap_map,
    List.filterMap_filterMap]
  congr
  funext i
  simp only [Function.comp]
  cases (n.groups.lookup i).join with
  | none => rfl
  | some name => cases hv : m.group? i <;> simp [hv]

theorem mem_captures {n : Node} (hn : Distinct n.groups) {m : Match} {name v : List Char} :
    (name, v) ∈ (ofNode n).captures m ↔ ∃ i, (i, some name) ∈ n.groups ∧ m.group? i = some v := by
  rw [captures_ofNode, List.mem_filterMap]
  constructor
  · rintro ⟨⟨i, name'⟩, hmem, hv⟩
    obtain ⟨w, hw, heq⟩ := Option.map_eq_some_iff.1 hv
    simp only [Prod.mk.injEq] at heq
    obtain ⟨rfl, rfl⟩ := heq
    exact ⟨i, (Node.mem_named hn).1 hmem, hw⟩
  · rintro ⟨i, hname, hv⟩
    exact ⟨(i, name), (Node.mem_named hn).2 hname, by rw [hv]; rfl⟩

/-- What is captured under a name is what the group of that name took. -/
theorem lookup_captures {n : Node} (hn : Distinct n.groups) {m : Match} {i : Nat}
    {name v : List Char} (hname : (i, some name) ∈ n.groups) (hv : m.group? i = some v) :
    ((ofNode n).captures m).lookup name = some v := by
  refine lookup_of_mem ((mem_captures hn).2 ⟨i, hname, hv⟩) fun w hw => ?_
  obtain ⟨j, hj, hw⟩ := (mem_captures hn).1 hw
  rw [hn.name j i name hj hname, hv] at hw
  exact (Option.some.inj hw).symm

end Regex

end RouteTemplate
