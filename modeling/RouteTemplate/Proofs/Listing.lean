import RouteTemplate.Proofs.LastWrites
import RouteTemplate.Text.Bytes

/-!
The entries of a table in the order of their names. The order is that of the bytes of the names. As no
name stands twice, the listing is strictly increasing, and no other way to sort the entries gives another
one. It says all that can be seen of a table: tables are equal exactly if their listings are.
-/

namespace RouteTemplate

open Text (utf8)

/-! ### The order of texts -/

theorem Text.utf8EncodeChar_ne_nil (c : Char) : String.utf8EncodeChar c ≠ [] := by
  rw [← List.length_pos_iff, String.length_utf8EncodeChar]
  exact Char.utf8Size_pos c

namespace FragmentTable

theorem utf8_lt_of_precedes {s t : List Char} (h : precedes s t) (hne : s ≠ t) : utf8 s < utf8 t := by
  fun_induction precedes s t with
  | case1 t =>
    obtain ⟨d, t, rfl⟩ := List.exists_cons_of_ne_nil hne.symm
    obtain ⟨b, bytes, hbytes⟩ := List.exists_cons_of_ne_nil (Text.utf8EncodeChar_ne_nil d)
    rw [Text.utf8_nil, Text.utf8_cons, hbytes]
    exact List.nil_lt_cons _ _
  | case2 => cases h
  | case3 c s d t ih =>
    rw [Text.utf8_cons, Text.utf8_cons]
    simp only [Bool.or_eq_true, Bool.and_eq_true, decide_eq_true_eq] at h
    rcases h with hlt | ⟨rfl, h⟩
    · exact Text.utf8EncodeChar_append_lt hlt _ _
    · exact List.append_left_lt (ih h fun heq => hne (heq ▸ rfl))

theorem precedes_total {s t : List Char} (h : precedes s t = false) : precedes t s := by
  fun_induction precedes s t with
  | case1 => cases h
  | case2 => rfl
  | case3 c s d t ih =>
    simp only [Bool.or_eq_false_iff, Bool.and_eq_false_imp, decide_eq_false_iff_not, not_lt,
      decide_eq_true_eq] at h
    obtain ⟨hle, h⟩ := h
    rw [precedes]
    rcases Nat.lt_or_eq_of_le hle with hlt | heq
    · simp [hlt]
    · have hcd : c = d := Char.ext (UInt32.toNat_inj.1 heq.symm)
      simp [hcd, ih (h hcd)]

/-- Texts that differ are in order one way round. -/
theorem utf8_lt_or_lt {s t : List Char} (h : s ≠ t) : utf8 s < utf8 t ∨ utf8 t < utf8 s := by
  cases hst : precedes s t with
  | true => exact .inl (utf8_lt_of_precedes hst h)
  | false => exact .inr (utf8_lt_of_precedes (precedes_total hst) h.symm)

/-! ### Sorting -/

/-- The names are in order, and none stands twice. -/
def Ascending (entries : List (List Char × List Char)) : Prop :=
  entries.Pairwise fun x y => utf8 x.1 < utf8 y.1

theorem insertSorted_perm (e : List Char × List Char) (entries : List (List Char × List Char)) :
    (insertSorted e entries).Perm (e :: entries) := by
  induction entries with
  | nil => rfl
  | cons f entries ih =>
    rw [insertSorted]
    split
    · rfl
    · exact (ih.cons f).trans (.swap e f entries)

theorem Ascending.insertSorted {e : List Char × List Char} {entries : List (List Char × List Char)}
    (h : Ascending entries) (he : e.1 ∉ entries.map (·.1)) :
    Ascending (FragmentTable.insertSorted e entries) := by
  induction entries with
  | nil => exact List.pairwise_singleton _ _
  | cons f entries ih =>
    obtain ⟨hf, hentries⟩ := List.pairwise_cons.1 h
    simp only [List.map_cons, List.mem_cons, not_or] at he
    rw [FragmentTable.insertSorted]
    split
    next hle =>
      have hlt := utf8_lt_of_precedes hle he.1
      exact List.pairwise_cons.2
        ⟨List.forall_mem_cons.2 ⟨hlt, fun g hg => List.lt_trans hlt (hf g hg)⟩, h⟩
    next hle =>
      have hlt := utf8_lt_of_precedes (precedes_total (Bool.eq_false_of_not_eq_true hle)) (Ne.symm he.1)
      refine List.pairwise_cons.2 ⟨fun g hg => ?_, ih hentries he.2⟩
      rcases List.mem_cons.1 ((insertSorted_perm e entries).mem_iff.1 hg) with rfl | hg
      · exact hlt
      · exact hf g hg

variable {t u : FragmentTable}

theorem sorted_perm (t : FragmentTable) : t.sorted.Perm t.entries := by
  have hperm (entries : List (List Char × List Char)) :
      (entries.foldr insertSorted []).Perm entries := by
    induction entries with
    | nil => rfl
    | cons e entries ih => exact (insertSorted_perm e _).trans (ih.cons e)
  exact hperm t.entries

theorem ascending_sorted (t : FragmentTable) : Ascending t.sorted := by
  obtain ⟨entries, hnodup⟩ := t
  show Ascending (entries.foldr insertSorted [])
  induction entries with
  | nil => exact List.Pairwise.nil
  | cons e entries ih =>
    rw [List.map_cons, List.nodup_cons] at hnodup
    refine (ih hnodup.2).insertSorted ?_
    have hperm := sorted_perm ⟨entries, hnodup.2⟩
    exact fun hmem => hnodup.1 ((hperm.map (·.1)).mem_iff.1 hmem)

/-- Entries sorted by name in any way are the listing. As no name stands twice, it does not matter which
of two entries under a name comes first. -/
theorem sorted_eq_of_perm {l : List (List Char × List Char)} (hperm : l.Perm t.entries)
    (h : l.Pairwise fun x y => utf8 x.1 ≤ utf8 y.1) : l = t.sorted := by
  have hsorted : t.sorted.Pairwise fun x y => utf8 x.1 ≤ utf8 y.1 :=
    (ascending_sorted t).imp fun hlt => List.not_lt.1 (List.lt_asymm hlt)
  refine (hperm.trans t.sorted_perm.symm).eq_of_pairwise (fun x y hx hy hxy hyx => ?_) h hsorted
  have hname : x.1 = y.1 := by
    by_contra hne
    exact (utf8_lt_or_lt hne).elim (List.not_lt.2 hyx) (List.not_lt.2 hxy)
  exact List.inj_on_of_nodup_map t.nodup (hperm.mem_iff.1 hx) (t.sorted_perm.mem_iff.1 hy) hname

/-! ### Comparing -/

/-- Tables are equal if they have the same entries. -/
theorem same_iff_perm : t.same u ↔ t.entries.Perm u.entries := by
  constructor
  · intro h
    simp only [same, Bool.and_eq_true, decide_eq_true_eq, List.all_eq_true] at h
    obtain ⟨hsize, hall⟩ := h
    have hsubset : t.entries ⊆ u.entries := fun e he => get?_eq_some_iff.1 (hall e he)
    exact (List.subperm_of_subset t.nodup.of_map hsubset).perm_of_length_le (Nat.le_of_eq hsize.symm)
  · intro h
    exact same_of_get?_eq fun name => lookup_eq_of_perm t.nodup h name

theorem same_iff_get?_eq : t.same u ↔ ∀ name, t.get? name = u.get? name :=
  ⟨fun h name => lookup_eq_of_perm t.nodup (same_iff_perm.1 h) name, same_of_get?_eq⟩

theorem same_iff_sorted_eq : t.same u ↔ t.sorted = u.sorted := by
  rw [same_iff_perm]
  constructor
  · intro h
    refine sorted_eq_of_perm (t.sorted_perm.trans h) ?_
    exact (ascending_sorted t).imp fun hlt => List.not_lt.1 (List.lt_asymm hlt)
  · intro h
    exact t.sorted_perm.symm.trans (h ▸ u.sorted_perm)

theorem same_ofList_sorted (t : FragmentTable) : (ofList t.sorted).same t := by
  refine same_of_get?_eq fun name => ?_
  have hnodup : (t.sorted.map (·.1)).Nodup := (t.sorted_perm.map (·.1)).nodup_iff.2 t.nodup
  rw [ofList, get?_extend_of_nodup hnodup, lookup_eq_of_perm hnodup t.sorted_perm]
  exact Option.or_none

/-- The listing of a table is strictly increasing, has exactly the entries that can be looked up, and is
what every way to sort the entries by name gives. A table made from it is equal to the one it lists.
Tables are equal exactly if their listings are, which is if they have the same fragment for every name; so
entries under distinct names may have been added in any order. -/
theorem sorted_canonical (t : FragmentTable) :
    (t.sorted.Pairwise fun x y => utf8 x.1 < utf8 y.1) ∧
    (∀ name fragment, (name, fragment) ∈ t.sorted ↔ t.get? name = some fragment) ∧
    t.sorted.length = t.size ∧
    (∀ l, l.Perm t.entries → (l.Pairwise fun x y => utf8 x.1 ≤ utf8 y.1) → l = t.sorted) ∧
    (ofList t.sorted).same t ∧
    (∀ u, (t.same u ↔ t.sorted = u.sorted) ∧
      (t.same u ↔ ∀ name, t.get? name = u.get? name)) ∧
    ∀ entries entries', (entries.map (·.1)).Nodup → entries.Perm entries' →
      (t.extend entries).sorted = (t.extend entries').sorted := by
  refine ⟨ascending_sorted t, fun name fragment => ?_, t.sorted_perm.length_eq,
    fun l => sorted_eq_of_perm, same_ofList_sorted t,
    fun u => ⟨same_iff_sorted_eq, same_iff_get?_eq⟩, fun entries entries' hnodup hperm => ?_⟩
  · rw [t.sorted_perm.mem_iff, get?_eq_some_iff]
  · exact same_iff_sorted_eq.1 (same_iff_get?_eq.2 (get?_extend_of_perm hnodup hperm))

example : FragmentTable.standard.sorted.map (fun e => String.ofList e.1) =
    ["day", "id", "mon", "month", "n", "slug", "tag", "year"] := by decide

end FragmentTable

end RouteTemplate
