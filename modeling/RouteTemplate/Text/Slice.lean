import RouteTemplate.Text.Bytes

/-!
Cutting a text between two of its bytes. There is something between two bytes only if they come in order
and both stand at the beginning of a character or at the end of the text.
-/

namespace RouteTemplate.Text

/-- The length of a text in bytes. -/
def size (s : List Char) : Nat := (utf8 s).length

/-- A byte at which a text can be cut. -/
def IsBoundary (s : List Char) (n : Nat) : Prop := String.Pos.Raw.IsValid (String.ofList s) ⟨n⟩

/-- What stands before a byte and what stands after it. -/
def splitAt? : List Char → Nat → Option (List Char × List Char)
  | s, 0 => some ([], s)
  | [], _ + 1 => none
  | c :: s, n + 1 =>
    if c.utf8Size ≤ n + 1 then
      (splitAt? s (n + 1 - c.utf8Size)).map fun (before, after) => (c :: before, after)
    else none

/-- What stands between two bytes. -/
def slice? (s : List Char) (start stop : Nat) : Option (List Char) := do
  let (before, _) ← splitAt? s stop
  let (_, inside) ← splitAt? before start
  return inside

/-! ### Lengths -/

variable {s before after inside : List Char} {n start stop : Nat}

@[simp] theorem size_nil : size [] = 0 := rfl

theorem size_cons (c : Char) (s : List Char) : size (c :: s) = c.utf8Size + size s := by
  rw [size, utf8_cons, List.length_append, String.length_utf8EncodeChar, size]

theorem size_append (s t : List Char) : size (s ++ t) = size s + size t := by
  rw [size, utf8_append, List.length_append, size, size]

theorem size_eq_zero_iff : size s = 0 ↔ s = [] := by
  cases s with
  | nil => simp
  | cons c s =>
    have hpos := c.utf8Size_pos
    simp only [size_cons, reduceCtorEq, iff_false]
    omega

theorem utf8ByteSize_ofList (s : List Char) : (String.ofList s).utf8ByteSize = size s := by
  rw [String.utf8ByteSize, String.toByteArray_ofList, List.utf8Encode, List.size_toByteArray]
  rfl

/-! ### Cuts -/

theorem splitAt?_append (before after : List Char) :
    splitAt? (before ++ after) (size before) = some (before, after) := by
  induction before with
  | nil => cases after <;> rfl
  | cons c before ih =>
    obtain ⟨n, hn⟩ : ∃ n, size (c :: before) = n + 1 := by
      have hpos := c.utf8Size_pos
      exact ⟨size (c :: before) - 1, by rw [size_cons]; omega⟩
    have hrest : n + 1 - c.utf8Size = size before := by
      rw [← hn, size_cons, Nat.add_sub_cancel_left]
    have hle : c.utf8Size ≤ n + 1 := by
      rw [← hn, size_cons]
      exact Nat.le_add_right _ _
    rw [List.cons_append, hn, splitAt?, if_pos hle, hrest, ih]
    rfl

theorem splitAt?_eq_some_iff :
    splitAt? s n = some (before, after) ↔ s = before ++ after ∧ size before = n := by
  constructor
  · intro h
    fun_induction splitAt? s n generalizing before with
    | case1 s =>
      cases h
      exact ⟨rfl, rfl⟩
    | case2 => cases h
    | case3 c s n hle ih =>
      obtain ⟨⟨before, after⟩, hsplit, heq⟩ := Option.map_eq_some_iff.1 h
      cases heq
      obtain ⟨rfl, hsize⟩ := ih hsplit
      refine ⟨rfl, ?_⟩
      rw [size_cons, hsize]
      omega
    | case4 => cases h
  · rintro ⟨rfl, rfl⟩
    exact splitAt?_append before after

theorem slice?_eq_some_iff : slice? s start stop = some inside ↔
    ∃ before after, s = before ++ inside ++ after ∧ size before = start ∧
      size (before ++ inside) = stop := by
  constructor
  · intro h
    obtain ⟨⟨front, after⟩, hstop, h⟩ := Option.bind_eq_some_iff.1 h
    obtain ⟨⟨before, x⟩, hstart, h⟩ := Option.bind_eq_some_iff.1 h
    cases h
    obtain ⟨rfl, rfl⟩ := splitAt?_eq_some_iff.1 hstop
    obtain ⟨rfl, rfl⟩ := splitAt?_eq_some_iff.1 hstart
    exact ⟨before, after, rfl, rfl, rfl⟩
  · rintro ⟨before, after, rfl, rfl, rfl⟩
    simp only [slice?, splitAt?_append, Option.bind_eq_bind, Option.bind_some]
    rfl

/-- A text can be cut after each of its characters, and nowhere else. -/
theorem isBoundary_iff : IsBoundary s n ↔ ∃ before after, s = before ++ after ∧ size before = n := by
  rw [IsBoundary, String.Pos.Raw.isValid_iff_exists_append]
  constructor
  · rintro ⟨before, after, heq, hn⟩
    refine ⟨before.toList, after.toList, ?_, ?_⟩
    · rw [← String.toList_append, ← heq, String.toList_ofList]
    · rw [← utf8ByteSize_ofList, String.ofList_toList]
      exact (congrArg String.Pos.Raw.byteIdx hn).symm
  · rintro ⟨before, after, rfl, rfl⟩
    refine ⟨String.ofList before, String.ofList after, String.ofList_append, ?_⟩
    rw [← utf8ByteSize_ofList]
    rfl

theorem isBoundary_append (before after : List Char) : IsBoundary (before ++ after) (size before) :=
  isBoundary_iff.2 ⟨before, after, rfl, rfl⟩

theorem IsBoundary.le_size (h : IsBoundary s n) : n ≤ size s := by
  obtain ⟨before, after, rfl, rfl⟩ := isBoundary_iff.1 h
  rw [size_append]
  exact Nat.le_add_right _ _

/-- There is something between two bytes exactly if a text can be cut at both and they are in order. -/
theorem isSome_slice?_iff :
    (slice? s start stop).isSome ↔ start ≤ stop ∧ IsBoundary s start ∧ IsBoundary s stop := by
  rw [Option.isSome_iff_exists]
  constructor
  · rintro ⟨inside, h⟩
    obtain ⟨before, after, rfl, rfl, rfl⟩ := slice?_eq_some_iff.1 h
    refine ⟨?_, ?_, isBoundary_append _ _⟩
    · rw [size_append]
      exact Nat.le_add_right _ _
    · rw [List.append_assoc]
      exact isBoundary_append _ _
  · rintro ⟨hle, hstart, hstop⟩
    obtain ⟨before, rest, rfl, rfl⟩ := isBoundary_iff.1 hstart
    obtain ⟨front, after, heq, rfl⟩ := isBoundary_iff.1 hstop
    rcases List.append_eq_append_iff.1 heq with ⟨inside, rfl, rfl⟩ | ⟨back, rfl, rfl⟩
    · exact ⟨inside, slice?_eq_some_iff.2 ⟨before, after, by simp, rfl, rfl⟩⟩
    · rw [size_append] at hle
      cases size_eq_zero_iff.1 (show size back = 0 by omega)
      exact ⟨[], slice?_eq_some_iff.2 ⟨front, rest, by simp, by simp, by simp⟩⟩

end RouteTemplate.Text
