import RouteTemplate.Regex.Token

/-!
Reading a text that a closing parenthesis follows. While blanks count, no reader that succeeds on a
text looks past its end in a way that `)` would change, so it reads the same, and leaves the same,
when the text stands inside a group.
-/

namespace RouteTemplate.Regex

/-- What a reader makes of a text stays the same before a closing parenthesis. -/
def Steady {α : Type} (read : List Char → Reading α) : Prop :=
  ∀ ⦃s r : List Char⦄ ⦃x : α⦄ (more : List Char),
    read s = .ok (x, r) → read (s ++ ')' :: more) = .ok (x, r ++ ')' :: more)

namespace Steady

variable {α β : Type} {read : List Char → Reading α}

theorem bind (h : Steady read) {f : α × List Char → Reading β}
    (hf : ∀ x, Steady fun s => f (x, s)) : Steady fun s => (read s).bind f := by
  intro s r y more hy
  cases hread : read s with
  | error e => simp [hread, Except.bind] at hy
  | ok p =>
    simp only [hread, Except.bind] at hy
    simp only [h more hread, Except.bind]
    exact hf p.1 more hy

theorem map (h : Steady read) (f : α → β) :
    Steady fun s => (read s).map fun p => (f p.1, p.2) := by
  intro s r y more hy
  obtain ⟨p, hread, hp⟩ := eq_ok_of_map_eq_ok hy
  simp only [Prod.mk.injEq] at hp
  obtain ⟨rfl, rfl⟩ := hp
  simp only [h more hread, Except.map]

end Steady

/-! ### Escapes -/

theorem steady_readHexDigits (k value : Nat) : Steady (readHexDigits false k value) := by
  intro s r n more h
  fun_induction readHexDigits false k value s with
  | case1 value s =>
    simp only [Except.ok.injEq, Prod.mk.injEq] at h
    obtain ⟨rfl, rfl⟩ := h
    rfl
  | case2 k value c s d hd ih =>
    rw [List.cons_append, readHexDigits, hd]
    exact ih h
  | case3 => simp at h
  | case4 => simp at h

theorem steady_readHexToBrace (value? : Option Nat) : Steady (readHexToBrace false value?) := by
  intro s r n more h
  fun_induction readHexToBrace false value? s with
  | case1 => simp at h
  | case2 s r' value hs =>
    simp only [skip_false] at hs h
    simp only [Except.ok.injEq, Prod.mk.injEq] at h
    obtain ⟨rfl, rfl⟩ := h
    subst hs
    rw [List.cons_append, readHexToBrace]
    simp
  | case3 => simp at h
  | case4 value? s c r' hs hc d hd ih =>
    simp only [skip_false] at hs
    subst hs
    rw [List.cons_append, readHexToBrace]
    simp only [skip_false, hc, hd, if_false]
    exact ih h
  | case5 => simp at h

theorem steady_literalOfCode (byteEscape : Bool) (n : Nat) :
    Steady fun s => literalOfCode byteEscape (n, s) := by
  intro s r a more h
  simp only [literalOfCode] at h ⊢
  split at h
  · simp only [Except.ok.injEq, Prod.mk.injEq] at h ⊢
    exact ⟨h.1, by rw [h.2]⟩
  · simp at h

theorem steady_readCodePoint (digits : Nat) : Steady (readCodePoint false digits) := by
  intro s r a more h
  simp only [readCodePoint, skip_false] at h ⊢
  split at h
  next s => exact (steady_readHexToBrace none).bind (steady_literalOfCode _) more h
  next hne =>
    split
    next s' hs' =>
      cases s with
      | nil => simp at hs'
      | cons c s =>
        simp only [List.cons_append, List.cons.injEq] at hs'
        exact absurd (by rw [hs'.1]) (hne s)
    next => exact (steady_readHexDigits digits 0).bind (steady_literalOfCode _) more h

theorem steady_readNameToBrace (name : List Char) : Steady (readNameToBrace false name) := by
  intro s r n more h
  fun_induction readNameToBrace false name s with
  | case1 => simp at h
  | case2 name s r' hs =>
    simp only [skip_false] at hs
    simp only [Except.ok.injEq, Prod.mk.injEq] at h
    obtain ⟨rfl, rfl⟩ := h
    subst hs
    rw [List.cons_append, readNameToBrace]
    simp
  | case3 name s c r' hs hc ih =>
    simp only [skip_false] at hs
    subst hs
    rw [List.cons_append, readNameToBrace]
    simp only [skip_false, hc, if_false]
    exact ih h

theorem steady_readProperty (negated : Bool) : Steady (readProperty false negated) := by
  intro s r a more h
  simp only [readProperty, skip_false] at h ⊢
  split at h
  next => simp at h
  next s =>
    exact (steady_readNameToBrace []).map
      (fun name => Atom.property (propertyQuery name).1 (negated != (propertyQuery name).2)) more h
  next c s hne =>
    simp only [List.cons_append]
    split at h
    next => simp at h
    next hc =>
      simp only [Except.ok.injEq, Prod.mk.injEq] at h
      obtain ⟨rfl, rfl⟩ := h
      simp [hc]

/-- The name of a place is read to its end if anything stands after it. -/
theorem readPlaceName_append {name name' s r : List Char} {c : Char} (more : List Char)
    (h : readPlaceName false name s = (name', c :: r)) :
    readPlaceName false name (s ++ more) = (name', c :: r ++ more) := by
  fun_induction readPlaceName false name s with
  | case1 => simp at h
  | case2 name c' s hc ih =>
    rw [List.cons_append, readPlaceName]
    simp only [hc, if_true, skip_false]
    exact ih h
  | case3 name c' s hc =>
    simp only [Prod.mk.injEq] at h
    obtain ⟨rfl, rfl, rfl⟩ := h
    rw [List.cons_append, readPlaceName]
    simp [hc]

theorem steady_readWordPlace : Steady (readWordPlace false) := by
  intro s r a more h
  simp only [readWordPlace, skip_false] at h ⊢
  split at h
  next s =>
    simp only [List.cons_append]
    split at h
    next => simp at h
    next c s =>
      simp only [List.cons_append]
      split at h
      next hc =>
        simp only [hc, if_true]
        split at h
        next name rest hname =>
          rw [← List.cons_append, readPlaceName_append _ hname]
          simp only [List.cons_append]
          split at h <;> simp_all
        next => simp at h
      next hc =>
        simp only [Except.ok.injEq, Prod.mk.injEq] at h
        obtain ⟨rfl, rfl⟩ := h
        simp [hc]
  next hne =>
    simp only [Except.ok.injEq, Prod.mk.injEq] at h
    obtain ⟨rfl, rfl⟩ := h
    split
    next s' hs' =>
      cases s with
      | nil => simp at hs'
      | cons c s =>
        simp only [List.cons_append, List.cons.injEq] at hs'
        exact absurd (by rw [hs'.1]) (hne s)
    next => rfl

theorem steady_readEscape : Steady (readEscape false) := by
  intro s r a more h
  cases s with
  | nil => simp [readEscape] at h
  | cons c s =>
    simp only [List.cons_append, readEscape] at h ⊢
    split at h
    case h_1 | h_2 | h_3 => exact steady_readCodePoint _ more h
    case h_4 | h_5 => exact steady_readProperty _ more h
    case h_20 => exact steady_readWordPlace more h
    case h_24 =>
      split at h
      · simp_all
      · simp at h
    all_goals
      simp only [Except.ok.injEq, Prod.mk.injEq] at h
      obtain ⟨rfl, rfl⟩ := h
      rfl

/-! ### Classes -/

namespace AsciiClass

theorem notMem_of_ofName? {name : List Char} {cls : AsciiClass} (h : ofName? name = some cls) :
    ')' ∉ name := by
  have key : ∀ text : String, String.ofList name = text → ')' ∉ text.toList → ')' ∉ name := by
    rintro _ rfl h
    simpa using h
  unfold ofName? at h
  split at h
  case h_15 => simp at h
  all_goals exact key _ ‹_› (by decide)

/-- Whether a class has a name is decided before the closing parenthesis, since no name has one. -/
theorem readName?_append (s more : List Char) :
    readName? (s ++ ')' :: more) = (readName? s).map fun p => (p.1, p.2 ++ ')' :: more) := by
  have hs : s.takeWhile (· ≠ ':') ++ s.dropWhile (· ≠ ':') = s := List.takeWhile_append_dropWhile
  cases hd : s.dropWhile (· ≠ ':') with
  | nil =>
    rw [hd, List.append_nil] at hs
    have hall : ∀ c ∈ s, decide (c ≠ ':') = true :=
      hs ▸ List.all_eq_true.1 (List.all_takeWhile (p := (· ≠ ':')))
    have ht : (s ++ ')' :: more).takeWhile (· ≠ ':') = s ++ ')' :: more.takeWhile (· ≠ ':') := by
      rw [List.takeWhile_append_of_pos hall]; simp
    have hnone : ofName? (s ++ ')' :: more.takeWhile (· ≠ ':')) = none :=
      Option.eq_none_iff_forall_ne_some.2 fun cls h => notMem_of_ofName? h (by simp)
    simp only [readName?, hd, ht, hnone, Option.map_none]
    split <;> rfl
  | cons c rest =>
    have hd' : (s ++ ')' :: more).dropWhile (· ≠ ':') = c :: rest ++ ')' :: more := by
      rw [List.dropWhile_append, hd]; rfl
    have ht' : (s ++ ')' :: more).takeWhile (· ≠ ':') = s.takeWhile (· ≠ ':') := by
      have hlen : (s.takeWhile (· ≠ ':')).length ≠ s.length := by
        have := congrArg List.length hs
        rw [hd, List.length_append, List.length_cons] at this
        omega
      rw [List.takeWhile_append, if_neg hlen]
    simp only [readName?, hd, hd', ht']
    cases rest with
    | nil => cases h : decide (c = ':') <;> simp_all
    | cons d rest =>
      split
      next r heq =>
        simp only [List.cons_append, List.cons.injEq] at heq
        obtain ⟨rfl, rfl, rfl⟩ := heq
        simp [Function.comp_def]
      next hne =>
        split
        next r heq => 
          simp only [List.cons.injEq] at heq
          obtain ⟨rfl, rfl, rfl⟩ := heq
          exact absurd rfl (hne _)
        next => rfl

theorem read?_append (s more : List Char) :
    read? (s ++ ')' :: more) = (read? s).map fun p => (p.1, p.2 ++ ')' :: more) := by
  cases s with
  | nil => rfl
  | cons c s =>
    by_cases hc : c = ':'
    · subst hc
      cases s with
      | nil =>
        have h := readName?_append [] more
        rw [List.nil_append] at h
        simp [read?, h, Function.comp_def]
      | cons d s =>
        by_cases hd : d = '^'
        · subst hd
          simp [read?, readName?_append, Function.comp_def]
        · have h := readName?_append (d :: s) more
          rw [List.cons_append] at h
          simp [read?, hd, h, Function.comp_def]
    · simp [read?, hc]

end AsciiClass

theorem steady_readClassAtom : Steady (readClassAtom false) := by
  intro s r a more h
  cases s with
  | nil => simp [readClassAtom] at h
  | cons c s =>
    simp only [List.cons_append, readClassAtom] at h ⊢
    split at h
    next hc => simpa only [hc, if_true] using steady_readEscape more h
    next hc =>
      simp only [Except.ok.injEq, Prod.mk.injEq] at h
      obtain ⟨rfl, rfl⟩ := h
      simp [hc]

@[simp] theorem afterHyphen?_false (s : List Char) : afterHyphen? false s = s.head? := by
  simp [afterHyphen?]

theorem steady_readClassItem : Steady (readClassItem false) := by
  intro s r t more h
  simp only [readClassItem, skip_false, afterHyphen?_false] at h ⊢
  split at h
  next => simp at h
  next lo s1 hlo =>
    rw [steady_readClassAtom more hlo]
    simp only
    split at h
    next => simp at h
    next c s2 =>
      simp only [List.cons_append]
      by_cases hc : c ≠ '-' ∨ s2.head? = some ']' ∨ s2.head? = some '-'
      · rw [if_pos hc] at h
        obtain ⟨item, hitem, heq⟩ := eq_ok_of_map_eq_ok h
        simp only [Prod.mk.injEq] at heq
        obtain ⟨rfl, rfl⟩ := heq
        rw [if_pos ?_, hitem]
        · rfl
        · cases s2 with
          | nil => simpa using hc
          | cons d s2 => simpa using hc
      · rw [if_neg hc] at h
        cases s2 with
        | nil => simp at h
        | cons d s2 =>
          rw [if_neg (show ¬(c ≠ '-' ∨ (d :: s2 ++ ')' :: more).head? = some ']' ∨
            (d :: s2 ++ ')' :: more).head? = some '-') by simpa using hc)]
          simp only [List.cons_append] at h ⊢
          split at h
          next => simp at h
          next hi s3 hhi =>
            obtain ⟨item, hitem, heq⟩ := eq_ok_of_map_eq_ok h
            simp only [Prod.mk.injEq] at heq
            obtain ⟨rfl, rfl⟩ := heq
            rw [← List.cons_append, steady_readClassAtom more hhi]
            simp only [hitem, Except.map]

/-! ### Brackets -/

theorem readCaret_append {s : List Char} (more : List Char) (h : (readCaret false s).2 ≠ []) :
    readCaret false (s ++ more) = ((readCaret false s).1, (readCaret false s).2 ++ more) := by
  cases s with
  | nil => simp [readCaret] at h
  | cons c s =>
    by_cases hc : c = '^'
    · subst hc; simp [readCaret]
    · simp [readCaret, hc]

theorem readHyphens_append {items : List ClassTree} {s : List Char} (more : List Char)
    (h : (readHyphens false items s).2 ≠ []) :
    readHyphens false items (s ++ more) =
      ((readHyphens false items s).1, (readHyphens false items s).2 ++ more) := by
  fun_induction readHyphens false items s with
  | case1 items s ih =>
    rw [List.cons_append, readHyphens]
    exact ih h
  | case2 items s hne =>
    cases s with
    | nil => simp at h
    | cons c s =>
      rw [List.cons_append, readHyphens]
      rintro r' heq
      exact hne s (by rw [(List.cons.inj heq).1])

theorem readFirstClose_append {items : List ClassTree} {s : List Char} (more : List Char)
    (h : (readFirstClose false items s).2 ≠ []) :
    readFirstClose false items (s ++ more) =
      ((readFirstClose false items s).1, (readFirstClose false items s).2 ++ more) := by
  cases s with
  | nil => cases items <;> simp [readFirstClose] at h
  | cons c s =>
    by_cases hc : c = ']'
    · subst hc; cases items <;> simp [readFirstClose]
    · cases items <;> simp [readFirstClose, hc]

theorem steady_openBracket : Steady (openBracket false) := by
  intro s r b more h
  simp only [openBracket] at h ⊢
  split at h
  next => simp at h
  next hfirst =>
    simp only [Except.ok.injEq, Prod.mk.injEq] at h
    obtain ⟨rfl, rfl⟩ := h
    rw [List.isEmpty_iff] at hfirst
    have hhyphens : (readHyphens false [] (readCaret false s).2).2 ≠ [] := fun h =>
      hfirst (by rw [h]; cases (readHyphens false [] (readCaret false s).2).1 <;> rfl)
    have hcaret : (readCaret false s).2 ≠ [] := fun h => hhyphens (by rw [h, readHyphens]; simp)
    rw [readCaret_append _ hcaret, readHyphens_append _ hhyphens, readFirstClose_append _ hfirst,
      if_neg (by simp)]

section

variable {b : OpenBracket} {outer : List OpenBracket} {s rest : List Char}

theorem readBrackets_close : readBrackets false b outer (']' :: s) =
    match outer with
    | [] => .ok (b, s)
    | o :: outer => readBrackets false (o.add (.bracketed b.negated b.inside)) outer s := by
  rw [readBrackets]
  split
  case h_5 r heq => obtain ⟨-, rfl⟩ := List.cons.inj heq; rfl
  case h_7 hc _ heq => exact absurd (List.cons.inj heq).1.symm hc
  all_goals simp_all

theorem readBrackets_bracket : readBrackets false b outer ('[' :: s) =
    match AsciiClass.read? s with
    | some (item, rest) => readBrackets false (b.add item) outer rest
    | none =>
      match openBracket false s with
      | .ok (inner, rest) => readBrackets false inner (b :: outer) rest
      | .error e => .error e := by
  rw [readBrackets]
  split
  case h_6 r heq =>
    obtain ⟨-, rfl⟩ := List.cons.inj heq
    split
    next hr => rw [hr]
    next hr =>
      rw [hr]
      split <;> simp_all only
  case h_7 hc heq => exact absurd (List.cons.inj heq).1.symm hc
  all_goals simp_all

/-- What begins no operation, no bracket and no end of one is an item. -/
theorem readBrackets_item {c : Char} (hop : ∀ d r, s = d :: r → d = c → c ∉ ['&', '-', '~'])
    (hc : c ≠ ']') (ho : c ≠ '[') : readBrackets false b outer (c :: s) =
      match readClassItem false (c :: s) with
      | .ok (item, rest) => readBrackets false (b.add item) outer rest
      | .error e => .error e := by
  rw [readBrackets]
  split
  case h_7 heq =>
    obtain ⟨rfl, rfl⟩ := List.cons.inj heq
    split <;> simp_all only
  all_goals simp_all

end

theorem steady_readBrackets (b : OpenBracket) (outer : List OpenBracket) :
    Steady (readBrackets false b outer) := by
  intro s r b' more h
  fun_induction readBrackets false b outer s with
  | case1 => simp at h
  | case2 b outer s r' hs ih | case3 b outer s r' hs ih | case4 b outer s r' hs ih =>
    rw [skip_false] at hs
    subst hs
    rw [List.cons_append, List.cons_append, readBrackets]
    exact ih h
  | case5 b s r' hs =>
    rw [skip_false] at hs
    simp only [Except.ok.injEq, Prod.mk.injEq] at h
    obtain ⟨rfl, rfl⟩ := h
    rw [hs, List.cons_append, readBrackets_close]
  | case6 b s r' hs o outer ih =>
    rw [skip_false] at hs
    rw [hs, List.cons_append, readBrackets_close]
    exact ih h
  | case7 b outer s r' hs item rest hr ih =>
    rw [skip_false] at hs
    rw [hs, List.cons_append, readBrackets_bracket, AsciiClass.read?_append, hr]
    exact ih h
  | case8 b outer s r' hs hr inner rest ho ih =>
    rw [skip_false] at hs
    rw [hs, List.cons_append, readBrackets_bracket, AsciiClass.read?_append, hr,
      steady_openBracket more ho]
    exact ih h
  | case9 => simp at h
  | case10 b outer s c r' hand hdiff hsymm hclose hopen hs item rest hi ih =>
    rw [skip_false] at hs
    rw [hs, List.cons_append, readBrackets_item ?_ hclose hopen, ← List.cons_append,
      steady_readClassItem more hi]
    · exact ih h
    · rintro d r heq rfl
      cases r' with
      | nil => 
        obtain ⟨rfl, -⟩ := List.cons.inj heq
        decide
      | cons e r' =>
        obtain ⟨rfl, -⟩ := List.cons.inj heq
        simp_all
  | case11 => simp at h

theorem steady_readBracket : Steady (readBracket false) := by
  intro s r a more h
  simp only [readBracket] at h ⊢
  split at h
  next => simp at h
  next b s' hb =>
    rw [steady_openBracket more hb]
    exact (steady_readBrackets b []).map (fun b => Atom.bracket b.negated b.inside) more h

/-! ### Repetitions -/

theorem readDigits_append {digits s : List Char} (more : List Char)
    (h : (readDigits false digits s).2 ≠ []) :
    readDigits false digits (s ++ more) =
      ((readDigits false digits s).1, (readDigits false digits s).2 ++ more) := by
  fun_induction readDigits false digits s with
  | case1 => simp at h
  | case2 digits c s hc ih =>
    rw [List.cons_append, readDigits, if_pos hc]
    exact ih h
  | case3 digits c s hc => rw [List.cons_append, readDigits, if_neg hc]

theorem dropBlanks_append {s : List Char} (more : List Char) (h : dropBlanks false s ≠ []) :
    dropBlanks false (s ++ more) = dropBlanks false s ++ more := by
  fun_induction dropBlanks false s with
  | case1 => simp at h
  | case2 c s hc ih =>
    rw [List.cons_append, dropBlanks, if_pos hc]
    exact ih h
  | case3 c s hc => rw [List.cons_append, dropBlanks, if_neg hc]

theorem readBound_append {s : List Char} (more : List Char) (h : (readBound false s).2 ≠ []) :
    readBound false (s ++ more) = ((readBound false s).1, (readBound false s).2 ++ more) := by
  simp only [readBound] at h ⊢
  have hdigits : (readDigits false [] (s.dropWhile Unicode.isBlank)).2 ≠ [] := fun h' =>
    h (by rw [h', dropBlanks])
  have hblanks : s.dropWhile Unicode.isBlank ≠ [] := fun h' => hdigits (by rw [h', readDigits])
  have hdrop : (s ++ more).dropWhile Unicode.isBlank = s.dropWhile Unicode.isBlank ++ more := by
    rw [List.dropWhile_append, if_neg (by simpa using hblanks)]
  rw [hdrop, readDigits_append _ hdigits, dropBlanks_append _ h]

theorem readGreed_append (s more : List Char) :
    readGreed (s ++ ')' :: more) = ((readGreed s).1, (readGreed s).2 ++ ')' :: more) := by
  cases s with
  | nil => rfl
  | cons c s =>
    by_cases hc : c = '?'
    · subst hc; rfl
    · simp [readGreed, hc]

theorem steady_closeCount (min : Nat) (max : Option Nat) : Steady (closeCount false min max) := by
  intro s r rep more h
  cases s with
  | nil => simp [closeCount] at h
  | cons c s =>
    by_cases hc : c = '}'
    · subst hc
      simp only [closeCount, skip_false, List.cons_append, readGreed_append] at h ⊢
      split at h
      next hle =>
        simp only [Except.ok.injEq, Prod.mk.injEq] at h
        obtain ⟨rfl, rfl⟩ := h
        rw [if_pos hle]
      next => simp at h
    · simp [closeCount, hc] at h

theorem steady_readCount : Steady (readCount false) := by
  intro s r rep more h
  simp only [readCount, skip_false] at h
  rw [readCount, skip_false]
  split at h
  next => simp at h
  next min s1 hmin =>
    have hs := readBound_append (s := s) (')' :: more) (by simp [hmin])
    rw [hmin] at hs
    rw [hs]
    simp only [List.cons_append, skip_false]
    split at h
    next s2 => exact steady_closeCount min none more h
    next hne =>
      cases s1 with
      | nil => simp [readBound, readDigits] at h
      | cons c s1 =>
        have hc : c ≠ '}' := fun hc => hne s1 (by rw [hc])
        simp only [List.cons_append]
        split
        next heq => exact absurd (List.cons.inj heq).1 hc
        next =>
          split at h
          next => simp at h
          next max s2 hmax =>
            have hs2 : s2 ≠ [] := by
              rintro rfl
              simp [closeCount] at h
            rw [← List.cons_append, readBound_append _ (by rw [hmax]; exact hs2), hmax]
            exact steady_closeCount min (some max) more h
  next min s1 hne hmin =>
    cases s1 with
    | nil => simp [closeCount] at h
    | cons c s1 =>
      rw [readBound_append _ (by simp [hmin]), hmin]
      have hc : c ≠ ',' := fun hc => hne s1 (by rw [hc])
      simp only [List.cons_append]
      split
      next heq => simp at heq
      next heq =>
        simp only [Prod.mk.injEq, List.cons.injEq] at heq
        exact absurd heq.2.1 hc
      next heq =>
        simp only [Prod.mk.injEq, Option.some.injEq] at heq
        obtain ⟨rfl, rfl⟩ := heq
        exact steady_closeCount min (some min) more h

/-! ### Openings -/

theorem steady_readFlags (on dangling : Bool) (changes : FlagChanges) :
    Steady (readFlags on dangling changes) := by
  intro s r p more h
  fun_induction readFlags on dangling changes s with
  | case1 => simp at h
  | case2 => simp at h
  | case3 on dangling changes c s hc hd =>
    simp only [Except.ok.injEq, Prod.mk.injEq] at h
    obtain ⟨rfl, rfl⟩ := h
    rw [List.cons_append, readFlags, if_pos hc, if_neg hd]
  | case4 dangling changes s hc ih =>
    rw [List.cons_append, readFlags, if_neg hc, if_pos rfl, if_pos rfl]
    exact ih h
  | case5 => simp at h
  | case6 => simp at h
  | case7 => simp at h
  | case8 on dangling changes c s hc hhyphen f hf hany ih =>
    rw [List.cons_append, readFlags, if_neg hc, if_neg hhyphen, hf]
    simp only [if_neg hany]
    exact ih h

theorem steady_readGroupName : Steady readGroupName := by
  intro s r name more h
  have hs : s.takeWhile (· ≠ '>') ++ s.dropWhile (· ≠ '>') = s := List.takeWhile_append_dropWhile
  simp only [readGroupName] at h
  split at h
  next c rest hdrop =>
    have hlen : (s.takeWhile (· ≠ '>')).length ≠ s.length := by
      have := congrArg List.length hs
      rw [hdrop, List.length_append, List.length_cons] at this
      omega
    have hdrop' : (s ++ ')' :: more).dropWhile (· ≠ '>') = c :: (rest ++ ')' :: more) := by
      rw [List.dropWhile_append, hdrop]; rfl
    have htake' : (s ++ ')' :: more).takeWhile (· ≠ '>') = s.takeWhile (· ≠ '>') := by
      rw [List.takeWhile_append, if_neg hlen]
    rw [readGroupName, hdrop', htake']
    split at h
    next hname =>
      simp only [Except.ok.injEq, Prod.mk.injEq] at h
      obtain ⟨rfl, rfl⟩ := h
      simp only [hname, if_true]
    next => simp at h
  next => simp at h

/-- What a name or a look-around begins with is no flag. -/
theorem ne_of_readFlags {c : Char} {s r : List Char} {p : FlagChanges × Char}
    (h : readFlags true false [] (c :: s) = .ok (p, r)) : c ∉ ['=', '!', '<', 'P'] := by
  intro hc
  simp only [List.mem_cons, List.not_mem_nil, or_false] at hc
  rcases hc with rfl | rfl | rfl | rfl <;> simp [readFlags, Flag.ofChar?] at h

theorem readOpening_flags {c : Char} (hc : c ∉ ['=', '!', '<', 'P']) (s : List Char) :
    readOpening false ('?' :: c :: s) =
      match readFlags true false [] (c :: s) with
      | .error e => .error e
      | .ok ((changes, ':'), r) => .ok (.openGroup (.plain changes), r)
      | .ok ((changes, _), r) =>
        if changes.isEmpty then .error .nothingToRepeat else .ok (.flags changes, r) := by
  rw [readOpening, skip_false]
  split
  case h_7 heq =>
    obtain ⟨-, rfl⟩ := List.cons.inj heq
    rfl
  all_goals simp_all

theorem readOpening_name {c : Char} (hc : c ∉ ['=', '!']) (s : List Char) :
    readOpening false ('?' :: '<' :: c :: s) =
      (readGroupName (c :: s)).map fun p => (.openGroup (.capture (some p.1)), p.2) := by
  rw [readOpening, skip_false]
  split
  case h_6 heq =>
    obtain ⟨-, rfl⟩ := List.cons.inj (List.cons.inj heq).2
    rfl
  case h_7 hne heq =>
    obtain ⟨-, rfl⟩ := List.cons.inj heq
    exact absurd rfl (hne _)
  all_goals simp_all

theorem readOpening_capture {s : List Char} (h : s.head? ≠ some '?') :
    readOpening false s = .ok (.openGroup (.capture none), s) := by
  rw [readOpening, skip_false]
  split <;> simp_all

theorem steady_readOpening : Steady (readOpening false) := by
  intro s r t more h
  have hnamed := steady_readGroupName.map fun name => Token.openGroup (.capture (some name))
  have horiginal := h
  simp only [readOpening, skip_false] at h
  split at h
  case h_1 | h_2 | h_3 | h_4 => simp at h
  case h_5 s => exact hnamed more h
  case h_6 s hne1 hne2 =>
    cases s with
    | nil => simp [readGroupName, Except.map] at h
    | cons c s =>
      have hc : c ∉ ['=', '!'] := by
        simp only [List.mem_cons, List.not_mem_nil, or_false, not_or]
        exact ⟨fun hc => hne1 s (by rw [hc]), fun hc => hne2 s (by rw [hc])⟩
      simp only [List.cons_append]
      rw [readOpening_name hc]
      exact hnamed more h
  case h_7 s _ _ _ _ _ _ =>
    split at h
    next => simp at h
    next changes r' hflags =>
      cases s with
      | nil => simp [readFlags] at hflags
      | cons c s =>
        simp only [List.cons_append]
        rw [readOpening_flags (ne_of_readFlags hflags), ← List.cons_append,
          steady_readFlags _ _ _ more hflags]
        simp only [Except.ok.injEq, Prod.mk.injEq] at h
        obtain ⟨rfl, rfl⟩ := h
        rfl
    next changes d r' hd hflags =>
      cases s with
      | nil => simp [readFlags] at hflags
      | cons c s =>
        simp only [List.cons_append]
        rw [readOpening_flags (ne_of_readFlags hflags), ← List.cons_append,
          steady_readFlags _ _ _ more hflags]
        split at h
        next => simp at h
        next hchanges =>
          simp only [Except.ok.injEq, Prod.mk.injEq] at h
          obtain ⟨rfl, rfl⟩ := h
          split
          next heq => simp at heq
          next heq => simp_all
          next heq => simp_all
  case h_8 hq =>
    have hq : s.head? ≠ some '?' := by
      cases s with
      | nil => simp
      | cons c s => simpa using fun hc => hq s (by rw [hc])
    rw [readOpening_capture hq] at horiginal
    simp only [Except.ok.injEq, Prod.mk.injEq] at horiginal
    obtain ⟨rfl, rfl⟩ := horiginal
    refine readOpening_capture ?_
    cases s <;> simp_all

/-! ### Tokens -/

theorem steady_readSign (min : Nat) (max : Option Nat) : Steady (readSign min max) := by
  intro s r t more h
  simp only [readSign, Except.ok.injEq, Prod.mk.injEq] at h
  obtain ⟨rfl, rfl⟩ := h
  simp only [readSign, readGreed_append]

theorem steady_readToken (c : Char) : Steady (readToken false c) := by
  intro s r t more h
  simp only [readToken] at h ⊢
  split at h
  case h_1 => exact steady_readOpening more h
  case h_4 | h_5 | h_6 => exact steady_readSign _ _ more h
  case h_7 => exact steady_readCount.map Token.repetition more h
  case h_8 => exact steady_readBracket.map Token.atom more h
  case h_9 => exact steady_readEscape.map Token.atom more h
  all_goals
    simp only [Except.ok.injEq, Prod.mk.injEq] at h
    obtain ⟨rfl, rfl⟩ := h
    rfl

/-- The flags that a token turns on or off. -/
def Token.changes : Token → FlagChanges
  | .openGroup (.plain changes) | .flags changes => changes
  | _ => []

/-- Whether blanks are ignored after a token, and what holds after each group that is open then. -/
def Token.after (ignore : Bool) (outer : List Bool) : Token → Bool × List Bool
  | .openGroup (.plain changes) => ((changes.lookup? .ignoreBlanks).getD ignore, ignore :: outer)
  | .openGroup (.capture _) => (ignore, ignore :: outer)
  | .flags changes => ((changes.lookup? .ignoreBlanks).getD ignore, outer)
  | .closeGroup => (outer.headD ignore, outer.tail)
  | _ => (ignore, outer)

theorem tokens_nil (outer : List Bool) : tokens false outer [] = .ok [] := by
  rw [tokens]
  simp

theorem tokens_cons (outer : List Bool) (c : Char) (s : List Char) :
    tokens false outer (c :: s) =
      match readToken false c s with
      | .error e => .error e
      | .ok (t, rest) =>
        (tokens (t.after false outer).1 (t.after false outer).2 rest).map (t :: ·) := by
  rw [tokens]
  split
  next h => simp at h
  next h =>
    obtain ⟨rfl, rfl⟩ := List.cons.inj h
    split
    next h => rw [h]
    next t rest h =>
      simp only [h]
      cases t with
      | openGroup kind => cases kind <;> rfl
      | _ => rfl

theorem tokens_cons_of_readToken {outer : List Bool} {c : Char} {s rest : List Char} {t : Token}
    {ts : List Token} (h : readToken false c s = .ok (t, rest))
    (hrest : tokens (t.after false outer).1 (t.after false outer).2 rest = .ok ts) :
    tokens false outer (c :: s) = .ok (t :: ts) := by
  rw [tokens_cons, h]
  simp only [hrest]
  rfl

/-- A token that does not turn the ignoring of blanks on leaves it off. -/
theorem Token.after_replicate {t : Token} (h : (Flag.ignoreBlanks, true) ∉ t.changes) (depth : Nat) :
    ∃ depth', t.after false (.replicate depth false) = (false, .replicate depth' false) := by
  have hlookup : ∀ changes : FlagChanges, (Flag.ignoreBlanks, true) ∉ changes →
      (changes.lookup? .ignoreBlanks).getD false = false := by
    intro changes h
    cases hfind : changes.find? fun p => p.1 = .ignoreBlanks with
    | none => simp [FlagChanges.lookup?, hfind]
    | some p =>
      obtain ⟨flag, on⟩ := p
      have hflag : flag = .ignoreBlanks := by simpa using List.find?_some hfind
      have hmem := List.mem_of_find?_eq_some hfind
      subst hflag
      cases on with
      | true => exact absurd hmem h
      | false => simp [FlagChanges.lookup?, hfind]
  cases t with
  | openGroup kind =>
    cases kind with
    | plain changes => exact ⟨depth + 1, by rw [after, hlookup changes h]; rfl⟩
    | capture => exact ⟨depth + 1, rfl⟩
  | flags changes => exact ⟨depth, by rw [after, hlookup changes h]⟩
  | closeGroup => exact ⟨depth - 1, by cases depth <;> rfl⟩
  | _ => exact ⟨depth, rfl⟩

/-- A text that never turns the ignoring of blanks on has the same tokens inside a group, however
deep, and blanks count after the group. -/
theorem tokens_append_close {s : List Char} {ts : List Token} {depth : Nat}
    (h : tokens false (.replicate depth false) s = .ok ts)
    (hts : ∀ t ∈ ts, (Flag.ignoreBlanks, true) ∉ t.changes) (depth' : Nat) :
    ∃ after, ∀ more, tokens false (.replicate depth' false) (s ++ ')' :: more) =
      (tokens false (.replicate after false) more).map (ts ++ .closeGroup :: ·) := by
  induction hn : s.length using Nat.strongRecOn generalizing s ts depth depth' with
  | ind n ih =>
    cases s with
    | nil =>
      rw [tokens_nil] at h
      simp only [Except.ok.injEq] at h
      subst h
      obtain ⟨after, hafter⟩ := Token.after_replicate (t := .closeGroup) (by simp [Token.changes])
        depth'
      exact ⟨after, fun more => by simp [tokens_cons, readToken, hafter]⟩
    | cons c s =>
      rw [tokens_cons] at h
      split at h
      next => simp at h
      next t rest ht =>
        obtain ⟨ts, hrest, rfl⟩ := eq_ok_of_map_eq_ok h
        simp only [List.mem_cons, forall_eq_or_imp] at hts
        obtain ⟨inner, hinner⟩ := Token.after_replicate hts.1 depth
        obtain ⟨inner', hinner'⟩ := Token.after_replicate hts.1 depth'
        rw [hinner] at hrest
        have hlt : rest.length < n := by
          have := length_of_readToken ht
          rw [← hn, List.length_cons]; omega
        obtain ⟨after, hafter⟩ := ih rest.length hlt hrest hts.2 inner' rfl
        refine ⟨after, fun more => ?_⟩
        rw [List.cons_append, tokens_cons, steady_readToken c more ht]
        simp only [hinner', hafter]
        cases tokens false (.replicate after false) more <;> rfl

end RouteTemplate.Regex
