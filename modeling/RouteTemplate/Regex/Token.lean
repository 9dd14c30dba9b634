import RouteTemplate.Regex.Bracket

/-!
The tokens of a regular expression. Blanks between tokens are dropped where a flag says so, and a
flag set inside a group holds up to the end of that group.
-/

namespace RouteTemplate.Regex

/-! ### Repetitions -/

/-- The largest bound that a repetition may have. -/
def maxBound : Nat := 4294967295

/-- Reads decimal digits, last first. -/
def readDigits (ignore : Bool) (digits : List Char) (s : List Char) : List Char × List Char :=
  match s with
  | [] => (digits, [])
  | c :: r =>
    if c.isDigit then readDigits ignore (c :: digits) (skip ignore r) else (digits, c :: r)
  termination_by s.length
  decreasing_by have := length_skip_le ignore r; simp only [List.length_cons]; omega

/-- Drops blanks, and comments too where they are to be ignored. -/
def dropBlanks (ignore : Bool) (s : List Char) : List Char :=
  match s with
  | [] => []
  | c :: r => if Unicode.isBlank c then dropBlanks ignore (skip ignore r) else c :: r
  termination_by s.length
  decreasing_by have := length_skip_le ignore r; simp only [List.length_cons]; omega

/-- Reads a bound of a repetition; there is none where no digit stands or the number is too large. -/
def readBound (ignore : Bool) (s : List Char) : Option Nat × List Char :=
  match readDigits ignore [] (s.dropWhile Unicode.isBlank) with
  | (digits, r) =>
    let n := Text.ofDigits 10 digits.reverse
    (if digits.isEmpty || n > maxBound then none else some n, dropBlanks ignore r)

/-- The greed of a repetition, by whether a `?` follows it. -/
def readGreed : List Char → Bool × List Char
  | '?' :: r => (false, r)
  | s => (true, s)

/-- Reads the end of a counted repetition. -/
def closeCount (ignore : Bool) (min : Nat) (max : Option Nat) : List Char → Reading Repetition
  | '}' :: r =>
    match readGreed (skip ignore r) with
    | (greedy, rest) =>
      if max.all (min ≤ ·) then .ok (⟨min, max, greedy⟩, rest) else .error .badRepetition
  | _ => .error .badRepetition

/-- Reads a counted repetition, from the character after its opening brace on. -/
def readCount (ignore : Bool) (s : List Char) : Reading Repetition :=
  match readBound ignore (skip ignore s) with
  | (none, _) => .error .badRepetition
  | (some min, ',' :: r) =>
    match skip ignore r with
    | '}' :: r => closeCount ignore min none ('}' :: r)
    | s =>
      match readBound ignore s with
      | (none, _) => .error .badRepetition
      | (some max, r) => closeCount ignore min (some max) r
  | (some min, r) => closeCount ignore min (some min) r

/-! ### Openings -/

/-- Reads flags up to a closing parenthesis or a colon, which is given back too. `on` tells whether
a `-` has been read, and `dangling` whether it was read last. -/
def readFlags (on dangling : Bool) (changes : FlagChanges) :
    List Char → Reading (FlagChanges × Char)
  | [] => .error .unclosedGroup
  | c :: r =>
    if c = ':' ∨ c = ')' then
      if dangling then .error .badFlags else .ok ((changes.reverse, c), r)
    else if c = '-' then
      if on then readFlags false true changes r else .error .badFlags
    else
      match Flag.ofChar? c with
      | none => .error .badFlags
      | some f =>
        if changes.any (·.1 = f) then .error .badFlags
        else readFlags on false ((f, on) :: changes) r

/-- The characters that a group's name may have, at its beginning and later on. -/
def isNameChar (first : Bool) (c : Char) : Bool :=
  if first then c = '_' || Unicode.isAlphabetic c
  else c = '_' || c = '.' || c = '[' || c = ']' || Unicode.isAlphanumeric c

def isGroupName : List Char → Bool
  | [] => false
  | c :: r => isNameChar true c && r.all (isNameChar false)

/-- Reads a group's name up to its closing angle bracket. -/
def readGroupName (s : List Char) : Reading (List Char) :=
  let name := s.takeWhile (· ≠ '>')
  match s.dropWhile (· ≠ '>') with
  | _ :: r => if isGroupName name then .ok (name, r) else .error .badGroupName
  | [] => .error .badGroupName

/-- Reads what an opening parenthesis begins, from the character after it on. -/
def readOpening (ignore : Bool) (s : List Char) : Reading Token :=
  match skip ignore s with
  | '?' :: '=' :: _ | '?' :: '!' :: _ | '?' :: '<' :: '=' :: _ | '?' :: '<' :: '!' :: _ =>
    .error .lookAround
  | '?' :: 'P' :: '<' :: r | '?' :: '<' :: r =>
    (readGroupName r).map fun (name, r) => (.openGroup (.capture (some name)), r)
  | '?' :: r =>
    match readFlags true false [] r with
    | .error e => .error e
    | .ok ((changes, ':'), r) => .ok (.openGroup (.plain changes), r)
    | .ok ((changes, _), r) =>
      if changes.isEmpty then .error .nothingToRepeat else .ok (.flags changes, r)
  | s => .ok (.openGroup (.capture none), s)

/-! ### Tokens -/

/-- The repetition that is written by one sign. -/
def readSign (min : Nat) (max : Option Nat) (s : List Char) : Reading Token :=
  match readGreed s with
  | (greedy, r) => .ok (.repetition ⟨min, max, greedy⟩, r)

/-- Reads the token that begins with the character `c`. -/
def readToken (ignore : Bool) (c : Char) (r : List Char) : Reading Token :=
  let atom (reading : Reading Atom) : Reading Token := reading.map fun (a, r) => (.atom a, r)
  match c with
  | '(' => readOpening ignore r
  | ')' => .ok (.closeGroup, r)
  | '|' => .ok (.bar, r)
  | '?' => readSign 0 (some 1) r
  | '*' => readSign 0 none r
  | '+' => readSign 1 none r
  | '{' => (readCount ignore r).map fun (rep, r) => (.repetition rep, r)
  | '[' => atom (readBracket ignore r)
  | '\\' => atom (readEscape ignore r)
  | '.' => .ok (.atom .dot, r)
  | '^' => .ok (.atom (.assertion .lineStart), r)
  | '$' => .ok (.atom (.assertion .lineEnd), r)
  | c => .ok (.atom (.literal ⟨c, false⟩), r)

theorem length_readDigits_le (ignore : Bool) (digits s : List Char) :
    (readDigits ignore digits s).2.length ≤ s.length := by
  fun_induction readDigits ignore digits s with
  | case1 => simp
  | case2 digits c r hc ih => have := length_skip_le ignore r; simp only [List.length_cons]; omega
  | case3 => simp

theorem length_dropBlanks_le (ignore : Bool) (s : List Char) :
    (dropBlanks ignore s).length ≤ s.length := by
  fun_induction dropBlanks ignore s with
  | case1 => simp
  | case2 c r hc ih => have := length_skip_le ignore r; simp only [List.length_cons]; omega
  | case3 => simp

theorem length_readBound_le (ignore : Bool) (s : List Char) :
    (readBound ignore s).2.length ≤ s.length := by
  have h1 := (List.dropWhile_sublist Unicode.isBlank (l := s)).length_le
  have h2 := length_readDigits_le ignore [] (s.dropWhile Unicode.isBlank)
  have h3 := length_dropBlanks_le ignore (readDigits ignore [] (s.dropWhile Unicode.isBlank)).2
  unfold readBound
  simp only; omega

theorem length_readGreed_le (s : List Char) : (readGreed s).2.length ≤ s.length := by
  unfold readGreed; split <;> simp

theorem length_of_closeCount {ignore : Bool} {min : Nat} {max : Option Nat} {s r : List Char}
    {rep : Repetition} (h : closeCount ignore min max s = .ok (rep, r)) : r.length ≤ s.length := by
  unfold closeCount at h
  split at h
  · next r' =>
    have h1 := length_skip_le ignore r'
    have h2 := length_readGreed_le (skip ignore r')
    simp only at h
    split at h
    · simp only [Except.ok.injEq, Prod.mk.injEq] at h
      obtain ⟨-, rfl⟩ := h
      simp only [List.length_cons]; omega
    · simp at h
  · simp at h

theorem length_of_readCount {ignore : Bool} {s r : List Char} {a : Repetition}
    (h : readCount ignore s = .ok (a, r)) : r.length ≤ s.length := by
  have h0 := length_skip_le ignore s
  have h1 := length_readBound_le ignore (skip ignore s)
  unfold readCount at h
  split at h
  · simp at h
  · next min r1 hb =>
    simp only [hb, List.length_cons] at h1
    have h2 := length_skip_le ignore r1
    split at h
    · next r2 hr =>
      rw [hr] at h2
      have := length_of_closeCount h
      omega
    · have h3 := length_readBound_le ignore (skip ignore r1)
      split at h
      · simp at h
      · next max r3 hb2 =>
        simp only [hb2] at h3
        have := length_of_closeCount h
        omega
  · next min r1 _ hb =>
    simp only [hb] at h1
    have := length_of_closeCount h
    omega

theorem length_of_readFlags {on dangling : Bool} {changes : FlagChanges} {s r : List Char}
    {p : FlagChanges × Char} (h : readFlags on dangling changes s = .ok (p, r)) :
    r.length ≤ s.length := by
  fun_induction readFlags on dangling changes s <;> simp_all <;> omega

theorem length_of_readGroupName {s r n : List Char} (h : readGroupName s = .ok (n, r)) :
    r.length ≤ s.length := by
  have hle := (List.dropWhile_sublist (· ≠ '>') (l := s)).length_le
  unfold readGroupName at h
  simp only at h
  split at h
  · next r' hr =>
    rw [hr, List.length_cons] at hle
    split at h
    · simp only [Except.ok.injEq, Prod.mk.injEq] at h
      obtain ⟨-, rfl⟩ := h; omega
    · simp at h
  · simp at h

theorem length_of_readOpening {ignore : Bool} {s r : List Char} {t : Token}
    (h : readOpening ignore s = .ok (t, r)) : r.length ≤ s.length := by
  have h0 := length_skip_le ignore s
  unfold readOpening at h
  split at h
  case h_1 | h_2 | h_3 | h_4 => simp at h
  case h_5 r' hr | h_6 r' hr =>
    obtain ⟨p, h1, h⟩ := eq_ok_of_map_eq_ok h
    have := length_of_readGroupName (n := p.1) (r := p.2) h1
    simp only [Prod.mk.injEq] at h
    obtain ⟨-, rfl⟩ := h
    simp only [hr, List.length_cons] at h0; omega
  case h_7 r' _ _ _ _ _ _ hr =>
    simp only [hr, List.length_cons] at h0
    split at h
    · simp at h
    · next h1 =>
      have := length_of_readFlags h1
      simp only [Except.ok.injEq, Prod.mk.injEq] at h
      obtain ⟨-, rfl⟩ := h; omega
    · next h1 =>
      have := length_of_readFlags h1
      split at h
      · simp at h
      · simp only [Except.ok.injEq, Prod.mk.injEq] at h
        obtain ⟨-, rfl⟩ := h; omega
  case h_8 =>
    simp only [Except.ok.injEq, Prod.mk.injEq] at h
    obtain ⟨-, rfl⟩ := h
    exact h0

theorem length_of_readToken {ignore : Bool} {c : Char} {s r : List Char} {t : Token}
    (h : readToken ignore c s = .ok (t, r)) : r.length ≤ s.length := by
  have sign : ∀ {min max}, readSign min max s = .ok (t, r) → r.length ≤ s.length := by
    intro min max h
    have := length_readGreed_le s
    simp only [readSign, Except.ok.injEq, Prod.mk.injEq] at h
    obtain ⟨-, rfl⟩ := h; exact this
  unfold readToken at h
  split at h
  case h_1 => exact length_of_readOpening h
  case h_4 | h_5 | h_6 => exact sign h
  case h_7 =>
    obtain ⟨p, h1, h⟩ := eq_ok_of_map_eq_ok h
    have := length_of_readCount (a := p.1) (r := p.2) h1
    simp only [Prod.mk.injEq] at h
    obtain ⟨-, rfl⟩ := h; exact this
  case h_8 =>
    obtain ⟨p, h1, h⟩ := eq_ok_of_map_eq_ok h
    have := length_of_readBracket (a := p.1) (r := p.2) h1
    simp only [Prod.mk.injEq] at h
    obtain ⟨-, rfl⟩ := h; omega
  case h_9 =>
    obtain ⟨p, h1, h⟩ := eq_ok_of_map_eq_ok h
    have := length_of_readEscape (a := p.1) (r := p.2) h1
    simp only [Prod.mk.injEq] at h
    obtain ⟨-, rfl⟩ := h; omega
  all_goals
    simp only [Except.ok.injEq, Prod.mk.injEq] at h
    obtain ⟨-, rfl⟩ := h; exact Nat.le_refl _

/-- The tokens of a text. `ignore` says whether blanks are ignored at this point, and `outer` what
holds after each group that is still open, the innermost first. -/
def tokens (ignore : Bool) (outer : List Bool) (s : List Char) : Except SyntaxError (List Token) :=
  match _hs : skip ignore s with
  | [] => .ok []
  | c :: r =>
    match _ht : readToken ignore c r with
    | .error e => .error e
    | .ok (t, rest) =>
      let after : Bool × List Bool :=
        match t with
        | .openGroup (.plain changes) =>
          ((changes.lookup? .ignoreBlanks).getD ignore, ignore :: outer)
        | .openGroup (.capture _) => (ignore, ignore :: outer)
        | .flags changes => ((changes.lookup? .ignoreBlanks).getD ignore, outer)
        | .closeGroup => (outer.headD ignore, outer.tail)
        | _ => (ignore, outer)
      (tokens after.1 after.2 rest).map (t :: ·)
  termination_by s.length
  decreasing_by
    have := length_lt_of_skip_eq_cons _hs
    have := length_of_readToken _ht
    omega

end RouteTemplate.Regex
