import RouteTemplate.Proofs.Characters
import RouteTemplate.Proofs.Compiling

/-!
Texts in quotation marks. They can be read back character by character, so where a quotation ends is
settled by how it begins, whatever stands in it or follows it. All that is written in one can be shown as
itself, hence nothing in one ends a line. So the message on a template that does not compile stays on one
line and tells which template and which pattern it is about.
-/

namespace RouteTemplate

/-! ### Characters that can be shown -/

namespace Unicode

theorem isPrintable_of_ascii {c : Char} (h : 0x20 ≤ c.toNat ∧ c.toNat ≤ 0x7E) : isPrintable c := by
  have hcontains : printable.contains c = true := by
    rw [CharSet.contains, printable, CharSet.hasCode_splice_of_lt _ _ (by omega)]
    simpa [CharSet.hasCode, CodeRange.contains] using h
  rw [isPrintable, hcontains, Bool.true_or]

theorem isPrintable_of_mem_ascii {s : List Char} {c : Char}
    (hs : (s.all fun c => decide (0x20 ≤ c.toNat ∧ c.toNat ≤ 0x7E)) = true) (hc : c ∈ s) :
    isPrintable c :=
  isPrintable_of_ascii (of_decide_eq_true (List.all_eq_true.1 hs c hc))

theorem isPrintable_eq (c : Char) : isPrintable c =
    ((⟨[⟨0x20, 0x7E⟩]⟩ : CharSet).contains c ||
      (!((Category.ofChar c).isOther || (Category.ofChar c).isSeparator) &&
        !(⟨[⟨0, 0x7F⟩]⟩ : CharSet).contains c) || Later.chars.contains c) := by
  rw [← contains_charsIn fun g => !(g.isOther || g.isSeparator)]
  simp only [isPrintable, CharSet.contains, printable, CharSet.splice, CharSet.aboveAscii,
    CharSet.hasCode_union, CharSet.hasCode_difference]

/-- The characters that end a line, wherever text is shown. -/
def lineBreaks : List Char := ['\n', '\x0b', '\x0c', '\r', '\x85', '\u2028', '\u2029']

theorem not_isPrintable {c : Char} (h : c ∈ lineBreaks ∨ c = '\t' ∨ c = '\x00') : ¬isPrintable c := by
  have hall : (('\t' :: '\x00' :: lineBreaks).all fun c => !isPrintable c) = true := by
    simp only [isPrintable_eq]
    decide +kernel
  have hc : c ∈ '\t' :: '\x00' :: lineBreaks := by
    rcases h with h | rfl | rfl
    · exact .tail _ (.tail _ h)
    · exact .head _
    · exact .tail _ (.head _)
  simpa using List.all_eq_true.1 hall c hc

end Unicode

namespace Text

/-! ### Numbers in escapes -/

theorem mem_hexDigits {n : Nat} {c : Char} (h : c ∈ hexDigits n) : ∃ d < 16, c = Nat.digitChar d := by
  induction n using Nat.strongRecOn with
  | ind n ih =>
    rw [hexDigits, Nat.toDigits_eq_if (by decide)] at h
    split at h
    next hn => exact ⟨n, hn, List.mem_singleton.1 h⟩
    next hn =>
      rcases List.mem_append.1 h with h | h
      · exact ih (n / 16) (by omega) h
      · exact ⟨n % 16, Nat.mod_lt n (by decide), List.mem_singleton.1 h⟩

theorem ofDigits_concat {base d : Nat} {c : Char} (h : digit? base c = some d) (s : List Char) :
    ofDigits base (s ++ [c]) = base * ofDigits base s + d := by
  simp [ofDigits, h]

theorem ofDigits_hexDigits (n : Nat) : ofDigits 16 (hexDigits n) = n := by
  have hdigit : ∀ d < 16, digit? 16 (Nat.digitChar d) = some d := by decide
  induction n using Nat.strongRecOn with
  | ind n ih =>
    rw [hexDigits, Nat.toDigits_eq_if (by decide)]
    split
    next hn => exact (ofDigits_concat (hdigit n hn) []).trans (by simp [ofDigits])
    next hn =>
      rw [ofDigits_concat (hdigit _ (Nat.mod_lt n (by decide)))]
      have hrest := ih (n / 16) (by omega)
      rw [hexDigits] at hrest
      omega

theorem charOfCode?_toNat (c : Char) : charOfCode? c.toNat = some c := by
  have hvalid : c.toNat.isValidChar := c.valid
  rw [charOfCode?, dif_pos hvalid]
  rfl

/-! ### Reading escapes -/

/-- Reads what stands for a character between quotation marks. -/
def unescape? : List Char → Option (Char × List Char)
  | '\\' :: 'u' :: '{' :: r =>
    match r.takeWhile (· ≠ '}'), r.dropWhile (· ≠ '}') with
    | digits, '}' :: rest => (charOfCode? (ofDigits 16 digits)).map (·, rest)
    | _, _ => none
  | '\\' :: '0' :: r => some ('\x00', r)
  | '\\' :: 't' :: r => some ('\t', r)
  | '\\' :: 'r' :: r => some ('\r', r)
  | '\\' :: 'n' :: r => some ('\n', r)
  | '\\' :: '\\' :: r => some ('\\', r)
  | '\\' :: '"' :: r => some ('"', r)
  | '\\' :: _ => none
  | '"' :: _ => none
  | c :: r => some (c, r)
  | [] => none

theorem unescape?_codeEscape (c : Char) (r : List Char) :
    unescape? (codeEscape c ++ r) = some (c, r) := by
  have hbrace : ∀ d < 16, Nat.digitChar d ≠ '}' := by decide
  have hdigits : ∀ x ∈ hexDigits c.toNat, decide (x ≠ '}') = true := by
    intro x hx
    obtain ⟨d, hd, rfl⟩ := mem_hexDigits hx
    exact decide_eq_true (hbrace d hd)
  obtain ⟨htake, hdrop⟩ :=
    Placeholder.takeWhile_append_of_all (r := r) hdigits (c := '}') (by decide)
  have htext : codeEscape c ++ r = '\\' :: 'u' :: '{' :: (hexDigits c.toNat ++ '}' :: r) := by
    simp [codeEscape]
  rw [htext, unescape?]
  simp only [htake, hdrop, ofDigits_hexDigits, charOfCode?_toNat, Option.map_some]

/-- A character is written as a letter or mark behind a backslash, by its code point, or as itself. -/
theorem escape_cases (c : Char) :
    (∃ x ∈ "0trn\\\"".toList, escape c = ['\\', x] ∧ ∀ r, unescape? ('\\' :: x :: r) = some (c, r)) ∨
      escape c = codeEscape c ∨
      escape c = [c] ∧ c ≠ '\\' ∧ c ≠ '"' ∧ Unicode.isPrintable c := by
  unfold escape
  split
  next h => exact .inl ⟨'0', by decide, rfl, fun r => h ▸ rfl⟩
  split
  next h => exact .inl ⟨'t', by decide, rfl, fun r => h ▸ rfl⟩
  split
  next h => exact .inl ⟨'r', by decide, rfl, fun r => h ▸ rfl⟩
  split
  next h => exact .inl ⟨'n', by decide, rfl, fun r => h ▸ rfl⟩
  split
  next h =>
    rcases (by simpa using h : c = '\\' ∨ c = '"') with rfl | rfl
    · exact .inl ⟨'\\', by decide, rfl, fun r => rfl⟩
    · exact .inl ⟨'"', by decide, rfl, fun r => rfl⟩
  next h =>
    split
    · exact .inr (.inl rfl)
    next hshown =>
      simp only [Bool.or_eq_true, decide_eq_true_eq, not_or] at h
      exact .inr (.inr ⟨rfl, h.1, h.2, by simpa using (not_or.1 (mt Bool.or_eq_true_iff.2 hshown)).2⟩)

/-- What stands for a character is read back, whatever follows it. -/
theorem unescape?_escape (c : Char) (r : List Char) : unescape? (escape c ++ r) = some (c, r) := by
  rcases escape_cases c with ⟨x, -, hc, hread⟩ | hc | ⟨hc, hbackslash, hmark, -⟩
  · rw [hc]
    exact hread r
  · rw [hc, unescape?_codeEscape]
  · rw [hc, List.singleton_append]
    unfold unescape?
    split <;> simp_all

theorem unescape?_quotationMark (r : List Char) : unescape? ('"' :: r) = none := rfl

/-- Where a quotation ends is settled by how it begins. -/
theorem quote_append_inj {s t r u : List Char} (h : quote s ++ r = quote t ++ u) : s = t ∧ r = u := by
  have hbody : s.flatMap escape ++ '"' :: r = t.flatMap escape ++ '"' :: u := by
    simpa [quote] using h
  clear h
  induction s generalizing t with
  | nil =>
    cases t with
    | nil => exact ⟨rfl, (List.cons.inj hbody).2⟩
    | cons d t =>
      have hread := congrArg unescape? hbody
      rw [List.flatMap_cons, List.append_assoc, unescape?_escape] at hread
      cases (unescape?_quotationMark r).symm.trans hread
  | cons c s ih =>
    rw [List.flatMap_cons, List.append_assoc] at hbody
    cases t with
    | nil =>
      have hread := congrArg unescape? hbody
      rw [unescape?_escape] at hread
      cases hread.trans (unescape?_quotationMark u)
    | cons d t =>
      have hread := congrArg unescape? hbody
      rw [List.flatMap_cons, List.append_assoc, unescape?_escape, unescape?_escape] at hread
      obtain ⟨rfl, hrest⟩ := Prod.mk.inj (Option.some.inj hread)
      obtain ⟨rfl, rfl⟩ := ih hrest
      exact ⟨rfl, rfl⟩

/-! ### What is written between quotation marks -/

theorem isPrintable_of_mem_escape {c x : Char} (h : x ∈ escape c) : Unicode.isPrintable x := by
  rcases escape_cases c with ⟨y, hy, hc, -⟩ | hc | ⟨hc, -, -, hprintable⟩
  · rw [hc] at h
    rcases List.mem_cons.1 h with rfl | h
    · exact Unicode.isPrintable_of_ascii (by decide)
    · exact Unicode.isPrintable_of_mem_ascii (by decide) (List.mem_singleton.1 h ▸ hy)
  · have hdigit : ∀ d < 16, 0x20 ≤ (Nat.digitChar d).toNat ∧ (Nat.digitChar d).toNat ≤ 0x7E := by
      decide
    rw [hc, codeEscape, List.append_assoc] at h
    rcases List.mem_append.1 h with h | h
    · exact Unicode.isPrintable_of_mem_ascii (by decide) h
    rcases List.mem_append.1 h with h | h
    · obtain ⟨d, hd, rfl⟩ := mem_hexDigits h
      exact Unicode.isPrintable_of_ascii (hdigit d hd)
    · exact Unicode.isPrintable_of_mem_ascii (by decide) h
  · rw [hc] at h
    exact List.mem_singleton.1 h ▸ hprintable

theorem isPrintable_of_mem_quote {s : List Char} {x : Char} (h : x ∈ quote s) :
    Unicode.isPrintable x := by
  have hmark : Unicode.isPrintable '"' := Unicode.isPrintable_of_ascii (by decide)
  simp only [quote, List.cons_append, List.mem_cons, List.mem_append, List.mem_flatMap,
    List.not_mem_nil, or_false] at h
  rcases h with rfl | ⟨c, -, h⟩ | rfl
  · exact hmark
  · exact isPrintable_of_mem_escape h
  · exact hmark

end Text

/-! ### Messages -/

namespace Expander

variable {e : Expander} {t : List Char} {o : Overrides} {err : Error}

/-- A template has no regular expression, and no route, for a reason. -/
def Fails [Regex.SizeLimit] (e : Expander) (t : List Char) (o : Overrides) (err : Error) : Prop :=
  e.compile t o = .error err ∨ e.route t o = .error err

theorem Fails.exists_cause [Regex.SizeLimit] (h : e.Fails t o err) :
    ∃ cause, err = .invalidRegex t (e.expand t o) cause := by
  have hcompile : e.compile t o = .error err := h.elim id route_eq_error_iff.1
  obtain ⟨cause, -, rfl⟩ := compile_eq_error_iff.1 hcompile
  exact ⟨cause, rfl⟩

theorem fails_of_expand [Regex.SizeLimit] {pattern : List Char} {cause : Regex.SyntaxError}
    (hexpand : e.expand t o = pattern) (h : Regex.Node.parse pattern = .error cause) :
    e.Fails t o (.invalidRegex t pattern (.malformed cause)) := by
  subst hexpand
  refine .inl (compile_eq_error_iff.2 ⟨.malformed cause, ?_, rfl⟩)
  rw [Regex.compile, h]
  rfl

end Expander

namespace Error

variable {template pattern template' pattern' : List Char} {cause cause' : Regex.CompileError}

theorem message_invalidRegex (template pattern : List Char) (cause : Regex.CompileError) :
    (invalidRegex template pattern cause).message = "template ".toList ++ (Text.quote template ++
      (" expanded to invalid regex ".toList ++ (Text.quote pattern ++ ": ".toList))) := by
  show "template ".toList ++ Text.quote template ++ " expanded to invalid regex ".toList ++
    Text.quote pattern ++ ": ".toList = _
  rw [List.append_assoc, List.append_assoc, List.append_assoc]

theorem message_invalidRegex_inj
    (h : (invalidRegex template pattern cause).message =
      (invalidRegex template' pattern' cause').message) :
    template = template' ∧ pattern = pattern' := by
  rw [message_invalidRegex, message_invalidRegex] at h
  obtain ⟨htemplate, hrest⟩ := Text.quote_append_inj (List.append_cancel_left h)
  obtain ⟨hpattern, -⟩ := Text.quote_append_inj (List.append_cancel_left hrest)
  exact ⟨htemplate, hpattern⟩

theorem isPrintable_of_mem_message {c : Char}
    (h : c ∈ (invalidRegex template pattern cause).message) : Unicode.isPrintable c := by
  rw [message_invalidRegex] at h
  rcases List.mem_append.1 h with h | h
  · exact Unicode.isPrintable_of_mem_ascii (by decide) h
  rcases List.mem_append.1 h with h | h
  · exact Text.isPrintable_of_mem_quote h
  rcases List.mem_append.1 h with h | h
  · exact Unicode.isPrintable_of_mem_ascii (by decide) h
  rcases List.mem_append.1 h with h | h
  · exact Text.isPrintable_of_mem_quote h
  · exact Unicode.isPrintable_of_mem_ascii (by decide) h

/-- What is said of a template that does not compile, up to the words on the cause, tells the template and
the pattern that it expands to. It can be shown on one line, whatever they are. -/
theorem message_identifies [Regex.SizeLimit] :
    (∀ (e : Expander) (t : List Char) (o : Overrides) (err : Error), e.Fails t o err →
      ∃ cause, err = .invalidRegex t (e.expand t o) cause) ∧
    ∀ (template pattern : List Char) (cause : Regex.CompileError),
      (∀ template' pattern' cause', (invalidRegex template pattern cause).message =
        (invalidRegex template' pattern' cause').message ↔
          template = template' ∧ pattern = pattern') ∧
      ∀ c ∈ (invalidRegex template pattern cause).message,
        Unicode.isPrintable c ∧ c ∉ Unicode.lineBreaks ∧ c ≠ '\t' ∧ c ≠ '\x00' := by
  refine ⟨fun e t o err => Expander.Fails.exists_cause, fun template pattern cause =>
    ⟨fun template' pattern' cause' => ⟨message_invalidRegex_inj, ?_⟩, fun c hc => ?_⟩⟩
  · rintro ⟨rfl, rfl⟩
    rfl
  · have hprintable := isPrintable_of_mem_message hc
    have hshown := fun h => Unicode.not_isPrintable (c := c) h hprintable
    exact ⟨hprintable, fun h => hshown (.inl h), fun h => hshown (.inr (.inl h)),
      fun h => hshown (.inr (.inr h))⟩

/-- Of two templates that do not compile, one has a tab where the other writes an escape for it. -/
theorem message_identifies_of_tab :
    let tab := invalidRegex "(\t".toList "^(\t/$".toList (.malformed .unclosedGroup)
    let escape := invalidRegex "(\\t".toList "^(\\t/$".toList (.malformed .unclosedGroup)
    Expander.standard.Fails "(\t".toList .none tab ∧
      Expander.standard.Fails "(\\t".toList .none escape ∧
      (∃ cause, tab = .invalidRegex "(\t".toList (Expander.standard.expand "(\t".toList .none) cause) ∧
      tab.message ≠ escape.message ∧ '\t' ∉ tab.message := by
  intro tab escape
  have htab : Expander.standard.Fails "(\t".toList .none tab :=
    Expander.fails_of_expand (by decide +kernel) (by decide +kernel)
  have hescape : Expander.standard.Fails "(\\t".toList .none escape :=
    Expander.fails_of_expand (by decide +kernel) (by decide +kernel)
  obtain ⟨hcause, hmessages⟩ := message_identifies
  obtain ⟨hidentifies, hplain⟩ := hmessages "(\t".toList "^(\t/$".toList (.malformed .unclosedGroup)
  refine ⟨htab, hescape, hcause _ _ _ _ htab, fun heq => ?_, fun hmem => (hplain _ hmem).2.2.1 rfl⟩
  obtain ⟨htemplate, -⟩ := (hidentifies _ _ _).1 heq
  exact absurd htemplate (by decide)

end Error

end RouteTemplate
