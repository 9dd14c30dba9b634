import RouteTemplate.Expander
import RouteTemplate.Proofs.Closing
import RouteTemplate.Proofs.Grammar
import RouteTemplate.Proofs.Naming

/-!
The fragments that every table begins with. Each of them stands for a number of characters of one
set, in which there is no slash.
-/

namespace RouteTemplate.Regex

open Unicode (CharSet)

/-- A pattern that is read as an atom and a repetition of it, and so stands for a number of characters
of a set. -/
structure Repeats (pattern : List Char) (atom : Atom) (r : Repetition) (set : CharSet) : Prop where
  tokens_eq : tokens false [] pattern = .ok [.atom atom, .repetition r]
  parse_tree : Tree.parse pattern = .ok (.repetition r (.atom atom))
  parse_node : Node.parse pattern = .ok (.repetition r (.set set))
  depth_lt : atom.depth < 200

theorem repeats_of_read {c : Char} {s : List Char} {a : Atom} {r : Repetition} {set : CharSet}
    (d : Char) (rest : List Char) (hatom : readToken false c s = .ok (.atom a, d :: rest))
    (hrepetition : readToken false d rest = .ok (.repetition r, []))
    (hset : a.node .initial = .ok (.set set)) (hdepth : a.depth < 200)
    (hmax : r.max ≠ some 0) (honce : ¬(r.min = 1 ∧ r.max = some 1)) :
    Repeats (c :: s) a r set := by
  have htokens : tokens false [] (c :: s) = .ok [.atom a, .repetition r] :=
    tokens_cons_of_readToken hatom (tokens_cons_of_readToken hrepetition (tokens_nil _))
  have htree : Tree.parse (c :: s) = .ok (.repetition r (.atom a)) := by
    rw [Tree.parse, htokens]
    show (if _ then _ else _) = _
    exact if_pos (Nat.le_trans hdepth (by decide))
  have hreplicate : (Node.set set).replicate { r with greedy := r.greedy != false } =
      .repetition r (.set set) := by
    simp [Node.replicate, Node.onlyEmpty, hmax, honce]
  refine ⟨htokens, htree, ?_, hdepth⟩
  rw [Node.parse, htree]
  simp only [bind, Except.bind, Tree.node, hset]
  exact congrArg Except.ok hreplicate

/-! ### Counts -/

theorem readBound_digit {c d : Char} (hc : c.isDigit) (hblank : Unicode.isBlank c = false)
    (hbound : Text.ofDigits 10 [c] ≤ maxBound) (hd : d.isDigit = false)
    (hblank' : Unicode.isBlank d = false) (s : List Char) :
    readBound false (c :: d :: s) = (some (Text.ofDigits 10 [c]), d :: s) := by
  have hdrop : (c :: d :: s).dropWhile Unicode.isBlank = c :: d :: s := by simp [hblank]
  have hdigits : readDigits false [] (c :: d :: s) = ([c], d :: s) := by
    rw [readDigits, if_pos hc, skip_false, readDigits, if_neg (by simp [hd])]
  have hrest : dropBlanks false (d :: s) = d :: s := by
    rw [dropBlanks, if_neg (by simp [hblank'])]
  simp only [readBound, hdrop, hdigits, hrest, List.reverse_singleton, List.isEmpty_cons,
    Bool.false_or, decide_eq_true_eq]
  rw [if_neg (Nat.not_lt.2 hbound)]

/-- A count of one digit. -/
theorem readToken_count {c : Char} (hc : c.isDigit) (hblank : Unicode.isBlank c = false)
    (hbound : Text.ofDigits 10 [c] ≤ maxBound) : readToken false '\x7b' [c, '\x7d'] =
      .ok (.repetition ⟨Text.ofDigits 10 [c], some (Text.ofDigits 10 [c]), true⟩, []) := by
  have hread := readBound_digit hc hblank hbound (d := '\x7d') rfl rfl []
  simp [readToken, readCount, hread, closeCount, readGreed, Except.map]

/-- A count between two digits. -/
theorem readToken_counts {c d : Char} (hc : c.isDigit) (hblank : Unicode.isBlank c = false)
    (hbound : Text.ofDigits 10 [c] ≤ maxBound) (hd : d.isDigit) (hblank' : Unicode.isBlank d = false)
    (hbound' : Text.ofDigits 10 [d] ≤ maxBound)
    (hle : Text.ofDigits 10 [c] ≤ Text.ofDigits 10 [d]) :
    readToken false '\x7b' [c, ',', d, '\x7d'] =
      .ok (.repetition ⟨Text.ofDigits 10 [c], some (Text.ofDigits 10 [d]), true⟩, []) := by
  have hread := readBound_digit hc hblank hbound (d := ',') rfl rfl [d, '\x7d']
  have hread' := readBound_digit hd hblank' hbound' (d := '\x7d') rfl rfl []
  have hne : d ≠ '\x7d' := by rintro rfl; cases hd
  simp [readToken, readCount, hread, hread', hne, closeCount, readGreed, hle, Except.map]

/-! ### Brackets -/

theorem readBracket_lower : readBracket false "a-z]\x7b3\x7d".toList =
    .ok (.bracket false (.range ⟨'a', false⟩ ⟨'z', false⟩), "\x7b3\x7d".toList) := by
  have hopen : openBracket false "a-z]\x7b3\x7d".toList =
      .ok (⟨false, none, []⟩, "a-z]\x7b3\x7d".toList) := by
    simp [openBracket, readCaret, readHyphens, readFirstClose]
  rw [readBracket, hopen]
  show Except.map _ (readBrackets false _ [] ('a' :: _)) = _
  rw [readBrackets_item (fun _ _ _ _ => by decide) (by decide) (by decide)]
  show Except.map _ (readBrackets false _ [] (']' :: _)) = _
  rw [readBrackets_close]
  rfl

theorem readBracket_word : readBracket false "\\w-]+".toList =
    .ok (.bracket false (.union [.short .word false, .literal ⟨'-', false⟩]), "+".toList) := by
  have hopen : openBracket false "\\w-]+".toList = .ok (⟨false, none, []⟩, "\\w-]+".toList) := by
    simp [openBracket, readCaret, readHyphens, readFirstClose]
  rw [readBracket, hopen]
  show Except.map _ (readBrackets false _ [] ('\\' :: _)) = _
  rw [readBrackets_item (fun _ _ _ _ => by decide) (by decide) (by decide)]
  show Except.map _ (readBrackets false _ [] ('-' :: ']' :: _)) = _
  rw [readBrackets_item (by rintro d r ⟨⟩; decide) (by decide) (by decide)]
  show Except.map _ (readBrackets false _ [] (']' :: _)) = _
  rw [readBrackets_close]
  rfl

/-! ### Fragments -/

theorem repeats_digits :
    Repeats "\\d+".toList (.short .digit false) ⟨1, none, true⟩ Unicode.decimalDigits :=
  repeats_of_read '+' [] rfl rfl rfl (by decide) (by decide) (by decide)

theorem repeats_word :
    Repeats "\\w+".toList (.short .word false) ⟨1, none, true⟩ Unicode.wordChars :=
  repeats_of_read '+' [] rfl rfl rfl (by decide) (by decide) (by decide)

theorem repeats_two_digits : Repeats "\\d\x7b1,2\x7d".toList (.short .digit false)
    ⟨1, some 2, true⟩ Unicode.decimalDigits :=
  repeats_of_read '\x7b' "1,2\x7d".toList rfl
    (readToken_counts rfl rfl (by decide) rfl rfl (by decide) (by decide)) rfl (by decide)
    (by decide) (by decide)

theorem repeats_four_digits : Repeats "\\d\x7b4\x7d".toList (.short .digit false)
    ⟨4, some 4, true⟩ Unicode.decimalDigits :=
  repeats_of_read '\x7b' "4\x7d".toList rfl
    (readToken_count rfl rfl (by decide)) rfl (by decide) (by decide) (by decide)

theorem repeats_three_letters : Repeats "[a-z]\x7b3\x7d".toList
    (.bracket false (.range ⟨'a', false⟩ ⟨'z', false⟩)) ⟨3, some 3, true⟩ (.interval 'a' 'z') := by
  have hatom : readToken false '[' "a-z]\x7b3\x7d".toList =
      .ok (.atom (.bracket false (.range ⟨'a', false⟩ ⟨'z', false⟩)), "\x7b3\x7d".toList) := by
    show (readBracket false _).map _ = _
    rw [readBracket_lower]
    rfl
  exact repeats_of_read '\x7b' "3\x7d".toList hatom (readToken_count rfl rfl (by decide)) rfl
    (by decide) (by decide) (by decide)

theorem repeats_slug : Repeats "[\\w-]+".toList
    (.bracket false (.union [.short .word false, .literal ⟨'-', false⟩])) ⟨1, none, true⟩
    (.unions [Unicode.wordChars, .singleton '-']) := by
  have hatom : readToken false '[' "\\w-]+".toList =
      .ok (.atom (.bracket false (.union [.short .word false, .literal ⟨'-', false⟩])),
        "+".toList) := by
    show (readBracket false _).map _ = _
    rw [readBracket_word]
    rfl
  exact repeats_of_read '+' [] hatom rfl rfl (by decide) (by decide) (by decide)

theorem wordChars_slash : Unicode.wordChars.contains '/' = false := by
  show Unicode.isWord '/' = false
  rw [Unicode.isWord_of_lt (by decide)]
  decide

theorem decimalDigits_slash : Unicode.decimalDigits.contains '/' = false := by
  rw [CharSet.contains, Unicode.decimalDigits, CharSet.hasCode_splice_of_lt _ _ (by decide)]
  decide

/-- What is found in the standard table repeats characters other than a slash. -/
theorem exists_repeats_of_get? {key fragment : List Char}
    (h : FragmentTable.standard.get? key = some fragment) :
    ∃ a r set, Repeats fragment a r set ∧ set.contains '/' = false := by
  have hentries : FragmentTable.standard.entries = FragmentTable.standardEntries := by decide
  have hmem := mem_of_lookup h
  rw [hentries] at hmem
  simp only [FragmentTable.standardEntries, List.mem_cons, List.not_mem_nil, or_false,
    Prod.mk.injEq] at hmem
  obtain ⟨-, rfl⟩ | ⟨-, rfl⟩ | ⟨-, rfl⟩ | ⟨-, rfl⟩ | ⟨-, rfl⟩ | ⟨-, rfl⟩ | ⟨-, rfl⟩ | ⟨-, rfl⟩ := hmem
  · exact ⟨_, _, _, repeats_two_digits, decimalDigits_slash⟩
  · exact ⟨_, _, _, repeats_digits, decimalDigits_slash⟩
  · exact ⟨_, _, _, repeats_two_digits, decimalDigits_slash⟩
  · refine ⟨_, _, _, repeats_slug, ?_⟩
    have hword := wordChars_slash
    rw [CharSet.contains] at hword ⊢
    rw [CharSet.hasCode_unions, List.any_cons, hword]
    decide
  · exact ⟨_, _, _, repeats_word, wordChars_slash⟩
  · exact ⟨_, _, _, repeats_four_digits, decimalDigits_slash⟩
  · exact ⟨_, _, _, repeats_three_letters, by decide⟩
  · exact ⟨_, _, _, repeats_digits, decimalDigits_slash⟩

end RouteTemplate.Regex
