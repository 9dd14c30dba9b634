import RouteTemplate.Proofs.Closing
import RouteTemplate.Proofs.Grammar
import RouteTemplate.Proofs.Numbering

/-!
Patterns in pieces: plain characters, the two ends, and named groups around fragments that are valid
on their own. Each piece is read by itself, so that the node of the whole is the row of the nodes of
its pieces, and the only ways to fail are a name that is none and a name that is given twice.
-/

namespace RouteTemplate.Regex

/-- The characters that mean something else than themselves in a pattern. -/
def metaChars : List Char := "\\.+*?()|[]\x7b\x7d^$".toList

/-- A pattern that is valid on its own and never turns the ignoring of blanks on, with what it is
read as. -/
structure Fragment where
  text : List Char
  tokens : List Token
  assembly : Assembly
  node : Node
  flags : Flags
  tokens_eq : Regex.tokens false [] text = .ok tokens
  counts_blanks : ∀ t ∈ tokens, (Flag.ignoreBlanks, true) ∉ t.changes
  assembly_eq : tokens.foldlM Assembly.take .start = .ok assembly
  closed : assembly.outer = []
  node_eq : assembly.inside.node .initial = .ok (node, flags)

/-- A fragment without a named group. -/
def Fragment.Unnamed (fragment : Fragment) : Prop :=
  ∀ name, Token.openGroup (.capture (some name)) ∉ fragment.tokens

inductive Piece where
  | char (c : Char) (plain : c ∉ metaChars)
  | start
  | stop
  | group (name : List Char) (word : ∀ c ∈ name, Unicode.isWord c) (fragment : Fragment)

namespace Piece

def text : Piece → List Char
  | .char c _ => [c]
  | .start => ['^']
  | .stop => ['$']
  | .group name _ fragment => "(?P<".toList ++ name ++ '>' :: fragment.text ++ [')']

def tokens : Piece → List Token
  | .char c _ => [.atom (.literal ⟨c, false⟩)]
  | .start => [.atom (.assertion .lineStart)]
  | .stop => [.atom (.assertion .lineEnd)]
  | .group name _ fragment =>
    .openGroup (.capture (some name)) :: (fragment.tokens ++ [.closeGroup])

def name? : Piece → Option (List Char)
  | .group name _ _ => some name
  | _ => none

/-- A piece with no named group but its own. -/
def Unnamed : Piece → Prop
  | .group _ _ fragment => fragment.Unnamed
  | _ => True

/-- How many groups a piece has. -/
def width : Piece → Nat
  | .group _ _ fragment => fragment.assembly.groups + 1
  | _ => 0

/-- The tree of a piece that has `k` groups before it. -/
def part (k : Nat) : Piece → Tree
  | .char c _ => .atom (.literal ⟨c, false⟩)
  | .start => .atom (.assertion .lineStart)
  | .stop => .atom (.assertion .lineEnd)
  | .group name _ fragment =>
    .group (.capture (k + 1) (some name)) (fragment.assembly.inside.shift (k + 1))

def parts (k : Nat) : List Piece → List Tree
  | [] => []
  | piece :: pieces => piece.part k :: parts (k + piece.width) pieces

/-! ### Tokens -/

theorem readToken_plain {c : Char} (hc : c ∉ metaChars) (s : List Char) :
    readToken false c s = .ok (.atom (.literal ⟨c, false⟩), s) := by
  unfold readToken
  split
  case h_13 => rfl
  all_goals exact absurd (by decide) hc

theorem text_group_append (name : List Char) (word : ∀ c ∈ name, Unicode.isWord c)
    (fragment : Fragment) (more : List Char) : (group name word fragment).text ++ more =
      '(' :: ("?P<".toList ++ (name ++ '>' :: (fragment.text ++ ')' :: more))) := by
  simp [text]

theorem readGroupName_append {name : List Char} (hname : '>' ∉ name) (s : List Char) :
    readGroupName (name ++ '>' :: s) =
      if isGroupName name then .ok (name, s) else .error .badGroupName := by
  obtain ⟨htake, hdrop⟩ := Placeholder.takeWhile_append_of_all (f := (· ≠ '>')) (s := name) (r := s)
    (c := '>') (fun x hx => by simpa using fun (h : x = '>') => hname (h ▸ hx)) (by simp)
  simp only [readGroupName, htake, hdrop]

/-- A piece has the same tokens wherever it stands, and leaves blanks to count. -/
theorem tokens_append {piece : Piece} (h : ∀ name ∈ piece.name?, isGroupName name) (depth : Nat) :
    ∃ after, ∀ more, Regex.tokens false (.replicate depth false) (piece.text ++ more) =
      (Regex.tokens false (.replicate after false) more).map (piece.tokens ++ ·) := by
  cases piece with
  | char c plain =>
    exact ⟨depth, fun more => by simp [text, tokens, tokens_cons, readToken_plain plain, Token.after]⟩
  | start => exact ⟨depth, fun more => by simp [text, tokens, tokens_cons, readToken, Token.after]⟩
  | stop => exact ⟨depth, fun more => by simp [text, tokens, tokens_cons, readToken, Token.after]⟩
  | group name word fragment =>
    have htokens : Regex.tokens false (.replicate 0 false) fragment.text = .ok fragment.tokens :=
      fragment.tokens_eq
    obtain ⟨after, hafter⟩ := tokens_append_close htokens fragment.counts_blanks (depth + 1)
    have hread (s : List Char) : readToken false '(' ("?P<".toList ++ (name ++ '>' :: s)) =
        .ok (.openGroup (.capture (some name)), s) := by
      show (readGroupName (name ++ '>' :: s)).map _ = _
      rw [readGroupName_append (Unicode.notMem_of_isWord word Unicode.isWord_close), if_pos (h name rfl)]
      rfl
    refine ⟨after, fun more => ?_⟩
    rw [text_group_append, tokens_cons, hread]
    show (Regex.tokens false (.replicate (depth + 1) false) _).map _ = _
    rw [hafter more]
    cases Regex.tokens false (.replicate after false) more <;> simp [Except.map, tokens]

theorem tokens_append_of_not_isGroupName {piece : Piece} {name : List Char}
    (hname : piece.name? = some name) (hbad : ¬isGroupName name) (outer : List Bool)
    (more : List Char) :
    Regex.tokens false outer (piece.text ++ more) = .error .badGroupName := by
  cases piece with
  | group name' word fragment =>
    obtain rfl := Option.some.inj hname
    have hread (s : List Char) : readToken false '(' ("?P<".toList ++ (name' ++ '>' :: s)) =
        .error .badGroupName := by
      show (readGroupName (name' ++ '>' :: s)).map _ = _
      rw [readGroupName_append (Unicode.notMem_of_isWord word Unicode.isWord_close), if_neg hbad]
      rfl
    rw [text_group_append, tokens_cons, hread]
  | _ => cases hname

theorem tokens_flatMap {pieces : List Piece}
    (h : ∀ name ∈ pieces.filterMap name?, isGroupName name) (depth : Nat) :
    Regex.tokens false (.replicate depth false) (pieces.flatMap text) =
      .ok (pieces.flatMap tokens) := by
  induction pieces generalizing depth with
  | nil => exact tokens_nil _
  | cons piece pieces ih =>
    have hpiece : ∀ name ∈ piece.name?, isGroupName name := fun name hname =>
      h name (by simp [Option.mem_def.1 hname])
    have hpieces : ∀ name ∈ pieces.filterMap name?, isGroupName name := fun name hname =>
      h name (by rw [List.filterMap_cons]; split <;> simp [hname])
    obtain ⟨after, hafter⟩ := tokens_append hpiece depth
    rw [List.flatMap_cons, hafter, ih hpieces]
    rfl

theorem tokens_flatMap_of_not_isGroupName {pieces : List Piece} {name : List Char}
    (hname : name ∈ pieces.filterMap name?) (hbad : ¬isGroupName name) (depth : Nat) :
    Regex.tokens false (.replicate depth false) (pieces.flatMap text) = .error .badGroupName := by
  induction pieces generalizing depth with
  | nil => cases hname
  | cons piece pieces ih =>
    rw [List.flatMap_cons]
    cases hpiece : piece.name? with
    | none =>
      rw [List.filterMap_cons_none hpiece] at hname
      have hnone : ∀ name ∈ piece.name?, isGroupName name := by simp [hpiece]
      obtain ⟨after, hafter⟩ := tokens_append hnone depth
      rw [hafter, ih hname]
      rfl
    | some first =>
      rw [List.filterMap_cons_some hpiece, List.mem_cons] at hname
      by_cases hfirst : isGroupName first
      · have hsome : ∀ name ∈ piece.name?, isGroupName name := by simpa [hpiece]
        obtain ⟨after, hafter⟩ := tokens_append hsome depth
        have hmem : name ∈ pieces.filterMap name? :=
          hname.resolve_left fun h => hbad (h ▸ hfirst)
        rw [hafter, ih hmem]
        rfl
      · exact tokens_append_of_not_isGroupName hpiece hfirst _ _

/-! ### Trees -/

/-- The names that a piece gives, the last one first. -/
def names : Piece → List (List Char)
  | .group name _ fragment => fragment.assembly.names ++ [name]
  | _ => []

/-- A group without a named group inside gives its own name only. -/
theorem names_of_unnamed {piece : Piece} (h : piece.Unnamed) : piece.names = piece.name?.toList := by
  cases piece with
  | group name word fragment =>
    have hnames : fragment.assembly.names = [] :=
      Assembly.names_of_foldlM_take fragment.assembly_eq h
    simp [names, name?, hnames]
  | _ => rfl

theorem take_open {name : List Char} {names : List (List Char)} (hname : name ∉ names)
    (parts : List Tree) (k : Nat) :
    Assembly.take ⟨parts, [], [], k, names⟩ (.openGroup (.capture (some name))) =
      .ok (Assembly.start.onTop (k + 1) [⟨.capture (k + 1) (some name), parts, []⟩]
        (name :: names)) := by
  simp [Assembly.take, hname, Assembly.openGroup, Assembly.onTop, Assembly.start]

theorem take_close (fragment : Fragment) (k index : Nat) (name? : Option (List Char))
    (parts : List Tree) (names : List (List Char)) :
    (fragment.assembly.onTop k [⟨.capture index name?, parts, []⟩] names).take .closeGroup =
      .ok ⟨.group (.capture index name?) (fragment.assembly.inside.shift k) :: parts, [], [],
        fragment.assembly.groups + k, fragment.assembly.names ++ names⟩ := by
  have houter : (fragment.assembly.onTop k [⟨.capture index name?, parts, []⟩] names).outer =
      [⟨.capture index name?, parts, []⟩] := by
    simp only [Assembly.onTop, fragment.closed, List.map_nil, List.nil_append]
  simp only [Assembly.take, houter, Assembly.inside_onTop]
  rfl

theorem foldlM_take_tokens_of_mem {piece : Piece} {name : List Char}
    (hname : piece.name? = some name) {a : Assembly} (hmem : name ∈ a.names) :
    piece.tokens.foldlM Assembly.take a = .error .repeatedGroupName := by
  cases piece with
  | group name' word fragment =>
    obtain rfl := Option.some.inj hname
    have htake : a.take (.openGroup (.capture (some name'))) = .error .repeatedGroupName := by
      simp [Assembly.take, hmem]
    rw [tokens, List.foldlM_cons, htake]
    rfl
  | _ => cases hname

/-- A piece adds its part, or names a group as another one is named. -/
theorem foldlM_take_tokens (piece : Piece) (parts : List Tree) (k : Nat)
    (names : List (List Char)) :
    piece.tokens.foldlM Assembly.take ⟨parts, [], [], k, names⟩ =
        .ok ⟨piece.part k :: parts, [], [], k + piece.width, piece.names ++ names⟩ ∨
      piece.tokens.foldlM Assembly.take ⟨parts, [], [], k, names⟩ = .error .repeatedGroupName ∧
        ((∃ name ∈ piece.name?, name ∈ names) ∨ ¬piece.Unnamed) := by
  cases piece with
  | char c plain => exact .inl rfl
  | start => exact .inl rfl
  | stop => exact .inl rfl
  | group name word fragment =>
    by_cases hmem : name ∈ names
    · exact .inr ⟨foldlM_take_tokens_of_mem rfl hmem, .inl ⟨name, rfl, hmem⟩⟩
    · simp only [tokens, List.foldlM_cons, take_open hmem, List.foldlM_append]
      obtain hinner | ⟨name', -, hmem', hinner⟩ := Assembly.foldlM_take_onTop (k + 1)
        [⟨.capture (k + 1) (some name), parts, []⟩] (name :: names) fragment.assembly_eq
      · left
        show ((fragment.tokens.foldlM Assembly.take (Assembly.start.onTop _ _ _)) >>= _) = _
        rw [hinner]
        show [Token.closeGroup].foldlM Assembly.take _ = _
        rw [List.foldlM_cons, take_close]
        simp only [List.foldlM_nil, part, width, Piece.names, List.append_assoc,
          List.singleton_append, Nat.add_left_comm]
        rfl
      · refine .inr ⟨?_, .inr fun h => h name' hmem'⟩
        show ((fragment.tokens.foldlM Assembly.take (Assembly.start.onTop _ _ _)) >>= _) = _
        rw [hinner]
        rfl

/-- Pieces add their parts, or name two groups alike. -/
theorem foldlM_take_flatMap (pieces : List Piece) (parts : List Tree) (k : Nat)
    (names : List (List Char)) :
    (∃ groups names', (pieces.flatMap tokens).foldlM Assembly.take ⟨parts, [], [], k, names⟩ =
        .ok ⟨(Piece.parts k pieces).reverse ++ parts, [], [], groups, names'⟩) ∨
      (pieces.flatMap tokens).foldlM Assembly.take ⟨parts, [], [], k, names⟩ =
        .error .repeatedGroupName := by
  induction pieces generalizing parts k names with
  | nil => exact .inl ⟨k, names, rfl⟩
  | cons piece pieces ih =>
    rw [List.flatMap_cons, List.foldlM_append]
    rcases foldlM_take_tokens piece parts k names with hpiece | ⟨hpiece, -⟩
    · rw [hpiece]
      obtain ⟨groups, names', h⟩ | h :=
        ih (piece.part k :: parts) (k + piece.width) (piece.names ++ names)
      · refine .inl ⟨groups, names', ?_⟩
        rw [Piece.parts, List.reverse_cons, List.append_assoc]
        exact h
      · exact .inr h
    · rw [hpiece]
      exact .inr rfl

/-- Where no fragment names a group, pieces fail only by their own names. -/
theorem foldlM_take_flatMap_eq_error_iff {pieces : List Piece} (h : ∀ piece ∈ pieces, piece.Unnamed)
    (parts : List Tree) (k : Nat) (names : List (List Char)) :
    (pieces.flatMap tokens).foldlM Assembly.take ⟨parts, [], [], k, names⟩ =
        .error .repeatedGroupName ↔
      ¬((pieces.filterMap name?).Nodup ∧ ∀ name ∈ pieces.filterMap name?, name ∉ names) := by
  induction pieces generalizing parts k names with
  | nil => simp [pure, Except.pure]
  | cons piece pieces ih =>
    simp only [List.mem_cons, forall_eq_or_imp] at h
    rw [List.flatMap_cons, List.foldlM_append]
    obtain hpiece | ⟨hpiece, ⟨name, hname, hmem⟩ | hunnamed⟩ :=
      foldlM_take_tokens piece parts k names
    · rw [hpiece]
      show (pieces.flatMap tokens).foldlM Assembly.take _ = _ ↔ _
      rw [ih h.2, names_of_unnamed h.1]
      cases hname : piece.name? with
      | none => rw [List.filterMap_cons_none hname]; rfl
      | some name =>
        rw [List.filterMap_cons_some hname]
        have hmem : name ∉ names := fun hmem => by
          rw [foldlM_take_tokens_of_mem hname hmem] at hpiece
          cases hpiece
        grind
    · rw [hpiece, List.filterMap_cons_some hname]
      refine iff_of_true rfl fun h => ?_
      exact h.2 name List.mem_cons_self hmem
    · exact absurd h.1 hunnamed

/-! ### Nodes -/

/-- The nodes of pieces that have `k` groups before them. -/
inductive Row : Nat → List Piece → List Node → Prop where
  | nil {k : Nat} : Row k [] []
  | char {k : Nat} {pieces : List Piece} {ns : List Node} (c : Char) (plain : c ∉ metaChars)
      (h : Row k pieces ns) : Row k (.char c plain :: pieces) (.set (.singleton c) :: ns)
  | start {k : Nat} {pieces : List Piece} {ns : List Node} (h : Row k pieces ns) :
      Row k (.start :: pieces) (.look .textStart :: ns)
  | stop {k : Nat} {pieces : List Piece} {ns : List Node} (h : Row k pieces ns) :
      Row k (.stop :: pieces) (.look .textEnd :: ns)
  | group {k : Nat} {pieces : List Piece} {ns : List Node} {n : Node} (name : List Char)
      (word : ∀ c ∈ name, Unicode.isWord c) (fragment : Fragment)
      (hn : (fragment.assembly.inside.shift (k + 1)).node .initial = .ok (n, fragment.flags))
      (h : Row (k + (fragment.assembly.groups + 1)) pieces ns) :
      Row k (.group name word fragment :: pieces) (.capture (k + 1) (some name) n :: ns)

theorem exists_row (k : Nat) (pieces : List Piece) :
    ∃ ns, Row k pieces ns ∧ Tree.nodes .initial (parts k pieces) = .ok (ns, .initial) := by
  induction pieces generalizing k with
  | nil => exact ⟨[], .nil, rfl⟩
  | cons piece pieces ih =>
    obtain ⟨ns, hrow, hns⟩ := ih (k + piece.width)
    have hcons {n : Node} (hn : (piece.part k).node .initial = .ok (n, .initial)) :
        Tree.nodes .initial (parts k (piece :: pieces)) = .ok (n :: ns, .initial) := by
      rw [parts, Tree.nodes, hn]
      show (Tree.nodes .initial (parts (k + piece.width) pieces) >>= _) = _
      rw [hns]
      rfl
    cases piece with
    | char c plain => exact ⟨_, .char c plain hrow, hcons rfl⟩
    | start => exact ⟨_, .start hrow, hcons rfl⟩
    | stop => exact ⟨_, .stop hrow, hcons rfl⟩
    | group name word fragment =>
      obtain ⟨n, hn⟩ := Tree.exists_node_shift (k + 1) fragment.node_eq
      exact ⟨_, .group name word fragment hn hrow, hcons (by rw [part, Tree.node, hn]; rfl)⟩

/-- The nodes of pieces are in a row already. -/
theorem Row.flatMap_factors {k : Nat} {pieces : List Piece} {ns : List Node}
    (h : Row k pieces ns) : ns.flatMap Node.factors = ns := by
  induction h with
  | nil => rfl
  | _ => rw [List.flatMap_cons, ‹List.flatMap _ _ = _›]; rfl

theorem node_ofParts {ts : List Tree} {ns : List Node} {f f' : Flags}
    (hns : Tree.nodes f ts = .ok (ns, f')) (hrow : ns.flatMap Node.factors = ns) :
    (Tree.ofParts ts).node f = .ok (.ofFactors ns, f') := by
  match ts with
  | [] => cases hns; rfl
  | [t] =>
    obtain ⟨⟨n, g⟩, hn, hns⟩ := eq_ok_of_bind_eq_ok hns
    cases hns
    exact hn
  | t :: u :: ts =>
    show (Tree.concat (t :: u :: ts)).node f = _
    rw [Tree.node, hns]
    show Except.ok (Node.concat ns, f') = _
    rw [Node.concat, hrow]

theorem depth_part_le {bound : Nat} (k : Nat) {piece : Piece}
    (h : ∀ name word fragment, piece = group name word fragment →
      fragment.assembly.inside.depth ≤ bound) : (piece.part k).depth ≤ bound + 1 := by
  cases piece with
  | group name word fragment =>
    rw [part, Tree.depth, Tree.depth_shift]
    exact Nat.succ_le_succ (h _ _ _ rfl)
  | _ => exact Nat.zero_le _

theorem depthAll_parts_le {bound : Nat} (k : Nat) {pieces : List Piece}
    (h : ∀ name word fragment, group name word fragment ∈ pieces →
      fragment.assembly.inside.depth ≤ bound) : Tree.depthAll (parts k pieces) ≤ bound + 1 := by
  induction pieces generalizing k with
  | nil => exact Nat.zero_le _
  | cons piece pieces ih =>
    simp only [List.mem_cons] at h
    rw [parts, Tree.depthAll]
    exact Nat.max_le.2 ⟨depth_part_le k fun name word fragment heq => h name word fragment
      (.inl heq.symm), ih _ fun name word fragment hmem => h name word fragment (.inr hmem)⟩

theorem depth_ofParts_le (ts : List Tree) : (Tree.ofParts ts).depth ≤ Tree.depthAll ts + 1 := by
  match ts with
  | [] => exact Nat.zero_le _
  | [t] => simp only [Tree.ofParts, Tree.depthAll]; omega
  | t :: u :: ts => exact Nat.le_refl _

/-! ### Parsing -/

theorem parse_tree {pieces : List Piece} (h : ∀ name ∈ pieces.filterMap name?, isGroupName name) :
    Tree.parse (pieces.flatMap text) =
      match (pieces.flatMap tokens).foldlM Assembly.take .start with
      | .error e => .error e
      | .ok _ =>
        if (Tree.ofParts (parts 0 pieces)).depth ≤ Tree.maxDepth then .ok (.ofParts (parts 0 pieces))
        else .error .nestedTooDeeply := by
  have htokens : Regex.tokens false [] (pieces.flatMap text) = _ := tokens_flatMap h 0
  rw [Tree.parse, htokens]
  simp only [Tree.ofTokens]
  rcases foldlM_take_flatMap pieces [] 0 [] with ⟨groups, names, hfold⟩ | hfold
  · have hinside : Assembly.inside ⟨(parts 0 pieces).reverse ++ [], [], [], groups, names⟩ =
        .ofParts (parts 0 pieces) := by
      simp [Assembly.inside]
    rw [Assembly.start, hfold]
    simp only [Except.bind, Assembly.finish, hinside]
    rfl
  · rw [Assembly.start, hfold]
    rfl

theorem parse_node {pieces : List Piece} {ns : List Node} (hrow : Row 0 pieces ns)
    (hns : Tree.nodes .initial (parts 0 pieces) = .ok (ns, .initial))
    (h : Tree.parse (pieces.flatMap text) = .ok (.ofParts (parts 0 pieces))) :
    Node.parse (pieces.flatMap text) = .ok (.ofFactors ns) := by
  rw [Node.parse, h]
  show ((Tree.ofParts (parts 0 pieces)).node .initial >>= _) = _
  rw [node_ofParts hns hrow.flatMap_factors]
  rfl

theorem isGroupName_of_parse {pieces : List Piece} {t : Tree}
    (h : Tree.parse (pieces.flatMap text) = .ok t) {name : List Char}
    (hname : name ∈ pieces.filterMap name?) : isGroupName name := by
  refine Decidable.byContradiction fun hbad => ?_
  have htokens : Regex.tokens false [] (pieces.flatMap text) = _ :=
    tokens_flatMap_of_not_isGroupName hname hbad 0
  rw [Tree.parse, htokens] at h
  cases h

/-- A pattern in pieces that is valid has the row of its pieces as its node. -/
theorem exists_row_of_parse {pieces : List Piece} {n : Node}
    (h : Node.parse (pieces.flatMap text) = .ok n) : ∃ ns, Row 0 pieces ns ∧ n = .ofFactors ns := by
  obtain ⟨ns, hrow, hns⟩ := exists_row 0 pieces
  refine ⟨ns, hrow, ?_⟩
  obtain ⟨t, ht, -⟩ := eq_ok_of_bind_eq_ok (x := Tree.parse (pieces.flatMap text)) h
  have htree : Tree.parse (pieces.flatMap text) = .ok (.ofParts (parts 0 pieces)) := by
    have hnames : ∀ name ∈ pieces.filterMap name?, isGroupName name :=
      fun name => isGroupName_of_parse ht
    rw [parse_tree hnames] at ht ⊢
    split at ht
    next => cases ht
    next =>
      split at ht
      next hdepth => rw [if_pos hdepth]
      next => cases ht
  rw [parse_node hrow hns htree] at h
  exact (Except.ok.inj h).symm

/-- A pattern in pieces whose fragments name no group and are not nested too deeply is valid if and
only if its own names are names and differ. -/
theorem parse_flatMap {pieces : List Piece} (hunnamed : ∀ piece ∈ pieces, piece.Unnamed)
    (hdepth : ∀ name word fragment, group name word fragment ∈ pieces →
      fragment.assembly.inside.depth + 2 ≤ Tree.maxDepth) :
    (∃ n, Node.parse (pieces.flatMap text) = .ok n) ↔
      (pieces.filterMap name?).Nodup ∧ ∀ name ∈ pieces.filterMap name?, isGroupName name := by
  have hfail := foldlM_take_flatMap_eq_error_iff hunnamed [] 0 []
  simp only [List.not_mem_nil, not_false_eq_true, implies_true, and_true] at hfail
  constructor
  · rintro ⟨n, h⟩
    obtain ⟨t, ht, -⟩ := eq_ok_of_bind_eq_ok (x := Tree.parse (pieces.flatMap text)) h
    refine ⟨Decidable.byContradiction fun hdup => ?_, fun name => isGroupName_of_parse ht⟩
    rw [parse_tree fun name => isGroupName_of_parse ht, Assembly.start, hfail.2 hdup] at ht
    cases ht
  · rintro ⟨hnodup, hnames⟩
    obtain ⟨ns, hrow, hns⟩ := exists_row 0 pieces
    refine ⟨_, parse_node hrow hns ?_⟩
    have hbound : (Tree.ofParts (parts 0 pieces)).depth ≤ Tree.maxDepth := by
      have hparts : Tree.depthAll (parts 0 pieces) ≤ Tree.maxDepth - 2 + 1 := depthAll_parts_le 0
        fun name word fragment hmem => Nat.le_sub_of_add_le (hdepth name word fragment hmem)
      have := depth_ofParts_le (parts 0 pieces)
      simp only [Tree.maxDepth] at hparts ⊢
      omega
    rw [parse_tree hnames, Assembly.start]
    rcases foldlM_take_flatMap pieces [] 0 [] with ⟨groups, names, hfold⟩ | hfold
    · rw [hfold, if_pos hbound]
    · exact absurd hnodup (hfail.1 hfold)

/-! ### Groups -/

/-- The groups around fragments by their numbers, `k` groups standing before them. -/
def numbered (k : Nat) : List Piece → List (Nat × List Char)
  | [] => []
  | piece :: pieces => (piece.name?.map (k + 1, ·)).toList ++ numbered (k + piece.width) pieces

theorem map_numbered (k : Nat) (pieces : List Piece) :
    (numbered k pieces).map (·.2) = pieces.filterMap name? := by
  induction pieces generalizing k with
  | nil => rfl
  | cons piece pieces ih =>
    rw [numbered, List.map_append, ih]
    cases hname : piece.name? <;> simp [hname]

theorem exists_mem_numbered (k : Nat) {pieces : List Piece} {name : List Char}
    (h : name ∈ pieces.filterMap name?) : ∃ g, (g, name) ∈ numbered k pieces := by
  rw [← map_numbered k] at h
  obtain ⟨⟨g, name'⟩, hmem, rfl⟩ := List.mem_map.1 h
  exact ⟨g, hmem⟩

theorem lt_of_mem_numbered {k : Nat} {pieces : List Piece} {g : Nat × List Char}
    (h : g ∈ numbered k pieces) : k < g.1 := by
  induction pieces generalizing k with
  | nil => cases h
  | cons piece pieces ih =>
    rw [numbered, List.mem_append, Option.mem_toList] at h
    rcases h with h | h
    · obtain ⟨name, -, rfl⟩ := Option.map_eq_some_iff.1 h
      exact Nat.lt_succ_self k
    · exact Nat.lt_of_le_of_lt (Nat.le_add_right _ _) (ih h)

theorem numbered_ascending (k : Nat) (pieces : List Piece) :
    (numbered k pieces).Pairwise fun x y => x.1 < y.1 := by
  induction pieces generalizing k with
  | nil => exact .nil
  | cons piece pieces ih =>
    rw [numbered]
    cases piece with
    | group name word fragment =>
      refine List.pairwise_cons.2 ⟨fun g hg => ?_, ih _⟩
      have := lt_of_mem_numbered hg
      show k + 1 < g.1
      simp only [width] at this
      omega
    | _ => exact ih _

/-- The groups of a fragment, where `k` groups stand before it. -/
theorem bounds_of_node_shift {fragment : Fragment} {k : Nat} {n : Node} {f f' : Flags}
    (h : (fragment.assembly.inside.shift k).node f = .ok (n, f')) {i : Nat}
    {name : Option (List Char)} (hmem : (i, name) ∈ n.groups) :
    k < i ∧ i ≤ k + fragment.assembly.groups ∧ (fragment.Unnamed → name = none) := by
  have hmem := (Tree.groups_sublist_of_node h).subset hmem
  rw [Tree.groups_shift, List.mem_map] at hmem
  obtain ⟨⟨j, name'⟩, hj, heq⟩ := hmem
  simp only [Prod.mk.injEq] at heq
  obtain ⟨rfl, rfl⟩ := heq
  obtain ⟨bounds, named, -, -⟩ := Assembly.Numbered.start.foldlM fragment.assembly_eq
  have hopened : (j, name') ∈ fragment.assembly.opened := by
    simp only [Assembly.opened, List.mem_append]
    exact .inl (List.mem_append.1 ((Assembly.perm_groups_inside _).mem_iff.1 hj))
  have := bounds j name' hopened
  refine ⟨by omega, by omega, fun hunnamed => ?_⟩
  cases name' with
  | none => rfl
  | some name' =>
    have hnames := named j name' hopened
    rw [Assembly.names_of_foldlM_take fragment.assembly_eq hunnamed] at hnames
    cases hnames

namespace Row

variable {k : Nat} {pieces : List Piece} {ns : List Node} {i : Nat}

theorem lt_of_mem_groups (h : Row k pieces ns) {name : Option (List Char)}
    (hmem : (i, name) ∈ ns.flatMap Node.groups) : k < i := by
  induction h with
  | nil => cases hmem
  | char c plain _ ih => exact ih hmem
  | start _ ih | stop _ ih => exact ih hmem
  | group name' word fragment hn _ ih =>
    simp only [List.flatMap_cons, Node.groups, List.mem_append, List.mem_cons, Prod.mk.injEq] at hmem
    rcases hmem with (⟨rfl, -⟩ | hmem) | hmem
    · omega
    · have := (bounds_of_node_shift hn hmem).1
      omega
    · have := ih hmem
      omega

theorem mem_groups_of_mem_numbered (h : Row k pieces ns) {name : List Char}
    (hmem : (i, name) ∈ numbered k pieces) : (i, some name) ∈ ns.flatMap Node.groups := by
  induction h with
  | nil => cases hmem
  | char c plain _ ih => exact ih hmem
  | start _ ih | stop _ ih => exact ih hmem
  | group name' word fragment hn _ ih =>
    rcases List.mem_cons.1 hmem with heq | hmem
    · simp only [Prod.mk.injEq] at heq
      obtain ⟨rfl, rfl⟩ := heq
      simp [Node.groups]
    · rw [List.flatMap_cons]
      exact List.mem_append_right _ (ih hmem)

theorem mem_numbered_of_mem_groups (h : Row k pieces ns)
    (hunnamed : ∀ piece ∈ pieces, piece.Unnamed) {name : List Char}
    (hmem : (i, some name) ∈ ns.flatMap Node.groups) : (i, name) ∈ numbered k pieces := by
  induction h with
  | nil => cases hmem
  | char c plain _ ih => exact ih (fun piece hp => hunnamed piece (List.mem_cons_of_mem _ hp)) hmem
  | start _ ih | stop _ ih =>
    exact ih (fun piece hp => hunnamed piece (List.mem_cons_of_mem _ hp)) hmem
  | group name' word fragment hn _ ih =>
    simp only [List.flatMap_cons, Node.groups, List.mem_append, List.mem_cons, Prod.mk.injEq,
      Option.some.injEq] at hmem
    rcases hmem with (⟨rfl, rfl⟩ | hmem) | hmem
    · exact List.mem_cons_self
    · have := (bounds_of_node_shift hn hmem).2.2 (hunnamed _ List.mem_cons_self)
      cases this
    · exact List.mem_cons_of_mem _
        (ih (fun piece hp => hunnamed piece (List.mem_cons_of_mem _ hp)) hmem)

end Row

end Piece

end RouteTemplate.Regex
