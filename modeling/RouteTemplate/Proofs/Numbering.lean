import Mathlib.Data.List.Flatten
import Mathlib.Data.List.Nodup
import Mathlib.Data.List.Perm.Subperm
import RouteTemplate.Regex.Meaning

/-!
The numbers and names of groups. An assembly numbers its groups in the order in which they open and
gives no name twice; on top of groups that are still open it builds the same trees as from the
beginning, only with higher numbers. The node of a tree has no groups but those of the tree.
-/

namespace RouteTemplate.Regex

/-! ### Groups of trees -/

namespace GroupKind

/-- The number and the name that a group adds. -/
def groups : GroupKind → List (Nat × Option (List Char))
  | .capture index name => [(index, name)]
  | .plain _ => []

def shift (k : Nat) : GroupKind → GroupKind
  | .capture index name => .capture (index + k) name
  | .plain changes => .plain changes

end GroupKind

namespace Tree

mutual

/-- The groups of a tree by their numbers and names. -/
def groups : Tree → List (Nat × Option (List Char))
  | .empty | .atom _ | .flags _ => []
  | .repetition _ inside => inside.groups
  | .group kind inside => kind.groups ++ inside.groups
  | .concat parts => groupsAll parts
  | .alternation branches => groupsAll branches

def groupsAll : List Tree → List (Nat × Option (List Char))
  | [] => []
  | t :: ts => t.groups ++ groupsAll ts

end

mutual

/-- A tree whose groups are numbered `k` higher. -/
def shift (k : Nat) : Tree → Tree
  | .empty => .empty
  | .atom a => .atom a
  | .flags changes => .flags changes
  | .repetition r inside => .repetition r (inside.shift k)
  | .group kind inside => .group (kind.shift k) (inside.shift k)
  | .concat parts => .concat (shiftAll k parts)
  | .alternation branches => .alternation (shiftAll k branches)

def shiftAll (k : Nat) : List Tree → List Tree
  | [] => []
  | t :: ts => t.shift k :: shiftAll k ts

end

theorem groupsAll_eq (ts : List Tree) : groupsAll ts = ts.flatMap groups := by
  induction ts with
  | nil => rfl
  | cons t ts ih => rw [groupsAll, ih, List.flatMap_cons]

theorem shiftAll_eq (k : Nat) (ts : List Tree) : shiftAll k ts = ts.map (shift k) := by
  induction ts with
  | nil => rfl
  | cons t ts ih => rw [shiftAll, ih, List.map_cons]

@[simp] theorem groups_ofParts (ts : List Tree) : (ofParts ts).groups = ts.flatMap groups := by
  unfold ofParts
  split <;> simp [groups, groupsAll_eq]

@[simp] theorem shift_ofParts (k : Nat) (ts : List Tree) :
    (ofParts ts).shift k = ofParts (ts.map (shift k)) := by
  match ts with
  | [] | [_] | _ :: _ :: _ => simp [ofParts, shift, shiftAll_eq]

mutual

theorem depth_shift (k : Nat) : (t : Tree) → (t.shift k).depth = t.depth
  | .empty | .atom _ | .flags _ => by simp only [shift]
  | .repetition _ inside | .group _ inside => by simp only [shift, depth, depth_shift k inside]
  | .concat ts | .alternation ts => by simp only [shift, depth, depthAll_shift k ts]

theorem depthAll_shift (k : Nat) : (ts : List Tree) → depthAll (shiftAll k ts) = depthAll ts
  | [] => rfl
  | t :: ts => by simp only [shiftAll, depthAll, depth_shift k t, depthAll_shift k ts]

end

mutual

theorem groups_shift (k : Nat) :
    (t : Tree) → (t.shift k).groups = t.groups.map fun g => (g.1 + k, g.2)
  | .empty | .atom _ | .flags _ => rfl
  | .repetition _ inside => by simp only [shift, groups, groups_shift k inside]
  | .group kind inside => by
    cases kind <;> simp [shift, groups, GroupKind.shift, GroupKind.groups, groups_shift k inside]
  | .concat ts | .alternation ts => by simp only [shift, groups, groupsAll_shift k ts]

theorem groupsAll_shift (k : Nat) :
    (ts : List Tree) → groupsAll (shiftAll k ts) = (groupsAll ts).map fun g => (g.1 + k, g.2)
  | [] => rfl
  | t :: ts => by
    simp only [shiftAll, groupsAll, groups_shift k t, groupsAll_shift k ts, List.map_append]

end

end Tree

/-! ### Groups of nodes -/

namespace Node

theorem groups_eq_factors (n : Node) : n.groups = n.factors.flatMap groups := by
  induction n with
  | seq first second ih1 ih2 => rw [groups, factors, List.flatMap_append, ← ih1, ← ih2]
  | empty => rfl
  | _ => simp [factors]

theorem groups_eq_branches (n : Node) : n.groups = n.branches.flatMap groups := by
  induction n with
  | alt first second ih1 ih2 => rw [groups, branches, List.flatMap_append, ← ih1, ← ih2]
  | _ => simp [branches]

@[simp] theorem groups_ofFactors (ns : List Node) : (ofFactors ns).groups = ns.flatMap groups := by
  fun_induction ofFactors ns with
  | case1 => rfl
  | case2 => simp
  | case3 n ns _ ih => rw [groups, ih, List.flatMap_cons]

@[simp] theorem groups_ofBranches (ns : List Node) : (ofBranches ns).groups = ns.flatMap groups := by
  fun_induction ofBranches ns with
  | case1 => rfl
  | case2 => simp
  | case3 n ns _ ih => rw [groups, ih, List.flatMap_cons]

@[simp] theorem groups_concat (ns : List Node) : (concat ns).groups = ns.flatMap groups := by
  rw [concat, groups_ofFactors, List.flatMap_assoc]
  simp only [← groups_eq_factors]

theorem groups_choice_sublist (ns : List Node) : (choice ns).groups.Sublist (ns.flatMap groups) := by
  have hbranches : (ofBranches (ns.flatMap branches)).groups = ns.flatMap groups := by
    rw [groups_ofBranches, List.flatMap_assoc]
    simp only [← groups_eq_branches]
  simp only [choice]
  split
  next =>
    split
    next => rw [hbranches]
    next => exact List.nil_sublist _
  next => rw [hbranches]

theorem isPrefix_commonStart (ns ms : List Node) : commonStart ns ms <+: ns := by
  fun_induction commonStart ns ms with
  | case1 n ns ms ih => exact List.cons_prefix_cons.2 ⟨rfl, ih⟩
  | case2 => exact List.nil_prefix
  | case3 => exact List.nil_prefix

theorem isPrefix_foldl_commonStart (row : List Node) (rows : List (List Node)) :
    rows.foldl commonStart row <+: row := by
  induction rows generalizing row with
  | nil => exact List.prefix_rfl
  | cons r rows ih => exact (ih _).trans (isPrefix_commonStart row r)

/-- What all rows begin with is kept once, and behind it the ends of the rows. -/
theorem groups_alternation_sublist (ns : List Node) :
    (alternation ns).groups.Sublist (ns.flatMap groups) := by
  have hrows : ((ns.flatMap branches).map factors).flatMap (·.flatMap groups) =
      ns.flatMap groups := by
    rw [List.flatMap_map]
    simp only [← groups_eq_factors, List.flatMap_assoc, ← groups_eq_branches]
  rw [← hrows]
  simp only [alternation]
  split
  next => exact List.nil_sublist _
  next row heq => simp [heq]
  next row rows _ heq =>
    rw [heq]
    split
    next =>
      rw [← heq, hrows]
      exact groups_choice_sublist ns
    next =>
      have hstart := isPrefix_foldl_commonStart row rows
      generalize rows.foldl commonStart row = start at hstart ⊢
      obtain ⟨rest, rfl⟩ := hstart
      have hends : (choice (((start ++ rest) :: rows).map fun row =>
          ofFactors (row.drop start.length))).groups.Sublist
          (rest.flatMap groups ++ rows.flatMap (·.flatMap groups)) := by
        refine (groups_choice_sublist _).trans ?_
        simp only [List.flatMap_map, List.flatMap_cons, groups_ofFactors, List.drop_left]
        refine (List.Sublist.refl _).append (List.Sublist.flatMap_right rows fun row _ => ?_)
        exact (List.drop_sublist _ row).flatMap groups
      rw [groups_concat, List.flatMap_append, List.flatMap_singleton, List.flatMap_cons,
        List.flatMap_append, List.append_assoc]
      exact (List.Sublist.refl _).append hends

theorem groups_replicate_sublist (r : Repetition) (n : Node) : (replicate r n).groups.Sublist n.groups := by
  simp only [replicate]
  generalize (if n.onlyEmpty = true then _ else r) = r'
  split
  next => exact List.nil_sublist _
  next => split <;> exact List.Sublist.refl _

end Node

theorem Atom.groups_of_node {f : Flags} {a : Atom} {n : Node} (h : a.node f = .ok n) :
    n.groups = [] := by
  cases a with
  | literal l =>
    simp only [node] at h
    split at h <;> cases h
    rfl
  | dot =>
    simp only [node] at h
    split at h <;> cases h
    rfl
  | assertion a => cases h; rfl
  | short cls negated =>
    obtain ⟨s, -, rfl⟩ := eq_ok_of_map_eq_ok h
    rfl
  | property query negated =>
    obtain ⟨s, -, rfl⟩ := eq_ok_of_map_eq_ok h
    rfl
  | bracket negated inside =>
    obtain ⟨s, -, h⟩ := eq_ok_of_bind_eq_ok h
    obtain ⟨s', -, h⟩ := eq_ok_of_bind_eq_ok h
    cases h
    rfl

namespace Tree

mutual

/-- The groups of a node are groups of its tree, in the same order. -/
theorem groups_sublist_of_node {f f' : Flags} {n : Node} :
    {t : Tree} → t.node f = .ok (n, f') → n.groups.Sublist t.groups
  | .empty, h => by
    simp only [node, Except.ok.injEq, Prod.mk.injEq] at h
    obtain ⟨rfl, -⟩ := h
    exact List.nil_sublist _
  | .flags _, h => by
    simp only [node, Except.ok.injEq, Prod.mk.injEq] at h
    obtain ⟨rfl, -⟩ := h
    exact List.nil_sublist _
  | .atom a, h => by
    obtain ⟨m, hm, h⟩ := eq_ok_of_bind_eq_ok h
    cases h
    rw [Atom.groups_of_node hm]
    exact List.nil_sublist _
  | .repetition r inside, h => by
    obtain ⟨⟨m, g⟩, hm, h⟩ := eq_ok_of_bind_eq_ok h
    cases h
    exact (Node.groups_replicate_sublist _ m).trans (groups_sublist_of_node (t := inside) hm)
  | .group (.plain changes) inside, h => by
    obtain ⟨⟨m, g⟩, hm, h⟩ := eq_ok_of_bind_eq_ok h
    cases h
    exact groups_sublist_of_node (t := inside) hm
  | .group (.capture index name) inside, h => by
    obtain ⟨⟨m, g⟩, hm, h⟩ := eq_ok_of_bind_eq_ok h
    cases h
    exact (groups_sublist_of_node hm).cons_cons _
  | .concat parts, h => by
    obtain ⟨⟨ms, g⟩, hm, h⟩ := eq_ok_of_bind_eq_ok h
    cases h
    rw [Node.groups_concat]
    exact groupsAll_sublist_of_nodes hm
  | .alternation branches, h => by
    obtain ⟨⟨ms, g⟩, hm, h⟩ := eq_ok_of_bind_eq_ok h
    cases h
    exact (Node.groups_alternation_sublist ms).trans (groupsAll_sublist_of_nodes hm)

theorem groupsAll_sublist_of_nodes {f f' : Flags} {ns : List Node} :
    {ts : List Tree} → nodes f ts = .ok (ns, f') → (ns.flatMap Node.groups).Sublist (groupsAll ts)
  | [], h => by
    cases h
    exact List.nil_sublist _
  | t :: ts, h => by
    obtain ⟨⟨m, g⟩, hm, h⟩ := eq_ok_of_bind_eq_ok h
    obtain ⟨⟨ms, g'⟩, hms, h⟩ := eq_ok_of_bind_eq_ok h
    cases h
    rw [List.flatMap_cons, groupsAll]
    exact (groups_sublist_of_node hm).append (groupsAll_sublist_of_nodes hms)

end

mutual

/-- A tree has a node whatever the numbers of its groups are. -/
theorem exists_node_shift (k : Nat) {f f' : Flags} {n : Node} :
    {t : Tree} → t.node f = .ok (n, f') → ∃ n', (t.shift k).node f = .ok (n', f')
  | .empty, h | .flags _, h | .atom _, h => ⟨n, h⟩
  | .repetition r inside, h => by
    obtain ⟨⟨m, g⟩, hm, h⟩ := eq_ok_of_bind_eq_ok h
    cases h
    obtain ⟨m', hm'⟩ := exists_node_shift k hm
    exact ⟨_, by simp only [shift, node, hm']; rfl⟩
  | .group (.plain changes) inside, h => by
    obtain ⟨⟨m, g⟩, hm, h⟩ := eq_ok_of_bind_eq_ok h
    cases h
    obtain ⟨m', hm'⟩ := exists_node_shift k hm
    exact ⟨_, by simp only [shift, GroupKind.shift, node, hm']; rfl⟩
  | .group (.capture index name) inside, h => by
    obtain ⟨⟨m, g⟩, hm, h⟩ := eq_ok_of_bind_eq_ok h
    cases h
    obtain ⟨m', hm'⟩ := exists_node_shift k hm
    exact ⟨_, by simp only [shift, GroupKind.shift, node, hm']; rfl⟩
  | .concat parts, h => by
    obtain ⟨⟨ms, g⟩, hm, h⟩ := eq_ok_of_bind_eq_ok h
    cases h
    obtain ⟨ms', hm'⟩ := exists_nodes_shift k hm
    exact ⟨_, by simp only [shift, node, hm']; rfl⟩
  | .alternation branches, h => by
    obtain ⟨⟨ms, g⟩, hm, h⟩ := eq_ok_of_bind_eq_ok h
    cases h
    obtain ⟨ms', hm'⟩ := exists_nodes_shift k hm
    exact ⟨_, by simp only [shift, node, hm']; rfl⟩

theorem exists_nodes_shift (k : Nat) {f f' : Flags} {ns : List Node} :
    {ts : List Tree} → nodes f ts = .ok (ns, f') → ∃ ns', nodes f (shiftAll k ts) = .ok (ns', f')
  | [], h => ⟨ns, h⟩
  | t :: ts, h => by
    obtain ⟨⟨m, g⟩, hm, h⟩ := eq_ok_of_bind_eq_ok h
    obtain ⟨⟨ms, g'⟩, hms, h⟩ := eq_ok_of_bind_eq_ok h
    cases h
    obtain ⟨m', hm'⟩ := exists_node_shift k hm
    obtain ⟨ms', hms'⟩ := exists_nodes_shift k hms
    refine ⟨m' :: ms', ?_⟩
    simp only [shiftAll, nodes, hm']
    show (nodes g (shiftAll k ts) >>= _) = _
    rw [hms']
    rfl

end

end Tree

/-! ### Assemblies -/

namespace OpenGroup

def groups (g : OpenGroup) : List (Nat × Option (List Char)) :=
  g.kind.groups ++ g.parts.flatMap Tree.groups ++ g.branches.flatMap Tree.groups

def shift (k : Nat) (g : OpenGroup) : OpenGroup :=
  ⟨g.kind.shift k, g.parts.map (Tree.shift k), g.branches.map (Tree.shift k)⟩

end OpenGroup

namespace Assembly

/-- All groups that have been opened. -/
def opened (a : Assembly) : List (Nat × Option (List Char)) :=
  a.parts.flatMap Tree.groups ++ a.branches.flatMap Tree.groups ++ a.outer.flatMap OpenGroup.groups

/-- The groups are numbered from 1 on and named, and no number and no name is given twice. -/
structure Numbered (a : Assembly) : Prop where
  bounds : ∀ i name, (i, name) ∈ a.opened → 1 ≤ i ∧ i ≤ a.groups
  named : ∀ i name, (i, some name) ∈ a.opened → name ∈ a.names
  numbers : (a.opened.map (·.1)).Nodup
  name_inj : ∀ i j name, (i, some name) ∈ a.opened → (j, some name) ∈ a.opened → i = j

theorem perm_groups_inside (a : Assembly) :
    a.inside.groups.Perm (a.parts.flatMap Tree.groups ++ a.branches.flatMap Tree.groups) := by
  have hparts := a.parts.reverse_perm.flatMap_right Tree.groups
  have hbranches := a.branches.reverse_perm.flatMap_right Tree.groups
  simp only [inside]
  split
  next h =>
    rw [List.isEmpty_iff] at h
    simpa [h] using hparts
  next =>
    simp only [Tree.groups, Tree.groupsAll_eq, List.flatMap_append, List.flatMap_singleton,
      Tree.groups_ofParts]
    exact (hbranches.append hparts).trans List.perm_append_comm

/-- A token opens no group, or one that has the next number and a new name. -/
theorem opened_take {a a' : Assembly} {t : Token} (h : a.take t = .ok a') :
    (a'.groups = a.groups ∧ a'.names = a.names ∧ a'.opened.Perm a.opened) ∨
      ∃ name, t = .openGroup (.capture name) ∧ a'.groups = a.groups + 1 ∧
        a'.names = name.toList ++ a.names ∧ (∀ n ∈ name, n ∉ a.names) ∧
        a'.opened.Perm ((a.groups + 1, name) :: a.opened) := by
  unfold Assembly.take at h
  split at h
  case h_1 x =>
    cases h
    exact .inl ⟨rfl, rfl, by simp [opened, addPart, Tree.groups]⟩
  case h_2 changes =>
    cases h
    exact .inl ⟨rfl, rfl, by simp [opened, addPart, Tree.groups]⟩
  case h_3 =>
    cases h
    refine .inl ⟨rfl, rfl, ?_⟩
    have hparts := a.parts.reverse_perm.flatMap_right Tree.groups
    simpa [opened] using hparts.append_right _
  case h_4 r =>
    split at h
    case h_4 t parts _ _ hparts =>
      cases h
      exact .inl ⟨rfl, rfl, by simp [opened, hparts, Tree.groups]⟩
    all_goals cases h
  case h_5 changes =>
    cases h
    exact .inl ⟨rfl, rfl, by simp [opened, openGroup, OpenGroup.groups, GroupKind.groups]⟩
  case h_6 =>
    cases h
    refine .inr ⟨none, rfl, rfl, rfl, by simp, ?_⟩
    simp [opened, openGroup, OpenGroup.groups, GroupKind.groups]
  case h_7 name =>
    split at h
    next => cases h
    next hname =>
      cases h
      refine .inr ⟨some name, rfl, rfl, rfl, by simpa using hname, ?_⟩
      simp [opened, openGroup, OpenGroup.groups, GroupKind.groups]
  case h_8 =>
    split at h
    next => cases h
    next g outer houter =>
      cases h
      refine .inl ⟨rfl, rfl, ?_⟩
      have hkind : (g.kind.groups ++ a.inside.groups).Perm
          (a.parts.flatMap Tree.groups ++ a.branches.flatMap Tree.groups ++ g.kind.groups) :=
        (a.perm_groups_inside.append_left _).trans List.perm_append_comm
      simpa [opened, houter, OpenGroup.groups, Tree.groups] using hkind.append_right
        (g.parts.flatMap Tree.groups ++ (g.branches.flatMap Tree.groups ++
          outer.flatMap OpenGroup.groups))

theorem Numbered.start : Numbered .start := by
  constructor <;> simp [Assembly.start, opened]

theorem Numbered.take {a a' : Assembly} {t : Token} (ha : a.Numbered) (h : a.take t = .ok a') :
    a'.Numbered := by
  obtain ⟨bounds, named, numbers, name_inj⟩ := ha
  rcases opened_take h with ⟨hgroups, hnames, hperm⟩ | ⟨name, -, hgroups, hnames, hnew, hperm⟩
  · have hmem (g) : g ∈ a'.opened ↔ g ∈ a.opened := hperm.mem_iff
    refine ⟨?_, ?_, (hperm.map _).nodup_iff.2 numbers, ?_⟩ <;>
      simp only [hgroups, hnames, hmem] <;> assumption
  · have hmem (g) : g ∈ a'.opened ↔ g = (a.groups + 1, name) ∨ g ∈ a.opened :=
      hperm.mem_iff.trans List.mem_cons
    constructor
    · simp only [hgroups, hmem, Prod.mk.injEq]
      grind
    · simp only [hnames, hmem, Prod.mk.injEq]
      grind
    · rw [(hperm.map _).nodup_iff, List.map_cons, List.nodup_cons]
      refine ⟨fun hnext => ?_, numbers⟩
      obtain ⟨⟨i, name'⟩, hopened, rfl⟩ := List.mem_map.1 hnext
      have := (bounds _ _ hopened).2
      omega
    · simp only [hmem, Prod.mk.injEq]
      grind

theorem Numbered.foldlM {a a' : Assembly} {ts : List Token} (ha : a.Numbered)
    (h : ts.foldlM Assembly.take a = .ok a') : a'.Numbered := by
  induction ts generalizing a with
  | nil => cases h; exact ha
  | cons t ts ih =>
    rw [List.foldlM_cons] at h
    obtain ⟨b, hb, h⟩ := eq_ok_of_bind_eq_ok h
    exact ih (ha.take hb) h

theorem names_of_foldlM_take {a a' : Assembly} {ts : List Token}
    (h : ts.foldlM Assembly.take a = .ok a')
    (hts : ∀ name, Token.openGroup (.capture (some name)) ∉ ts) : a'.names = a.names := by
  induction ts generalizing a with
  | nil => cases h; rfl
  | cons t ts ih =>
    rw [List.foldlM_cons] at h
    obtain ⟨b, hb, h⟩ := eq_ok_of_bind_eq_ok h
    simp only [List.mem_cons, not_or] at hts
    rw [ih h fun name => (hts name).2]
    rcases opened_take hb with ⟨-, hnames, -⟩ | ⟨name, rfl, -, hnames, -⟩
    · exact hnames
    · cases name with
      | none => exact hnames
      | some name => exact absurd rfl (hts name).1

/-- An assembly on top of other open groups, after `k` groups have been numbered and some names have
been given. -/
def onTop (k : Nat) (outer : List OpenGroup) (names : List (List Char)) (a : Assembly) : Assembly where
  parts := a.parts.map (Tree.shift k)
  branches := a.branches.map (Tree.shift k)
  outer := a.outer.map (OpenGroup.shift k) ++ outer
  groups := a.groups + k
  names := a.names ++ names

section

variable {k : Nat} {outer : List OpenGroup} {names : List (List Char)} {a a' : Assembly}

theorem inside_onTop : (a.onTop k outer names).inside = a.inside.shift k := by
  simp only [inside, onTop, ← List.map_reverse, ← Tree.shift_ofParts, List.isEmpty_map]
  split
  next => rfl
  next => simp [Tree.shift, Tree.shiftAll_eq]

/-- A token on top of other groups does what it does without them, unless it names a group as one of
them is named. -/
theorem take_onTop (k : Nat) (outer : List OpenGroup) (names : List (List Char)) {t : Token}
    (h : a.take t = .ok a') :
    (a.onTop k outer names).take t = .ok (a'.onTop k outer names) ∨
      ∃ name ∈ names, t = .openGroup (.capture (some name)) ∧
        (a.onTop k outer names).take t = .error .repeatedGroupName := by
  unfold Assembly.take at h
  split at h
  case h_1 x => cases h; exact .inl rfl
  case h_2 changes => cases h; exact .inl rfl
  case h_3 =>
    cases h
    left
    simp only [Assembly.take, onTop, List.map_cons, ← List.map_reverse, Tree.shift_ofParts,
      List.map_nil]
  case h_4 r =>
    split at h
    case h_4 t parts hempty hflags hparts =>
      cases h
      left
      cases t
      case empty => exact (hempty rfl).elim
      case flags changes => exact (hflags changes rfl).elim
      all_goals simp [Assembly.take, onTop, hparts, Tree.shift]
    all_goals cases h
  case h_5 changes => cases h; exact .inl rfl
  case h_6 =>
    cases h
    left
    simp only [Assembly.take, openGroup, onTop, List.map_nil, List.map_cons, List.cons_append,
      OpenGroup.shift, GroupKind.shift, Nat.add_right_comm]
  case h_7 name =>
    split at h
    next => cases h
    next hname =>
      cases h
      by_cases hmem : name ∈ names
      · refine .inr ⟨name, hmem, rfl, ?_⟩
        simp [Assembly.take, onTop, hmem]
      · left
        have hnames : (a.names ++ names).contains name = false := by simp_all
        simp only [Assembly.take, openGroup, onTop, List.map_nil, List.map_cons, List.cons_append,
          OpenGroup.shift, GroupKind.shift, Nat.add_right_comm, hnames, Bool.false_eq_true,
          if_false]
  case h_8 =>
    split at h
    next => cases h
    next g outer' houter =>
      cases h
      left
      have houter' : (a.onTop k outer names).outer = g.shift k ::
          (outer'.map (OpenGroup.shift k) ++ outer) := by
        simp only [onTop, houter, List.map_cons, List.cons_append]
      simp only [Assembly.take, houter', inside_onTop]
      simp only [onTop, OpenGroup.shift, List.map_cons, Tree.shift]

theorem foldlM_take_onTop (k : Nat) (outer : List OpenGroup) (names : List (List Char))
    {ts : List Token} (h : ts.foldlM Assembly.take a = .ok a') :
    ts.foldlM Assembly.take (a.onTop k outer names) = .ok (a'.onTop k outer names) ∨
      ∃ name ∈ names, Token.openGroup (.capture (some name)) ∈ ts ∧
        ts.foldlM Assembly.take (a.onTop k outer names) = .error .repeatedGroupName := by
  induction ts generalizing a with
  | nil => cases h; exact .inl rfl
  | cons t ts ih =>
    rw [List.foldlM_cons] at h
    obtain ⟨b, hb, h⟩ := eq_ok_of_bind_eq_ok h
    rw [List.foldlM_cons]
    rcases take_onTop k outer names hb with ht | ⟨name, hname, rfl, ht⟩
    · rw [ht]
      rcases ih h with hts | ⟨name, hname, hmem, hts⟩
      · exact .inl hts
      · exact .inr ⟨name, hname, List.mem_cons_of_mem _ hmem, hts⟩
    · rw [ht]
      exact .inr ⟨name, hname, List.mem_cons_self, rfl⟩

end

end Assembly

/-! ### Parsing -/

/-- What a text that has a tree was read as. -/
theorem exists_assembly_of_parse {s : List Char} {t : Tree} (h : Tree.parse s = .ok t) :
    ∃ ts a, tokens false [] s = .ok ts ∧ ts.foldlM Assembly.take .start = .ok a ∧
      a.outer = [] ∧ t = a.inside := by
  rw [Tree.parse] at h
  split at h
  next => cases h
  next ts hts =>
    split at h
    next => cases h
    next htree =>
      split at h <;> cases h
      obtain ⟨a, ha, hfinish⟩ := eq_ok_of_bind_eq_ok
        (x := ts.foldlM Assembly.take .start) (f := Assembly.finish) htree
      by_cases hclosed : a.outer.isEmpty
      · rw [Assembly.finish, if_pos hclosed] at hfinish
        exact ⟨ts, a, hts, ha, List.isEmpty_iff.1 hclosed, (Except.ok.inj hfinish).symm⟩
      · rw [Assembly.finish, if_neg hclosed] at hfinish
        cases hfinish

theorem exists_tree_of_parse {s : List Char} {n : Node} (h : Node.parse s = .ok n) :
    ∃ t f, Tree.parse s = .ok t ∧ t.node .initial = .ok (n, f) := by
  obtain ⟨t, ht, h⟩ := eq_ok_of_bind_eq_ok (x := Tree.parse s) h
  obtain ⟨⟨m, f⟩, hm, h⟩ := eq_ok_of_bind_eq_ok h
  cases h
  exact ⟨t, f, ht, hm⟩

/-- Groups are numbered from 1 on, and no number and no name is given to two of them. -/
structure Distinct (groups : List (Nat × Option (List Char))) : Prop where
  positive : ∀ i name, (i, name) ∈ groups → 1 ≤ i
  numbers : (groups.map (·.1)).Nodup
  name : ∀ i j name, (i, some name) ∈ groups → (j, some name) ∈ groups → i = j

theorem Distinct.number {groups : List (Nat × Option (List Char))} (h : Distinct groups) {i : Nat}
    {name name' : Option (List Char)} (hname : (i, name) ∈ groups) (hname' : (i, name') ∈ groups) :
    name = name' :=
  congrArg Prod.snd (List.inj_on_of_nodup_map h.numbers hname hname' rfl)

/-- The groups of a text that is read have been opened by its tokens. -/
theorem exists_opened_of_parse {s : List Char} {n : Node} (h : Node.parse s = .ok n) :
    ∃ ts a, tokens false [] s = .ok ts ∧ ts.foldlM Assembly.take .start = .ok a ∧
      n.groups.Subperm a.opened := by
  obtain ⟨t, f, ht, hn⟩ := exists_tree_of_parse h
  obtain ⟨ts, a, hts, ha, -, rfl⟩ := exists_assembly_of_parse ht
  have hopened : (a.parts.flatMap Tree.groups ++ a.branches.flatMap Tree.groups).Sublist a.opened :=
    List.sublist_append_left _ _
  exact ⟨ts, a, hts, ha, (Tree.groups_sublist_of_node hn).subperm.trans
    (a.perm_groups_inside.subperm.trans hopened.subperm)⟩

theorem distinct_of_parse {s : List Char} {n : Node} (h : Node.parse s = .ok n) :
    Distinct n.groups := by
  obtain ⟨ts, a, -, ha, hopened⟩ := exists_opened_of_parse h
  obtain ⟨bounds, -, numbers, name⟩ := Assembly.Numbered.start.foldlM ha
  have hmem : n.groups ⊆ a.opened := hopened.subset
  refine ⟨fun i x hi => (bounds i x (hmem hi)).1, ?_, fun i j x hi hj => name i j x (hmem hi) (hmem hj)⟩
  obtain ⟨groups, hperm, hsublist⟩ := hopened
  exact (hperm.map _).nodup_iff.1 ((hsublist.map _).nodup numbers)

end RouteTemplate.Regex
