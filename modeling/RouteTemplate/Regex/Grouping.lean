import RouteTemplate.Regex.Token

/-!
Trees of tokens. The tokens are taken in one after another; a stack holds the groups that are
still open, and groups are numbered in the order in which they open.
-/

namespace RouteTemplate.Regex

/-- A group that is not closed yet, with the parts and the branches that stand before it. The last
part and the last branch come first. -/
structure OpenGroup where
  kind : GroupKind
  parts : List Tree
  branches : List Tree
  deriving Repr, Inhabited

/-- The trees assembled so far: the parts and branches of the innermost open group, the groups
around it, how many groups have been numbered and the names given to them. -/
structure Assembly where
  parts : List Tree
  branches : List Tree
  outer : List OpenGroup
  groups : Nat
  names : List (List Char)
  deriving Repr, Inhabited

namespace Assembly

def start : Assembly := ⟨[], [], [], 0, []⟩

def addPart (a : Assembly) (t : Tree) : Assembly := { a with parts := t :: a.parts }

/-- The tree of the innermost open group. -/
def inside (a : Assembly) : Tree :=
  let last := Tree.ofParts a.parts.reverse
  if a.branches.isEmpty then last else .alternation (a.branches.reverse ++ [last])

def openGroup (a : Assembly) (kind : GroupKind) : Assembly :=
  { a with parts := [], branches := [], outer := ⟨kind, a.parts, a.branches⟩ :: a.outer }

/-- Takes in one token. -/
def take (a : Assembly) : Token → Except SyntaxError Assembly
  | .atom x => .ok (a.addPart (.atom x))
  | .flags changes => .ok (a.addPart (.flags changes))
  | .bar => .ok { a with parts := [], branches := .ofParts a.parts.reverse :: a.branches }
  | .repetition r =>
    match a.parts with
    | [] | .empty :: _ | .flags _ :: _ => .error .nothingToRepeat
    | t :: parts => .ok { a with parts := .repetition r t :: parts }
  | .openGroup (.plain changes) => .ok (a.openGroup (.plain changes))
  | .openGroup (.capture none) =>
    let a := { a with groups := a.groups + 1 }
    .ok (a.openGroup (.capture a.groups none))
  | .openGroup (.capture (some name)) =>
    if a.names.contains name then .error .repeatedGroupName
    else
      let a := { a with groups := a.groups + 1, names := name :: a.names }
      .ok (a.openGroup (.capture a.groups (some name)))
  | .closeGroup =>
    match a.outer with
    | [] => .error .unopenedGroup
    | g :: outer =>
      .ok { a with parts := .group g.kind a.inside :: g.parts, branches := g.branches, outer }

/-- The tree of everything taken in, if no group is left open. -/
def finish (a : Assembly) : Except SyntaxError Tree :=
  if a.outer.isEmpty then .ok a.inside else .error .unclosedGroup

end Assembly

/-- The tree that tokens form. -/
def Tree.ofTokens (ts : List Token) : Except SyntaxError Tree :=
  (ts.foldlM Assembly.take .start).bind Assembly.finish

/-- The tree of a text, if it is not nested too deeply. -/
def Tree.parse (s : List Char) : Except SyntaxError Tree :=
  match tokens false [] s with
  | .error e => .error e
  | .ok ts =>
    match Tree.ofTokens ts with
    | .error e => .error e
    | .ok t => if t.depth ≤ Tree.maxDepth then .ok t else .error .nestedTooDeeply

end RouteTemplate.Regex
