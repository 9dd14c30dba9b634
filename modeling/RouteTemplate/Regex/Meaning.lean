import RouteTemplate.Regex.Grouping
import RouteTemplate.Regex.Node
import RouteTemplate.Unicode.CaseFolding

/-!
The nodes of a tree, under the flags that hold at each part of it. Without Unicode, classes hold
ASCII characters only, and what would take in any other is refused.
-/

namespace RouteTemplate.Regex

open Unicode (CharSet)

structure Flags where
  caseInsensitive : Bool
  multiLine : Bool
  dotAll : Bool
  swapGreed : Bool
  unicode : Bool
  crlf : Bool
  deriving DecidableEq, Repr, Inhabited

namespace Flags

/-- Only Unicode is on at the beginning of a pattern. -/
def initial : Flags := ⟨false, false, false, false, true, false⟩

def change (f : Flags) : Flag × Bool → Flags
  | (.caseInsensitive, on) => { f with caseInsensitive := on }
  | (.multiLine, on) => { f with multiLine := on }
  | (.dotAll, on) => { f with dotAll := on }
  | (.swapGreed, on) => { f with swapGreed := on }
  | (.unicode, on) => { f with unicode := on }
  | (.crlf, on) => { f with crlf := on }
  | (.ignoreBlanks, _) => f

def apply (f : Flags) (changes : FlagChanges) : Flags := changes.foldl change f

end Flags

/-! ### Classes -/

def AsciiClass.set : AsciiClass → CharSet
  | .alnum => ⟨[⟨0x30, 0x39⟩, ⟨0x41, 0x5A⟩, ⟨0x61, 0x7A⟩]⟩
  | .alpha => ⟨[⟨0x41, 0x5A⟩, ⟨0x61, 0x7A⟩]⟩
  | .ascii => ⟨[⟨0x00, 0x7F⟩]⟩
  | .blank => ⟨[⟨0x09, 0x09⟩, ⟨0x20, 0x20⟩]⟩
  | .cntrl => ⟨[⟨0x00, 0x1F⟩, ⟨0x7F, 0x7F⟩]⟩
  | .digit => ⟨[⟨0x30, 0x39⟩]⟩
  | .graph => ⟨[⟨0x21, 0x7E⟩]⟩
  | .lower => ⟨[⟨0x61, 0x7A⟩]⟩
  | .print => ⟨[⟨0x20, 0x7E⟩]⟩
  | .punct => ⟨[⟨0x21, 0x2F⟩, ⟨0x3A, 0x40⟩, ⟨0x5B, 0x60⟩, ⟨0x7B, 0x7E⟩]⟩
  | .space => ⟨[⟨0x09, 0x0D⟩, ⟨0x20, 0x20⟩]⟩
  | .upper => ⟨[⟨0x41, 0x5A⟩]⟩
  | .word => Unicode.asciiWordChars
  | .xdigit => ⟨[⟨0x30, 0x39⟩, ⟨0x41, 0x46⟩, ⟨0x61, 0x66⟩]⟩

def ShortClass.set (unicode : Bool) : ShortClass → CharSet
  | .digit => if unicode then Unicode.decimalDigits else AsciiClass.digit.set
  | .space => if unicode then Unicode.whiteSpace else AsciiClass.space.set
  | .word => if unicode then Unicode.wordChars else AsciiClass.word.set

namespace Flags

def closeCase (f : Flags) (s : CharSet) : CharSet :=
  if f.caseInsensitive then (if f.unicode then s.closeCase else s.closeAsciiCase) else s

/-- All other characters, if `negated` asks for them. -/
def negate (f : Flags) (negated : Bool) (s : CharSet) : Except SyntaxError CharSet :=
  if !negated then .ok s else if f.unicode then .ok s.compl else .error .notUnicode

/-- A class closed under case and then negated. -/
def finishClass (f : Flags) (negated : Bool) (s : CharSet) : Except SyntaxError CharSet :=
  f.negate negated (f.closeCase s)

def shortClass (f : Flags) (cls : ShortClass) (negated : Bool) : Except SyntaxError CharSet :=
  f.negate negated (cls.set f.unicode)

def property (f : Flags) (query : Unicode.PropertyQuery) (negated : Bool) :
    Except SyntaxError CharSet :=
  if !f.unicode then .error .notUnicode
  else
    match query.set? with
    | some s => f.finishClass negated s
    | none => .error .badProperty

/-- Whether a class may hold a character. -/
def admits (f : Flags) (c : Char) : Bool := f.unicode || c.toNat < 128

end Flags

def SetOp.apply : SetOp → CharSet → CharSet → CharSet
  | .inter => .inter
  | .difference => .difference
  | .symmDiff => .symmDiff

namespace ClassTree

mutual

/-- The characters of a class. -/
def set (f : Flags) : ClassTree → Except SyntaxError CharSet
  | .empty => .ok .empty
  | .literal l => if f.admits l.char then .ok (.singleton l.char) else .error .notUnicode
  | .range lo hi =>
    if f.admits lo.char && f.admits hi.char then .ok (.interval lo.char hi.char)
    else .error .notUnicode
  | .ascii cls negated => f.finishClass negated cls.set
  | .short cls negated => f.shortClass cls negated
  | .property query negated => f.property query negated
  | .bracketed negated inside => do f.finishClass negated (← inside.set f)
  | .union items => do return .unions (← sets f items)
  | .operation op left right => do
    return op.apply (f.closeCase (← left.set f)) (f.closeCase (← right.set f))

def sets (f : Flags) : List ClassTree → Except SyntaxError (List CharSet)
  | [] => .ok []
  | item :: items => do return (← item.set f) :: (← sets f items)

end

end ClassTree

/-! ### Nodes -/

def Assertion.look (f : Flags) : Assertion → Look
  | .lineStart => if f.multiLine then .lineStart f.crlf else .textStart
  | .lineEnd => if f.multiLine then .lineEnd f.crlf else .textEnd
  | .textStart => .textStart
  | .textEnd => .textEnd
  | .word place => .word place f.unicode

/-- The characters that a dot stands for: all but the ends of lines, unless it stands for all. -/
def Flags.dotSet (f : Flags) : CharSet :=
  if f.dotAll then .all
  else if f.crlf then CharSet.all.difference (.ofChars ['\n', '\r'])
  else CharSet.all.difference (.singleton '\n')

def Atom.node (f : Flags) : Atom → Except SyntaxError Node
  | .literal l =>
    if !f.unicode && l.byteEscape && l.char.toNat ≥ 128 then .error .notUnicode
    else .ok (.set (f.closeCase (.singleton l.char)))
  | .dot => if f.unicode then .ok (.set f.dotSet) else .error .notUnicode
  | .assertion a => .ok (.look (a.look f))
  | .short cls negated => (f.shortClass cls negated).map .set
  | .property query negated => (f.property query negated).map .set
  | .bracket negated inside => do return .set (← f.finishClass negated (← inside.set f))

namespace Tree

mutual

/-- The node of a tree, and the flags that hold after it. -/
def node (f : Flags) : Tree → Except SyntaxError (Node × Flags)
  | .empty => .ok (.empty, f)
  | .atom a => do return (← a.node f, f)
  | .flags changes => .ok (.empty, f.apply changes)
  | .repetition r inside => do
    let (n, f) ← inside.node f
    return (n.replicate { r with greedy := r.greedy != f.swapGreed }, f)
  | .group (.plain changes) inside => do
    let (n, _) ← inside.node (f.apply changes)
    return (n, f)
  | .group (.capture index name) inside => do
    let (n, _) ← inside.node f
    return (.capture index name n, f)
  | .concat parts => do
    let (ns, f) ← nodes f parts
    return (.concat ns, f)
  | .alternation branches => do
    let (ns, f) ← nodes f branches
    return (.alternation ns, f)

def nodes (f : Flags) : List Tree → Except SyntaxError (List Node × Flags)
  | [] => .ok ([], f)
  | t :: ts => do
    let (n, f) ← t.node f
    let (ns, f) ← nodes f ts
    return (n :: ns, f)

end

end Tree

/-- The node of a text. -/
def Node.parse (s : List Char) : Except SyntaxError Node := do
  let t ← Tree.parse s
  let (n, _) ← t.node .initial
  return n

end RouteTemplate.Regex
