import RouteTemplate.Unicode.Named

/-!
Regular expressions as written: tokens, the trees that they form, and what can be wrong with them.
-/

namespace RouteTemplate.Regex

/-- Why a text is no regular expression. -/
inductive SyntaxError where
  | unclosedGroup
  | unopenedGroup
  | unclosedClass
  | nothingToRepeat
  | badRepetition
  | badEscape
  | badCodePoint
  | badProperty
  | badFlags
  | badGroupName
  | repeatedGroupName
  | lookAround
  | badClassRange
  | badClassItem
  | nestedTooDeeply
  | notUnicode
  deriving DecidableEq, Repr, Inhabited

/-- Why a text does not compile. -/
inductive CompileError where
  | malformed (cause : SyntaxError)
  /-- The program is larger than the engine allows. -/
  | tooLarge
  deriving DecidableEq, Repr, Inhabited

/-! ### Flags -/

inductive Flag where
  | caseInsensitive | multiLine | dotAll | swapGreed | unicode | crlf | ignoreBlanks
  deriving DecidableEq, Repr, Inhabited

/-- Flags that are turned on or off, in the order in which they are written. -/
abbrev FlagChanges := List (Flag × Bool)

def Flag.ofChar? : Char → Option Flag
  | 'i' => some .caseInsensitive
  | 'm' => some .multiLine
  | 's' => some .dotAll
  | 'U' => some .swapGreed
  | 'u' => some .unicode
  | 'R' => some .crlf
  | 'x' => some .ignoreBlanks
  | _ => none

/-- What the changes say of one flag, if anything. -/
def FlagChanges.lookup? (changes : FlagChanges) (f : Flag) : Option Bool :=
  (changes.find? fun p => p.1 = f).map (·.2)

/-! ### Assertions and classes -/

/-- The places that a word assertion accepts. -/
inductive WordPlace where
  | boundary | notBoundary | start | stop | startHalf | stopHalf
  deriving DecidableEq, Repr, Inhabited

inductive Assertion where
  | lineStart | lineEnd | textStart | textEnd
  | word (place : WordPlace)
  deriving DecidableEq, Repr, Inhabited

/-- The classes of one letter. -/
inductive ShortClass where
  | digit | space | word
  deriving DecidableEq, Repr, Inhabited

/-- The classes of ASCII characters that have a name. -/
inductive AsciiClass where
  | alnum | alpha | ascii | blank | cntrl | digit | graph | lower | print | punct | space | upper
  | word | xdigit
  deriving DecidableEq, Repr, Inhabited

inductive SetOp where
  | inter | difference | symmDiff
  deriving DecidableEq, Repr, Inhabited

/-- A character in a pattern. One written as `\x` and two digits stands for a byte where a pattern
does without Unicode. -/
structure Literal where
  char : Char
  byteEscape : Bool
  deriving DecidableEq, Repr, Inhabited

/-- The inside of a bracketed class. -/
inductive ClassTree where
  | empty
  | literal (l : Literal)
  | range (lo hi : Literal)
  | ascii (cls : AsciiClass) (negated : Bool)
  | short (cls : ShortClass) (negated : Bool)
  | property (query : Unicode.PropertyQuery) (negated : Bool)
  | bracketed (negated : Bool) (inside : ClassTree)
  | union (items : List ClassTree)
  | operation (op : SetOp) (left right : ClassTree)
  deriving Repr, Inhabited

/-- What stands for one character or one place, and is read as a whole. -/
inductive Atom where
  | literal (l : Literal)
  | dot
  | assertion (a : Assertion)
  | short (cls : ShortClass) (negated : Bool)
  | property (query : Unicode.PropertyQuery) (negated : Bool)
  | bracket (negated : Bool) (inside : ClassTree)
  deriving Repr, Inhabited

/-! ### Tokens and trees -/

/-- How often a repeated part may occur; no upper bound is `none`. -/
structure Repetition where
  min : Nat
  max : Option Nat
  greedy : Bool
  deriving DecidableEq, Repr, Inhabited

/-- What an opening parenthesis begins. -/
inductive Opening where
  | capture (name : Option (List Char))
  | plain (changes : FlagChanges)
  deriving DecidableEq, Repr, Inhabited

inductive Token where
  | atom (a : Atom)
  | flags (changes : FlagChanges)
  | openGroup (kind : Opening)
  | closeGroup
  | bar
  | repetition (r : Repetition)
  deriving Repr, Inhabited

/-- What a group does with its inside: number it, name it as well, or set flags for it. -/
inductive GroupKind where
  | capture (index : Nat) (name : Option (List Char))
  | plain (changes : FlagChanges)
  deriving DecidableEq, Repr, Inhabited

inductive Tree where
  | empty
  | atom (a : Atom)
  | flags (changes : FlagChanges)
  | repetition (r : Repetition) (inside : Tree)
  | group (kind : GroupKind) (inside : Tree)
  | concat (parts : List Tree)
  | alternation (branches : List Tree)
  deriving Repr, Inhabited

namespace ClassTree

/-- The tree of the items of a class: none, one, or their union. -/
def ofItems : List ClassTree → ClassTree
  | [] => .empty
  | [item] => item
  | items => .union items

mutual

/-- How many levels of nesting a class adds. -/
def depth : ClassTree → Nat
  | .bracketed _ inside => inside.depth + 1
  | .union items => depthAll items + 1
  | .operation _ left right => max left.depth right.depth + 1
  | _ => 0

def depthAll : List ClassTree → Nat
  | [] => 0
  | item :: items => max item.depth (depthAll items)

end

end ClassTree

/-- How many levels of nesting an atom adds. -/
def Atom.depth : Atom → Nat
  | .bracket _ inside => inside.depth + 1
  | _ => 0

namespace Tree

/-- The tree of parts in a row: none, one, or several. -/
def ofParts : List Tree → Tree
  | [] => .empty
  | [part] => part
  | parts => .concat parts

mutual

/-- How many levels of groups, repetitions, rows, alternatives and classes lie within one another. -/
def depth : Tree → Nat
  | .empty | .flags _ => 0
  | .atom a => a.depth
  | .repetition _ inside => inside.depth + 1
  | .group _ inside => inside.depth + 1
  | .concat parts => depthAll parts + 1
  | .alternation branches => depthAll branches + 1

def depthAll : List Tree → Nat
  | [] => 0
  | part :: parts => max part.depth (depthAll parts)

end

/-- The most levels of nesting that are accepted. -/
def maxDepth : Nat := 250

end Tree

end RouteTemplate.Regex
