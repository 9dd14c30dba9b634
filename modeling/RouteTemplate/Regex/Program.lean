import RouteTemplate.Regex.Node

/-!
Programs that look for what a node matches. A block is the code of a part: it begins at its first
instruction and leaves for a place that is chosen later, so that blocks are put together without
going back over their code.
-/

namespace RouteTemplate.Regex

open Unicode (CharSet)

/-- One step of a program. Each but the last names the instructions that may follow. -/
inductive Instruction where
  | read (s : CharSet) (next : Nat)
  | check (l : Look) (next : Nat)
  | mark (slot next : Nat)
  | fork (preferred other : Nat)
  | jump (next : Nat)
  | accept
  deriving DecidableEq, Repr, Inhabited

/-- Code of a fixed size, given where it begins and where it leaves for. -/
structure Block where
  size : Nat
  code : (base next : Nat) → List Instruction
  length_code : ∀ base next, (code base next).length = size

namespace Block

attribute [simp] length_code

def single (i : (next : Nat) → Instruction) : Block := ⟨1, fun _ next => [i next], by simp⟩

/-- Goes straight on. -/
def skip : Block := single .jump

/-- One block after another. -/
def append (a b : Block) : Block where
  size := a.size + b.size
  code base next := a.code base (base + a.size) ++ b.code (base + a.size) next
  length_code := by simp

/-- A fork towards going on or towards leaving. -/
def choose (greedy : Bool) (stay leave : Nat) : Instruction :=
  if greedy then .fork stay leave else .fork leave stay

/-- One block or another, the first one preferred. -/
def either (a b : Block) : Block where
  size := 1 + a.size + b.size
  code base next :=
    .fork (base + 1) (base + 1 + a.size) ::
      (a.code (base + 1) next ++ b.code (base + 1 + a.size) next)
  length_code := by simp; omega

/-- A block once or not at all. -/
def optional (greedy : Bool) (a : Block) : Block where
  size := 1 + a.size
  code base next := choose greedy (base + 1) next :: a.code (base + 1) next
  length_code := by simp; omega

/-- A block once or more. -/
def repeated (greedy : Bool) (a : Block) : Block where
  size := a.size + 1
  code base next := a.code base (base + a.size) ++ [choose greedy base next]
  length_code := by simp

/-- A block any number of times, decided at one place before and after each time. -/
def loop (greedy : Bool) (a : Block) : Block where
  size := 1 + a.size
  code base next := choose greedy (base + 1) next :: a.code (base + 1) base
  length_code := by simp; omega

/-- A block `n` times, and then `last`. -/
def times (a : Block) (last : Block) : Nat → Block
  | 0 => last
  | n + 1 => a.append (times a last n)

/-- A block up to `n + 1` times. -/
def upTo (greedy : Bool) (a : Block) : Nat → Block
  | 0 => optional greedy a
  | n + 1 => optional greedy (a.append (upTo greedy a n))

/-- A block as often as a repetition asks for. A block that may match nothing is entered once, if at
all, before it is decided whether to repeat it. -/
def repetition (r : Repetition) (consumes : Bool) (a : Block) : Block :=
  match r.min, r.max with
  | 0, none => if consumes then a.loop r.greedy else (a.repeated r.greedy).optional r.greedy
  | n + 1, none => a.times (a.repeated r.greedy) n
  | 0, some 0 => skip
  | 0, some (m + 1) => a.upTo r.greedy m
  | n + 1, some m => if m ≤ n + 1 then a.times a n else a.times (a.upTo r.greedy (m - n - 2)) (n + 1)

end Block

/-- The code of a node. Group `i` marks its beginning at `2 * i` and its end at `2 * i + 1`. -/
def Node.block : Node → Block
  | .empty => .skip
  | .set s => .single (.read s)
  | .look l => .single (.check l)
  | .capture index _ inside =>
    ((Block.single (.mark (2 * index))).append inside.block).append
      (.single (.mark (2 * index + 1)))
  | .repetition r inside => inside.block.repetition r inside.consumes
  | .seq first second => first.block.append second.block
  | .alt first second => first.block.either second.block

abbrev Program := Array Instruction

/-- The program of a whole pattern, which is group 0. -/
def Node.program (n : Node) : Program :=
  let whole := (Node.capture 0 none n).block
  (whole.code 0 whole.size ++ [Instruction.accept]).toArray

end RouteTemplate.Regex
