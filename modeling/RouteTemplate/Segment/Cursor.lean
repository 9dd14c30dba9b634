import RouteTemplate.Segment.Scan
import RouteTemplate.Text.Slice

/-!
Scanning a template by its bytes. A search finds one placeholder after the other; a cursor cuts out of
the template what stands between the end of one and the beginning of the next. The search goes on by
itself, so a cut could fail: where it does there is neither a segment nor an end.
-/

namespace RouteTemplate

open Text (size slice?)

/-! ### Searches -/

/-- A placeholder that was found, and the bytes where it begins and ends. -/
structure Finding where
  start : Nat
  stop : Nat
  placeholder : Placeholder
  deriving DecidableEq, Repr, Inhabited

/-- What is still to be searched of a template, and the byte where it begins. -/
structure Search where
  rest : List Char
  position : Nat
  deriving DecidableEq, Repr, Inhabited

namespace Search

def start (template : List Char) : Search := ⟨template, 0⟩

/-- Goes on to the end of the next placeholder. If there is none, the search stays where it is. -/
def next (s : Search) : Option Finding × Search :=
  match Placeholder.find? s.rest with
  | some (before, p, rest) =>
    let start := s.position + size before
    let stop := start + size p.text
    (some ⟨start, stop, p⟩, ⟨rest, stop⟩)
  | none => (none, s)

end Search

/-! ### Cursors -/

/-- How far a template has been handed out or held back, and how far it has been searched. -/
structure Cursor where
  template : List Char
  search : Search
  position : Nat
  pending : Option Placeholder
  deriving DecidableEq, Repr, Inhabited

namespace Cursor

def start (template : List Char) : Cursor := ⟨template, .start template, 0, none⟩

/-- Hands out the next segment, or says that there is none, unless a cut fails. -/
def next (c : Cursor) : Option (Option Segment × Cursor) :=
  match c.pending with
  | some p => some (some (.placeholder p), { c with pending := none })
  | none =>
    match c.search.next with
    | (some found, search) => do
      let text ← slice? c.template c.position found.start
      let c := { c with search, position := found.stop }
      if text.isEmpty then some (some (.placeholder found.placeholder), c)
      else some (some (.literal text), { c with pending := some found.placeholder })
    | (none, search) => do
      let text ← slice? c.template c.position (size c.template)
      some (if text.isEmpty then none else some (.literal text),
        { c with search, position := size c.template })

/-- Asks for segments a number of times. -/
def run : Nat → Cursor → Option (List (Option Segment) × Cursor)
  | 0, c => some ([], c)
  | n + 1, c => do
    let (answer, c) ← c.next
    let (answers, c) ← run n c
    return (answer :: answers, c)

end Cursor

end RouteTemplate
