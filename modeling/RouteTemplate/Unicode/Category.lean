import RouteTemplate.Unicode.CharSet

/-!
The general category of every code point. The table gives the runs of one category in code point
order, and a set of categories is a set of characters: a character is in it exactly when its
category is.
-/

namespace RouteTemplate.Unicode

/-- The general categories, by their two-letter codes. -/
inductive Category where
  | lu | ll | lt | lm | lo | mn | mc | me | nd | nl
  | no | pc | pd | ps | pe | pi | pf | po | sm | sc
  | sk | so | zs | zl | zp | cc | cf | cs | co | cn
  deriving DecidableEq, Repr, Inhabited

namespace Category

def isLetter (g : Category) : Bool := g matches .lu | .ll | .lt | .lm | .lo

def isCasedLetter (g : Category) : Bool := g matches .lu | .ll | .lt

def isMark (g : Category) : Bool := g matches .mn | .mc | .me

def isNumber (g : Category) : Bool := g matches .nd | .nl | .no

def isPunctuation (g : Category) : Bool := g matches .pc | .pd | .ps | .pe | .pi | .pf | .po

def isSymbol (g : Category) : Bool := g matches .sm | .sc | .sk | .so

def isSeparator (g : Category) : Bool := g matches .zs | .zl | .zp

def isOther (g : Category) : Bool := g matches .cc | .cf | .cs | .co | .cn

/-! ### Runs -/

/-- The runs from U+0000 to U+047E. -/
def runs0000 : List (Category × Nat) :=
  [(.cc, 32), (.zs, 1), (.po, 3), (.sc, 1), (.po, 3), (.ps, 1), (.pe, 1), (.po, 1), (.sm, 1),
   (.po, 1), (.pd, 1), (.po, 2), (.nd, 10), (.po, 2), (.sm, 3), (.po, 2), (.lu, 26), (.ps, 1),
   (.po, 1), (.pe, 1), (.sk, 1), (.pc, 1), (.sk, 1), (.ll, 26), (.ps, 1), (.sm, 1), (.pe, 1),
   (.sm, 1), (.cc, 33), (.zs, 1), (.po, 1), (.sc, 4), (.so, 1), (.po, 1), (.sk, 1), (.so, 1),
   (.lo, 1), (.pi, 1), (.sm, 1), (.cf, 1), (.so, 1), (.sk, 1), (.so, 1), (.sm, 1), (.no, 2),
   (.sk, 1), (.ll, 1), (.po, 2), (.sk, 1), (.no, 1), (.lo, 1), (.pf, 1), (.no, 3), (.po, 1),
   (.lu, 23), (.sm, 1), (.lu, 7), (.ll, 24), (.sm, 1), (.ll, 8), (.lu, 1), (.ll, 1), (.lu, 1),
   (.ll, 1), (.lu, 1), (.ll, 1), (.lu, 1), (.ll, 1), (.lu, 1), (.ll, 1), (.lu, 1), (.ll, 1),
   (.lu, 1), (.ll, 1), (.lu, 1), (.ll, 1), (.lu, 1), (.ll, 1), (.lu, 1), (.ll, 1), (.lu, 1),
   (.ll, 1), (.lu, 1), (.ll, 1), (.lu, 1), (.ll, 1), (.lu, 1), (.ll, 1), (.lu, 1), (.ll, 1),
   (.lu, 1), (.ll, 1), (.lu, 1), (.ll, 1), (.lu, 1), (.ll, 1), (.lu, 1), (.ll, 1), (.lu, 1),
   (.ll, 1), (.lu, 1), (.ll, 1), (.lu, 1), (.ll, 1), (.lu, 1), (.ll, 1), (.lu, 1), (.ll, 1),
   (.lu, 1), (.ll, 1), (.lu, 1), (.ll, 1), (.lu, 1), (.ll, 1), (.lu, 1), (.ll, 2), (.lu, 1),
   (.ll, 1), (.lu, 1), (.ll, 1), (.lu, 1), (.ll, 1), (.lu, 1), (.ll, 1), (.lu, 1), (.ll, 1),
   (.lu, 1), (.ll, 1), (.lu, 1), (.ll, 1), (.lu, 1), (.ll, 2), (.lu, 1), (.ll, 1), (.lu, 1),
   (.ll, 1), (.lu, 1), (.ll, 1), (.lu, 1), (.ll, 1), (.lu, 1), (.ll, 1), (.lu, 1), (.ll, 1),
   (.lu, 1), (.ll, 1), (.lu, 1), (.ll, 1), (.lu, 1), (.ll, 1), (.lu, 1), (.ll, 1), (.lu, 1),
   (.ll, 1), (.lu, 1), (.ll, 1), (.lu, 1), (.ll, 1), (.lu, 1), (.ll, 1), (.lu, 1), (.ll, 1),
   (.lu, 1), (.ll, 1), (.lu, 1), (.ll, 1), (.lu, 1), (.ll, 1), (.lu, 1), (.ll, 1), (.lu, 1),
   (.ll, 1), (.lu, 1), (.ll, 1), (.lu, 1), (.ll, 1), (.lu, 1), (.ll, 1), (.lu, 2), (.ll, 1),
   (.lu, 1), (.ll, 1), (.lu, 1), (.ll, 3), (.lu, 2), (.ll, 1), (.lu, 1), (.ll, 1), (.lu, 2),
   (.ll, 1), (.lu, 3), (.ll, 2), (.lu, 4), (.ll, 1), (.lu, 2), (.ll, 1), (.lu, 3), (.ll, 3),
   (.lu, 2), (.ll, 1), (.lu, 2), (.ll, 1), (.lu, 1), (.ll, 1), (.lu, 1), (.ll, 1), (.lu, 2),
   (.ll, 1), (.lu, 1), (.ll, 2), (.lu, 1), (.ll, 1), (.lu, 2), (.ll, 1), (.lu, 3), (.ll, 1),
   (.lu, 1), (.ll, 1), (.lu, 2), (.ll, 2), (.lo, 1), (.lu, 1), (.ll, 3), (.lo, 4), (.lu, 1),
   (.lt, 1), (.ll, 1), (.lu, 1), (.lt, 1), (.ll, 1), (.lu, 1), (.lt, 1), (.ll, 1), (.lu, 1),
   (.ll, 1), (.lu, 1), (.ll, 1), (.lu, 1), (.ll, 1), (.lu, 1), (.ll, 1), (.lu, 1), (.ll, 1),
   (.lu, 1), (.ll, 1), (.lu, 1), (.ll, 1), (.lu, 1), (.ll, 2), (.lu, 1), (.ll, 1), (.lu, 1),
   (.ll, 1), (.lu, 1), (.ll, 1), (.lu, 1), (.ll, 1), (.lu, 1), (.ll, 1), (.lu, 1), (.ll, 1),
   (.lu, 1), (.ll, 1), (.lu, 1), (.ll, 1), (.lu, 1), (.ll, 2), (.lu, 1), (.lt, 1), (.ll, 1),
   (.lu, 1), (.ll, 1), (.lu, 3), (.ll, 1), (.lu, 1), (.ll, 1), (.lu, 1), (.ll, 1), (.lu, 1),
   (.ll, 1), (.lu, 1), (.ll, 1), (.lu, 1), (.ll, 1), (.lu, 1), (.ll, 1), (.lu, 1), (.ll, 1),
   (.lu, 1), (.ll, 1), (.lu, 1), (.ll, 1), (.lu, 1), (.ll, 1), (.lu, 1), (.ll, 1), (.lu, 1),
   (.ll, 1), (.lu, 1), (.ll, 1), (.lu, 1), (.ll, 1), (.lu, 1), (.ll, 1), (.lu, 1), (.ll, 1),
   (.lu, 1), (.ll, 1), (.lu, 1), (.ll, 1), (.lu, 1), (.ll, 1), (.lu, 1), (.ll, 1), (.lu, 1),
   (.ll, 1), (.lu, 1), (.ll, 1), (.lu, 1), (.ll, 1), (.lu, 1), (.ll, 1), (.lu, 1), (.ll, 1),
   (.lu, 1), (.ll, 1), (.lu, 1), (.ll, 1), (.lu, 1), (.ll, 1), (.lu, 1), (.ll, 7), (.lu, 2),
   (.ll, 1), (.lu, 2), (.ll, 2), (.lu, 1), (.ll, 1), (.lu, 4), (.ll, 1), (.lu, 1), (.ll, 1),
   (.lu, 1), (.ll, 1), (.lu, 1), (.ll, 1), (.lu, 1), (.ll, 69), (.lo, 1), (.ll, 27), (.lm, 18),
   (.sk, 4), (.lm, 12), (.sk, 14), (.lm, 5), (.sk, 7), (.lm, 1), (.sk, 1), (.lm, 1), (.sk, 17),
   (.mn, 112), (.lu, 1), (.ll, 1), (.lu, 1), (.ll, 1), (.lm, 1), (.sk, 1), (.lu, 1), (.ll, 1),
   (.cn, 2), (.lm, 1), (.ll, 3), (.po, 1), (.lu, 1), (.cn, 4), (.sk, 2), (.lu, 1), (.po, 1),
   (.lu, 3), (.cn, 1), (.lu, 1), (.cn, 1), (.lu, 2), (.ll, 1), (.lu, 17), (.cn, 1), (.lu, 9),
   (.ll, 35), (.lu, 1), (.ll, 2), (.lu, 3), (.ll, 3), (.lu, 1), (.ll, 1), (.lu, 1), (.ll, 1),
   (.lu, 1), (.ll, 1), (.lu, 1), (.ll, 1), (.lu, 1), (.ll, 1), (.lu, 1), (.ll, 1), (.lu, 1),
   (.ll, 1), (.lu, 1), (.ll, 1), (.lu, 1), (.ll, 1), (.lu, 1), (.ll, 1), (.lu, 1), (.ll, 1),
   (.lu, 1), (.ll, 5), (.lu, 1), (.ll, 1), (.sm, 1), (.lu, 1), (.ll, 1), (.lu, 2), (.ll, 2),
   (.lu, 51), (.ll, 48), (.lu, 1), (.ll, 1), (.lu, 1), (.ll, 1), (.lu, 1), (.ll, 1), (.lu, 1),
   (.ll, 1), (.lu, 1), (.ll, 1), (.lu, 1), (.ll, 1), (.lu, 1), (.ll, 1), (.lu, 1), (.ll, 1),
   (.lu, 1), (.ll, 1), (.lu, 1), (.ll, 1), (.lu, 1), (.ll, 1), (.lu, 1), (.ll, 1), (.lu, 1),
   (.ll, 1), (.lu, 1), (.ll, 1), (.lu, 1), (.ll, 1), (.lu, 1)]

/-- The runs from U+047F to U+0B63. -/
def runs047F : List (Category × Nat) :=
  [(.ll, 1), (.lu, 1), (.ll, 1), (.so, 1), (.mn, 5), (.me, 2), (.lu, 1), (.ll, 1), (.lu, 1),
   (.ll, 1), (.lu, 1), (.ll, 1), (.lu, 1), (.ll, 1), (.lu, 1), (.ll, 1), (.lu, 1), (.ll, 1),
   (.lu, 1), (.ll, 1), (.lu, 1), (.ll, 1), (.lu, 1), (.ll, 1), (.lu, 1), (.ll, 1), (.lu, 1),
   (.ll, 1), (.lu, 1), (.ll, 1), (.lu, 1), (.ll, 1), (.lu, 1), (.ll, 1), (.lu, 1), (.ll, 1),
   (.lu, 1), (.ll, 1), (.lu, 1), (.ll, 1), (.lu, 1), (.ll, 1), (.lu, 1), (.ll, 1), (.lu, 1),
   (.ll, 1), (.lu, 1), (.ll, 1), (.lu, 1), (.ll, 1), (.lu, 1), (.ll, 1), (.lu, 1), (.ll, 1),
   (.lu, 1), (.ll, 1), (.lu, 1), (.ll, 1), (.lu, 1), (.ll, 1), (.lu, 2), (.ll, 1), (.lu, 1),
   (.ll, 1), (.lu, 1), (.ll, 1), (.lu, 1), (.ll, 1), (.lu, 1), (.ll, 1), (.lu, 1), (.ll, 1),
   (.lu, 1), (.ll, 2), (.lu, 1), (.ll, 1), (.lu, 1), (.ll, 1), (.lu, 1), (.ll, 1), (.lu, 1),
   (.ll, 1), (.lu, 1), (.ll, 1), (.lu, 1), (.ll, 1), (.lu, 1), (.ll, 1), (.lu, 1), (.ll, 1),
   (.lu, 1), (.ll, 1), (.lu, 1), (.ll, 1), (.lu, 1), (.ll, 1), (.lu, 1), (.ll, 1), (.lu, 1),
   (.ll, 1), (.lu, 1), (.ll, 1), (.lu, 1), (.ll, 1), (.lu, 1), (.ll, 1), (.lu, 1), (.ll, 1),
   (.lu, 1), (.ll, 1), (.lu, 1), (.ll, 1), (.lu, 1), (.ll, 1), (.lu, 1), (.ll, 1), (.lu, 1),
   (.ll, 1), (.lu, 1), (.ll, 1), (.lu, 1), (.ll, 1), (.lu, 1), (.ll, 1), (.lu, 1), (.ll, 1),
   (.lu, 1), (.ll, 1), (.lu, 1), (.ll, 1), (.lu, 1), (.ll, 1), (.lu, 1), (.ll, 1), (.lu, 1),
   (.ll, 1), (.lu, 1), (.ll, 1), (.lu, 1), (.ll, 1), (.lu, 1), (.ll, 1), (.lu, 1), (.ll, 1),
   (.lu, 1), (.ll, 1), (.lu, 1), (.ll, 1), (.lu, 1), (.ll, 1), (.lu, 1), (.ll, 1), (.lu, 1),
   (.ll, 1), (.lu, 1), (.ll, 1), (.lu, 1), (.ll, 1), (.lu, 1), (.ll, 1), (.lu, 1), (.ll, 1),
   (.lu, 1), (.ll, 1), (.lu, 1), (.ll, 1), (.lu, 1), (.ll, 1), (.lu, 1), (.ll, 1), (.cn, 1),
   (.lu, 38), (.cn, 2), (.lm, 1), (.po, 6), (.ll, 41), (.po, 1), (.pd, 1), (.cn, 2), (.so, 2),
   (.sc, 1), (.cn, 1), (.mn, 45), (.pd, 1), (.mn, 1), (.po, 1), (.mn, 2), (.po, 1), (.mn, 2),
   (.po, 1), (.mn, 1), (.cn, 8), (.lo, 27), (.cn, 4), (.lo, 4), (.po, 2), (.cn, 11), (.cf, 6),
   (.sm, 3), (.po, 2), (.sc, 1), (.po, 2), (.so, 2), (.mn, 11), (.po, 1), (.cf, 1), (.po, 3),
   (.lo, 32), (.lm, 1), (.lo, 10), (.mn, 21), (.nd, 10), (.po, 4), (.lo, 2), (.mn, 1), (.lo, 99),
   (.po, 1), (.lo, 1), (.mn, 7), (.cf, 1), (.so, 1), (.mn, 6), (.lm, 2), (.mn, 2), (.so, 1),
   (.mn, 4), (.lo, 2), (.nd, 10), (.lo, 3), (.so, 2), (.lo, 1), (.po, 14), (.cn, 1), (.cf, 1),
   (.lo, 1), (.mn, 1), (.lo, 30), (.mn, 27), (.cn, 2), (.lo, 89), (.mn, 11), (.lo, 1), (.cn, 14),
   (.nd, 10), (.lo, 33), (.mn, 9), (.lm, 2), (.so, 1), (.po, 3), (.lm, 1), (.cn, 2), (.mn, 1),
   (.sc, 2), (.lo, 22), (.mn, 4), (.lm, 1), (.mn, 9), (.lm, 1), (.mn, 3), (.lm, 1), (.mn, 5),
   (.cn, 2), (.po, 15), (.cn, 1), (.lo, 25), (.mn, 3), (.cn, 2), (.po, 1), (.cn, 1), (.lo, 11),
   (.cn, 5), (.lo, 24), (.sk, 1), (.lo, 6), (.cn, 1), (.cf, 2), (.cn, 5), (.mn, 9), (.lo, 41),
   (.lm, 1), (.mn, 24), (.cf, 1), (.mn, 32), (.mc, 1), (.lo, 54), (.mn, 1), (.mc, 1), (.mn, 1),
   (.lo, 1), (.mc, 3), (.mn, 8), (.mc, 4), (.mn, 1), (.mc, 2), (.lo, 1), (.mn, 7), (.lo, 10),
   (.mn, 2), (.po, 2), (.nd, 10), (.po, 1), (.lm, 1), (.lo, 15), (.mn, 1), (.mc, 2), (.cn, 1),
   (.lo, 8), (.cn, 2), (.lo, 2), (.cn, 2), (.lo, 22), (.cn, 1), (.lo, 7), (.cn, 1), (.lo, 1),
   (.cn, 3), (.lo, 4), (.cn, 2), (.mn, 1), (.lo, 1), (.mc, 3), (.mn, 4), (.cn, 2), (.mc, 2),
   (.cn, 2), (.mc, 2), (.mn, 1), (.lo, 1), (.cn, 8), (.mc, 1), (.cn, 4), (.lo, 2), (.cn, 1),
   (.lo, 3), (.mn, 2), (.cn, 2), (.nd, 10), (.lo, 2), (.sc, 2), (.no, 6), (.so, 1), (.sc, 1),
   (.lo, 1), (.po, 1), (.mn, 1), (.cn, 2), (.mn, 2), (.mc, 1), (.cn, 1), (.lo, 6), (.cn, 4),
   (.lo, 2), (.cn, 2), (.lo, 22), (.cn, 1), (.lo, 7), (.cn, 1), (.lo, 2), (.cn, 1), (.lo, 2),
   (.cn, 1), (.lo, 2), (.cn, 2), (.mn, 1), (.cn, 1), (.mc, 3), (.mn, 2), (.cn, 4), (.mn, 2),
   (.cn, 2), (.mn, 3), (.cn, 3), (.mn, 1), (.cn, 7), (.lo, 4), (.cn, 1), (.lo, 1), (.cn, 7),
   (.nd, 10), (.mn, 2), (.lo, 3), (.mn, 1), (.po, 1), (.cn, 10), (.mn, 2), (.mc, 1), (.cn, 1),
   (.lo, 9), (.cn, 1), (.lo, 3), (.cn, 1), (.lo, 22), (.cn, 1), (.lo, 7), (.cn, 1), (.lo, 2),
   (.cn, 1), (.lo, 5), (.cn, 2), (.mn, 1), (.lo, 1), (.mc, 3), (.mn, 5), (.cn, 1), (.mn, 2),
   (.mc, 1), (.cn, 1), (.mc, 2), (.mn, 1), (.cn, 2), (.lo, 1), (.cn, 15), (.lo, 2), (.mn, 2),
   (.cn, 2), (.nd, 10), (.po, 1), (.sc, 1), (.cn, 7), (.lo, 1), (.mn, 6), (.cn, 1), (.mn, 1),
   (.mc, 2), (.cn, 1), (.lo, 8), (.cn, 2), (.lo, 2), (.cn, 2), (.lo, 22), (.cn, 1), (.lo, 7),
   (.cn, 1), (.lo, 2), (.cn, 1), (.lo, 5), (.cn, 2), (.mn, 1), (.lo, 1), (.mc, 1), (.mn, 1),
   (.mc, 1), (.mn, 4), (.cn, 2), (.mc, 2), (.cn, 2), (.mc, 2), (.mn, 1), (.cn, 7), (.mn, 2),
   (.mc, 1), (.cn, 4), (.lo, 2), (.cn, 1), (.lo, 3), (.mn, 2)]

/-- The runs from U+0B64 to U+1A57. -/
def runs0B64 : List (Category × Nat) :=
  [(.cn, 2), (.nd, 10), (.so, 1), (.lo, 1), (.no, 6), (.cn, 10), (.mn, 1), (.lo, 1), (.cn, 1),
   (.lo, 6), (.cn, 3), (.lo, 3), (.cn, 1), (.lo, 4), (.cn, 3), (.lo, 2), (.cn, 1), (.lo, 1),
   (.cn, 1), (.lo, 2), (.cn, 3), (.lo, 2), (.cn, 3), (.lo, 3), (.cn, 3), (.lo, 12), (.cn, 4),
   (.mc, 2), (.mn, 1), (.mc, 2), (.cn, 3), (.mc, 3), (.cn, 1), (.mc, 3), (.mn, 1), (.cn, 2),
   (.lo, 1), (.cn, 6), (.mc, 1), (.cn, 14), (.nd, 10), (.no, 3), (.so, 6), (.sc, 1), (.so, 1),
   (.cn, 5), (.mn, 1), (.mc, 3), (.mn, 1), (.lo, 8), (.cn, 1), (.lo, 3), (.cn, 1), (.lo, 23),
   (.cn, 1), (.lo, 16), (.cn, 2), (.mn, 1), (.lo, 1), (.mn, 3), (.mc, 4), (.cn, 1), (.mn, 3),
   (.cn, 1), (.mn, 4), (.cn, 7), (.mn, 2), (.cn, 1), (.lo, 3), (.cn, 2), (.lo, 1), (.cn, 2),
   (.lo, 2), (.mn, 2), (.cn, 2), (.nd, 10), (.cn, 7), (.po, 1), (.no, 7), (.so, 1), (.lo, 1),
   (.mn, 1), (.mc, 2), (.po, 1), (.lo, 8), (.cn, 1), (.lo, 3), (.cn, 1), (.lo, 23), (.cn, 1),
   (.lo, 10), (.cn, 1), (.lo, 5), (.cn, 2), (.mn, 1), (.lo, 1), (.mc, 1), (.mn, 1), (.mc, 5),
   (.cn, 1), (.mn, 1), (.mc, 2), (.cn, 1), (.mc, 2), (.mn, 2), (.cn, 7), (.mc, 2), (.cn, 6),
   (.lo, 2), (.cn, 1), (.lo, 2), (.mn, 2), (.cn, 2), (.nd, 10), (.cn, 1), (.lo, 2), (.mc, 1),
   (.cn, 12), (.mn, 2), (.mc, 2), (.lo, 9), (.cn, 1), (.lo, 3), (.cn, 1), (.lo, 41), (.mn, 2),
   (.lo, 1), (.mc, 3), (.mn, 4), (.cn, 1), (.mc, 3), (.cn, 1), (.mc, 3), (.mn, 1), (.lo, 1),
   (.so, 1), (.cn, 4), (.lo, 3), (.mc, 1), (.no, 7), (.lo, 3), (.mn, 2), (.cn, 2), (.nd, 10),
   (.no, 9), (.so, 1), (.lo, 6), (.cn, 1), (.mn, 1), (.mc, 2), (.cn, 1), (.lo, 18), (.cn, 3),
   (.lo, 24), (.cn, 1), (.lo, 9), (.cn, 1), (.lo, 1), (.cn, 2), (.lo, 7), (.cn, 3), (.mn, 1),
   (.cn, 4), (.mc, 3), (.mn, 3), (.cn, 1), (.mn, 1), (.cn, 1), (.mc, 8), (.cn, 6), (.nd, 10),
   (.cn, 2), (.mc, 2), (.po, 1), (.cn, 12), (.lo, 48), (.mn, 1), (.lo, 2), (.mn, 7), (.cn, 4),
   (.sc, 1), (.lo, 6), (.lm, 1), (.mn, 8), (.po, 1), (.nd, 10), (.po, 2), (.cn, 37), (.lo, 2),
   (.cn, 1), (.lo, 1), (.cn, 1), (.lo, 5), (.cn, 1), (.lo, 24), (.cn, 1), (.lo, 1), (.cn, 1),
   (.lo, 10), (.mn, 1), (.lo, 2), (.mn, 9), (.lo, 1), (.cn, 2), (.lo, 5), (.cn, 1), (.lm, 1),
   (.cn, 1), (.mn, 7), (.cn, 1), (.nd, 10), (.cn, 2), (.lo, 4), (.cn, 32), (.lo, 1), (.so, 3),
   (.po, 15), (.so, 1), (.po, 1), (.so, 3), (.mn, 2), (.so, 6), (.nd, 10), (.no, 10), (.so, 1),
   (.mn, 1), (.so, 1), (.mn, 1), (.so, 1), (.mn, 1), (.ps, 1), (.pe, 1), (.ps, 1), (.pe, 1),
   (.mc, 2), (.lo, 8), (.cn, 1), (.lo, 36), (.cn, 4), (.mn, 14), (.mc, 1), (.mn, 5), (.po, 1),
   (.mn, 2), (.lo, 5), (.mn, 11), (.cn, 1), (.mn, 36), (.cn, 1), (.so, 8), (.mn, 1), (.so, 6),
   (.cn, 1), (.so, 2), (.po, 5), (.so, 4), (.po, 2), (.cn, 37), (.lo, 43), (.mc, 2), (.mn, 4),
   (.mc, 1), (.mn, 6), (.mc, 1), (.mn, 2), (.mc, 2), (.mn, 2), (.lo, 1), (.nd, 10), (.po, 6),
   (.lo, 6), (.mc, 2), (.mn, 2), (.lo, 4), (.mn, 3), (.lo, 1), (.mc, 3), (.lo, 2), (.mc, 7),
   (.lo, 3), (.mn, 4), (.lo, 13), (.mn, 1), (.mc, 2), (.mn, 2), (.mc, 6), (.mn, 1), (.lo, 1),
   (.mc, 1), (.nd, 10), (.mc, 3), (.mn, 1), (.so, 2), (.lu, 38), (.cn, 1), (.lu, 1), (.cn, 5),
   (.lu, 1), (.cn, 2), (.ll, 43), (.po, 1), (.lm, 1), (.ll, 3), (.lo, 329), (.cn, 1), (.lo, 4),
   (.cn, 2), (.lo, 7), (.cn, 1), (.lo, 1), (.cn, 1), (.lo, 4), (.cn, 2), (.lo, 41), (.cn, 1),
   (.lo, 4), (.cn, 2), (.lo, 33), (.cn, 1), (.lo, 4), (.cn, 2), (.lo, 7), (.cn, 1), (.lo, 1),
   (.cn, 1), (.lo, 4), (.cn, 2), (.lo, 15), (.cn, 1), (.lo, 57), (.cn, 1), (.lo, 4), (.cn, 2),
   (.lo, 67), (.cn, 2), (.mn, 3), (.po, 9), (.no, 20), (.cn, 3), (.lo, 16), (.so, 10), (.cn, 6),
   (.lu, 86), (.cn, 2), (.ll, 6), (.cn, 2), (.pd, 1), (.lo, 620), (.so, 1), (.po, 1), (.lo, 17),
   (.zs, 1), (.lo, 26), (.ps, 1), (.pe, 1), (.cn, 3), (.lo, 75), (.po, 3), (.nl, 3), (.lo, 8),
   (.cn, 7), (.lo, 18), (.mn, 3), (.mc, 1), (.cn, 9), (.lo, 19), (.mn, 2), (.mc, 1), (.po, 2),
   (.cn, 9), (.lo, 18), (.mn, 2), (.cn, 12), (.lo, 13), (.cn, 1), (.lo, 3), (.cn, 1), (.mn, 2),
   (.cn, 12), (.lo, 52), (.mn, 2), (.mc, 1), (.mn, 7), (.mc, 8), (.mn, 1), (.mc, 2), (.mn, 11),
   (.po, 3), (.lm, 1), (.po, 3), (.sc, 1), (.lo, 1), (.mn, 1), (.cn, 2), (.nd, 10), (.cn, 6),
   (.no, 10), (.cn, 6), (.po, 6), (.pd, 1), (.po, 4), (.mn, 3), (.cf, 1), (.mn, 1), (.nd, 10),
   (.cn, 6), (.lo, 35), (.lm, 1), (.lo, 53), (.cn, 7), (.lo, 5), (.mn, 2), (.lo, 34), (.mn, 1),
   (.lo, 1), (.cn, 5), (.lo, 70), (.cn, 10), (.lo, 31), (.cn, 1), (.mn, 3), (.mc, 4), (.mn, 2),
   (.mc, 3), (.cn, 4), (.mc, 2), (.mn, 1), (.mc, 6), (.mn, 3), (.cn, 4), (.so, 1), (.cn, 3),
   (.po, 2), (.nd, 10), (.lo, 30), (.cn, 2), (.lo, 5), (.cn, 11), (.lo, 44), (.cn, 4), (.lo, 26),
   (.cn, 6), (.nd, 10), (.no, 1), (.cn, 3), (.so, 34), (.lo, 23), (.mn, 2), (.mc, 2), (.mn, 1),
   (.cn, 2), (.po, 2), (.lo, 53), (.mc, 1), (.mn, 1), (.mc, 1)]

/-- The runs from U+1A58 to U+2071. -/
def runs1A58 : List (Category × Nat) :=
  [(.mn, 7), (.cn, 1), (.mn, 1), (.mc, 1), (.mn, 1), (.mc, 2), (.mn, 8), (.mc, 6), (.mn, 10),
   (.cn, 2), (.mn, 1), (.nd, 10), (.cn, 6), (.nd, 10), (.cn, 6), (.po, 7), (.lm, 1), (.po, 6),
   (.cn, 2), (.mn, 14), (.me, 1), (.mn, 16), (.cn, 49), (.mn, 4), (.mc, 1), (.lo, 47), (.mn, 1),
   (.mc, 1), (.mn, 5), (.mc, 1), (.mn, 1), (.mc, 5), (.mn, 1), (.mc, 2), (.lo, 8), (.cn, 1),
   (.po, 2), (.nd, 10), (.po, 7), (.so, 10), (.mn, 9), (.so, 9), (.po, 3), (.mn, 2), (.mc, 1),
   (.lo, 30), (.mc, 1), (.mn, 4), (.mc, 2), (.mn, 2), (.mc, 1), (.mn, 3), (.lo, 2), (.nd, 10),
   (.lo, 44), (.mn, 1), (.mc, 1), (.mn, 2), (.mc, 3), (.mn, 1), (.mc, 1), (.mn, 3), (.mc, 2),
   (.cn, 8), (.po, 4), (.lo, 36), (.mc, 8), (.mn, 8), (.mc, 2), (.mn, 2), (.cn, 3), (.po, 5),
   (.nd, 10), (.cn, 3), (.lo, 3), (.nd, 10), (.lo, 30), (.lm, 6), (.po, 2), (.ll, 9), (.lu, 1),
   (.ll, 1), (.cn, 5), (.lu, 43), (.cn, 2), (.lu, 3), (.po, 8), (.cn, 8), (.mn, 3), (.po, 1),
   (.mn, 13), (.mc, 1), (.mn, 7), (.lo, 4), (.mn, 1), (.lo, 6), (.mn, 1), (.lo, 2), (.mc, 1),
   (.mn, 2), (.lo, 1), (.cn, 5), (.ll, 44), (.lm, 63), (.ll, 13), (.lm, 1), (.ll, 34), (.lm, 37),
   (.mn, 64), (.lu, 1), (.ll, 1), (.lu, 1), (.ll, 1), (.lu, 1), (.ll, 1), (.lu, 1), (.ll, 1),
   (.lu, 1), (.ll, 1), (.lu, 1), (.ll, 1), (.lu, 1), (.ll, 1), (.lu, 1), (.ll, 1), (.lu, 1),
   (.ll, 1), (.lu, 1), (.ll, 1), (.lu, 1), (.ll, 1), (.lu, 1), (.ll, 1), (.lu, 1), (.ll, 1),
   (.lu, 1), (.ll, 1), (.lu, 1), (.ll, 1), (.lu, 1), (.ll, 1), (.lu, 1), (.ll, 1), (.lu, 1),
   (.ll, 1), (.lu, 1), (.ll, 1), (.lu, 1), (.ll, 1), (.lu, 1), (.ll, 1), (.lu, 1), (.ll, 1),
   (.lu, 1), (.ll, 1), (.lu, 1), (.ll, 1), (.lu, 1), (.ll, 1), (.lu, 1), (.ll, 1), (.lu, 1),
   (.ll, 1), (.lu, 1), (.ll, 1), (.lu, 1), (.ll, 1), (.lu, 1), (.ll, 1), (.lu, 1), (.ll, 1),
   (.lu, 1), (.ll, 1), (.lu, 1), (.ll, 1), (.lu, 1), (.ll, 1), (.lu, 1), (.ll, 1), (.lu, 1),
   (.ll, 1), (.lu, 1), (.ll, 1), (.lu, 1), (.ll, 1), (.lu, 1), (.ll, 1), (.lu, 1), (.ll, 1),
   (.lu, 1), (.ll, 1), (.lu, 1), (.ll, 1), (.lu, 1), (.ll, 1), (.lu, 1), (.ll, 1), (.lu, 1),
   (.ll, 1), (.lu, 1), (.ll, 1), (.lu, 1), (.ll, 1), (.lu, 1), (.ll, 1), (.lu, 1), (.ll, 1),
   (.lu, 1), (.ll, 1), (.lu, 1), (.ll, 1), (.lu, 1), (.ll, 1), (.lu, 1), (.ll, 1), (.lu, 1),
   (.ll, 1), (.lu, 1), (.ll, 1), (.lu, 1), (.ll, 1), (.lu, 1), (.ll, 1), (.lu, 1), (.ll, 1),
   (.lu, 1), (.ll, 1), (.lu, 1), (.ll, 1), (.lu, 1), (.ll, 1), (.lu, 1), (.ll, 1), (.lu, 1),
   (.ll, 1), (.lu, 1), (.ll, 1), (.lu, 1), (.ll, 1), (.lu, 1), (.ll, 1), (.lu, 1), (.ll, 1),
   (.lu, 1), (.ll, 1), (.lu, 1), (.ll, 1), (.lu, 1), (.ll, 1), (.lu, 1), (.ll, 1), (.lu, 1),
   (.ll, 1), (.lu, 1), (.ll, 1), (.lu, 1), (.ll, 1), (.lu, 1), (.ll, 9), (.lu, 1), (.ll, 1),
   (.lu, 1), (.ll, 1), (.lu, 1), (.ll, 1), (.lu, 1), (.ll, 1), (.lu, 1), (.ll, 1), (.lu, 1),
   (.ll, 1), (.lu, 1), (.ll, 1), (.lu, 1), (.ll, 1), (.lu, 1), (.ll, 1), (.lu, 1), (.ll, 1),
   (.lu, 1), (.ll, 1), (.lu, 1), (.ll, 1), (.lu, 1), (.ll, 1), (.lu, 1), (.ll, 1), (.lu, 1),
   (.ll, 1), (.lu, 1), (.ll, 1), (.lu, 1), (.ll, 1), (.lu, 1), (.ll, 1), (.lu, 1), (.ll, 1),
   (.lu, 1), (.ll, 1), (.lu, 1), (.ll, 1), (.lu, 1), (.ll, 1), (.lu, 1), (.ll, 1), (.lu, 1),
   (.ll, 1), (.lu, 1), (.ll, 1), (.lu, 1), (.ll, 1), (.lu, 1), (.ll, 1), (.lu, 1), (.ll, 1),
   (.lu, 1), (.ll, 1), (.lu, 1), (.ll, 1), (.lu, 1), (.ll, 1), (.lu, 1), (.ll, 1), (.lu, 1),
   (.ll, 1), (.lu, 1), (.ll, 1), (.lu, 1), (.ll, 1), (.lu, 1), (.ll, 1), (.lu, 1), (.ll, 1),
   (.lu, 1), (.ll, 1), (.lu, 1), (.ll, 1), (.lu, 1), (.ll, 1), (.lu, 1), (.ll, 1), (.lu, 1),
   (.ll, 1), (.lu, 1), (.ll, 1), (.lu, 1), (.ll, 1), (.lu, 1), (.ll, 1), (.lu, 1), (.ll, 1),
   (.lu, 1), (.ll, 1), (.lu, 1), (.ll, 1), (.lu, 1), (.ll, 9), (.lu, 8), (.ll, 6), (.cn, 2),
   (.lu, 6), (.cn, 2), (.ll, 8), (.lu, 8), (.ll, 8), (.lu, 8), (.ll, 6), (.cn, 2), (.lu, 6),
   (.cn, 2), (.ll, 8), (.cn, 1), (.lu, 1), (.cn, 1), (.lu, 1), (.cn, 1), (.lu, 1), (.cn, 1),
   (.lu, 1), (.ll, 8), (.lu, 8), (.ll, 14), (.cn, 2), (.ll, 8), (.lt, 8), (.ll, 8), (.lt, 8),
   (.ll, 8), (.lt, 8), (.ll, 5), (.cn, 1), (.ll, 2), (.lu, 4), (.lt, 1), (.sk, 1), (.ll, 1),
   (.sk, 3), (.ll, 3), (.cn, 1), (.ll, 2), (.lu, 4), (.lt, 1), (.sk, 3), (.ll, 4), (.cn, 2),
   (.ll, 2), (.lu, 4), (.cn, 1), (.sk, 3), (.ll, 8), (.lu, 5), (.sk, 3), (.cn, 2), (.ll, 3),
   (.cn, 1), (.ll, 2), (.lu, 4), (.lt, 1), (.sk, 2), (.cn, 1), (.zs, 11), (.cf, 5), (.pd, 6),
   (.po, 2), (.pi, 1), (.pf, 1), (.ps, 1), (.pi, 2), (.pf, 1), (.ps, 1), (.pi, 1), (.po, 8),
   (.zl, 1), (.zp, 1), (.cf, 5), (.zs, 1), (.po, 9), (.pi, 1), (.pf, 1), (.po, 4), (.pc, 2),
   (.po, 3), (.sm, 1), (.ps, 1), (.pe, 1), (.po, 11), (.sm, 1), (.po, 1), (.pc, 1), (.po, 10),
   (.zs, 1), (.cf, 5), (.cn, 1), (.cf, 10), (.no, 1), (.lm, 1)]

/-- The runs from U+2072 to U+309A. -/
def runs2072 : List (Category × Nat) :=
  [(.cn, 2), (.no, 6), (.sm, 3), (.ps, 1), (.pe, 1), (.lm, 1), (.no, 10), (.sm, 3), (.ps, 1),
   (.pe, 1), (.cn, 1), (.lm, 13), (.cn, 3), (.sc, 33), (.cn, 15), (.mn, 13), (.me, 4), (.mn, 1),
   (.me, 3), (.mn, 12), (.cn, 15), (.so, 2), (.lu, 1), (.so, 4), (.lu, 1), (.so, 2), (.ll, 1),
   (.lu, 3), (.ll, 2), (.lu, 3), (.ll, 1), (.so, 1), (.lu, 1), (.so, 2), (.sm, 1), (.lu, 5),
   (.so, 6), (.lu, 1), (.so, 1), (.lu, 1), (.so, 1), (.lu, 1), (.so, 1), (.lu, 4), (.so, 1),
   (.ll, 1), (.lu, 4), (.ll, 1), (.lo, 4), (.ll, 1), (.so, 2), (.ll, 2), (.lu, 2), (.sm, 5),
   (.lu, 1), (.ll, 4), (.so, 1), (.sm, 1), (.so, 2), (.ll, 1), (.so, 1), (.no, 16), (.nl, 35),
   (.lu, 1), (.ll, 1), (.nl, 4), (.no, 1), (.so, 2), (.cn, 4), (.sm, 5), (.so, 5), (.sm, 2),
   (.so, 4), (.sm, 1), (.so, 2), (.sm, 1), (.so, 2), (.sm, 1), (.so, 7), (.sm, 1), (.so, 31),
   (.sm, 2), (.so, 2), (.sm, 1), (.so, 1), (.sm, 1), (.so, 31), (.sm, 268), (.so, 8), (.ps, 1),
   (.pe, 1), (.ps, 1), (.pe, 1), (.so, 20), (.sm, 2), (.so, 7), (.ps, 1), (.pe, 1), (.so, 81),
   (.sm, 1), (.so, 30), (.sm, 25), (.so, 40), (.sm, 6), (.so, 72), (.cn, 22), (.so, 11), (.cn, 21),
   (.no, 60), (.so, 78), (.no, 22), (.so, 183), (.sm, 1), (.so, 9), (.sm, 1), (.so, 54), (.sm, 8),
   (.so, 111), (.sm, 1), (.so, 248), (.ps, 1), (.pe, 1), (.ps, 1), (.pe, 1), (.ps, 1), (.pe, 1),
   (.ps, 1), (.pe, 1), (.ps, 1), (.pe, 1), (.ps, 1), (.pe, 1), (.ps, 1), (.pe, 1), (.no, 30),
   (.so, 44), (.sm, 5), (.ps, 1), (.pe, 1), (.sm, 31), (.ps, 1), (.pe, 1), (.ps, 1), (.pe, 1),
   (.ps, 1), (.pe, 1), (.ps, 1), (.pe, 1), (.ps, 1), (.pe, 1), (.sm, 16), (.so, 256), (.sm, 131),
   (.ps, 1), (.pe, 1), (.ps, 1), (.pe, 1), (.ps, 1), (.pe, 1), (.ps, 1), (.pe, 1), (.ps, 1),
   (.pe, 1), (.ps, 1), (.pe, 1), (.ps, 1), (.pe, 1), (.ps, 1), (.pe, 1), (.ps, 1), (.pe, 1),
   (.ps, 1), (.pe, 1), (.ps, 1), (.pe, 1), (.sm, 63), (.ps, 1), (.pe, 1), (.ps, 1), (.pe, 1),
   (.sm, 32), (.ps, 1), (.pe, 1), (.sm, 258), (.so, 48), (.sm, 21), (.so, 2), (.sm, 6), (.so, 39),
   (.cn, 2), (.so, 32), (.cn, 1), (.so, 105), (.lu, 48), (.ll, 48), (.lu, 1), (.ll, 1), (.lu, 3),
   (.ll, 2), (.lu, 1), (.ll, 1), (.lu, 1), (.ll, 1), (.lu, 1), (.ll, 1), (.lu, 4), (.ll, 1),
   (.lu, 1), (.ll, 2), (.lu, 1), (.ll, 6), (.lm, 2), (.lu, 3), (.ll, 1), (.lu, 1), (.ll, 1),
   (.lu, 1), (.ll, 1), (.lu, 1), (.ll, 1), (.lu, 1), (.ll, 1), (.lu, 1), (.ll, 1), (.lu, 1),
   (.ll, 1), (.lu, 1), (.ll, 1), (.lu, 1), (.ll, 1), (.lu, 1), (.ll, 1), (.lu, 1), (.ll, 1),
   (.lu, 1), (.ll, 1), (.lu, 1), (.ll, 1), (.lu, 1), (.ll, 1), (.lu, 1), (.ll, 1), (.lu, 1),
   (.ll, 1), (.lu, 1), (.ll, 1), (.lu, 1), (.ll, 1), (.lu, 1), (.ll, 1), (.lu, 1), (.ll, 1),
   (.lu, 1), (.ll, 1), (.lu, 1), (.ll, 1), (.lu, 1), (.ll, 1), (.lu, 1), (.ll, 1), (.lu, 1),
   (.ll, 1), (.lu, 1), (.ll, 1), (.lu, 1), (.ll, 1), (.lu, 1), (.ll, 1), (.lu, 1), (.ll, 1),
   (.lu, 1), (.ll, 1), (.lu, 1), (.ll, 1), (.lu, 1), (.ll, 1), (.lu, 1), (.ll, 1), (.lu, 1),
   (.ll, 1), (.lu, 1), (.ll, 1), (.lu, 1), (.ll, 1), (.lu, 1), (.ll, 1), (.lu, 1), (.ll, 1),
   (.lu, 1), (.ll, 1), (.lu, 1), (.ll, 1), (.lu, 1), (.ll, 1), (.lu, 1), (.ll, 1), (.lu, 1),
   (.ll, 1), (.lu, 1), (.ll, 1), (.lu, 1), (.ll, 1), (.lu, 1), (.ll, 1), (.lu, 1), (.ll, 1),
   (.lu, 1), (.ll, 1), (.lu, 1), (.ll, 1), (.lu, 1), (.ll, 2), (.so, 6), (.lu, 1), (.ll, 1),
   (.lu, 1), (.ll, 1), (.mn, 3), (.lu, 1), (.ll, 1), (.cn, 5), (.po, 4), (.no, 1), (.po, 2),
   (.ll, 38), (.cn, 1), (.ll, 1), (.cn, 5), (.ll, 1), (.cn, 2), (.lo, 56), (.cn, 7), (.lm, 1),
   (.po, 1), (.cn, 14), (.mn, 1), (.lo, 23), (.cn, 9), (.lo, 7), (.cn, 1), (.lo, 7), (.cn, 1),
   (.lo, 7), (.cn, 1), (.lo, 7), (.cn, 1), (.lo, 7), (.cn, 1), (.lo, 7), (.cn, 1), (.lo, 7),
   (.cn, 1), (.lo, 7), (.cn, 1), (.mn, 32), (.po, 2), (.pi, 1), (.pf, 1), (.pi, 1), (.pf, 1),
   (.po, 3), (.pi, 1), (.pf, 1), (.po, 1), (.pi, 1), (.pf, 1), (.po, 9), (.pd, 1), (.po, 2),
   (.pd, 1), (.po, 1), (.pi, 1), (.pf, 1), (.po, 2), (.pi, 1), (.pf, 1), (.ps, 1), (.pe, 1),
   (.ps, 1), (.pe, 1), (.ps, 1), (.pe, 1), (.ps, 1), (.pe, 1), (.po, 5), (.lm, 1), (.po, 10),
   (.pd, 2), (.po, 4), (.pd, 1), (.po, 1), (.ps, 1), (.po, 13), (.so, 2), (.po, 3), (.ps, 1),
   (.pe, 1), (.ps, 1), (.pe, 1), (.ps, 1), (.pe, 1), (.ps, 1), (.pe, 1), (.pd, 1), (.cn, 34),
   (.so, 26), (.cn, 1), (.so, 89), (.cn, 12), (.so, 214), (.cn, 26), (.so, 16), (.zs, 1), (.po, 3),
   (.so, 1), (.lm, 1), (.lo, 1), (.nl, 1), (.ps, 1), (.pe, 1), (.ps, 1), (.pe, 1), (.ps, 1),
   (.pe, 1), (.ps, 1), (.pe, 1), (.ps, 1), (.pe, 1), (.so, 2), (.ps, 1), (.pe, 1), (.ps, 1),
   (.pe, 1), (.ps, 1), (.pe, 1), (.ps, 1), (.pe, 1), (.pd, 1), (.ps, 1), (.pe, 2), (.so, 1),
   (.nl, 9), (.mn, 4), (.mc, 2), (.pd, 1), (.lm, 5), (.so, 2), (.nl, 3), (.lm, 1), (.lo, 1),
   (.po, 1), (.so, 2), (.cn, 1), (.lo, 86), (.cn, 2), (.mn, 2)]

/-- The runs from U+309B to U+ABEF. -/
def runs309B : List (Category × Nat) :=
  [(.sk, 2), (.lm, 2), (.lo, 1), (.pd, 1), (.lo, 90), (.po, 1), (.lm, 3), (.lo, 1), (.cn, 5),
   (.lo, 43), (.cn, 1), (.lo, 94), (.cn, 1), (.so, 2), (.no, 4), (.so, 10), (.lo, 32), (.so, 38),
   (.cn, 9), (.so, 1), (.lo, 16), (.so, 31), (.cn, 1), (.no, 10), (.so, 30), (.no, 8), (.so, 1),
   (.no, 15), (.so, 32), (.no, 10), (.so, 39), (.no, 15), (.so, 320), (.lo, 6592), (.so, 64),
   (.lo, 21013), (.lm, 1), (.lo, 1143), (.cn, 3), (.so, 55), (.cn, 9), (.lo, 40), (.lm, 6),
   (.po, 2), (.lo, 268), (.lm, 1), (.po, 3), (.lo, 16), (.nd, 10), (.lo, 2), (.cn, 20), (.lu, 1),
   (.ll, 1), (.lu, 1), (.ll, 1), (.lu, 1), (.ll, 1), (.lu, 1), (.ll, 1), (.lu, 1), (.ll, 1),
   (.lu, 1), (.ll, 1), (.lu, 1), (.ll, 1), (.lu, 1), (.ll, 1), (.lu, 1), (.ll, 1), (.lu, 1),
   (.ll, 1), (.lu, 1), (.ll, 1), (.lu, 1), (.ll, 1), (.lu, 1), (.ll, 1), (.lu, 1), (.ll, 1),
   (.lu, 1), (.ll, 1), (.lu, 1), (.ll, 1), (.lu, 1), (.ll, 1), (.lu, 1), (.ll, 1), (.lu, 1),
   (.ll, 1), (.lu, 1), (.ll, 1), (.lu, 1), (.ll, 1), (.lu, 1), (.ll, 1), (.lu, 1), (.ll, 1),
   (.lo, 1), (.mn, 1), (.me, 3), (.po, 1), (.mn, 10), (.po, 1), (.lm, 1), (.lu, 1), (.ll, 1),
   (.lu, 1), (.ll, 1), (.lu, 1), (.ll, 1), (.lu, 1), (.ll, 1), (.lu, 1), (.ll, 1), (.lu, 1),
   (.ll, 1), (.lu, 1), (.ll, 1), (.lu, 1), (.ll, 1), (.lu, 1), (.ll, 1), (.lu, 1), (.ll, 1),
   (.lu, 1), (.ll, 1), (.lu, 1), (.ll, 1), (.lu, 1), (.ll, 1), (.lu, 1), (.ll, 1), (.lm, 2),
   (.mn, 2), (.lo, 70), (.nl, 10), (.mn, 2), (.po, 6), (.cn, 8), (.sk, 23), (.lm, 9), (.sk, 2),
   (.lu, 1), (.ll, 1), (.lu, 1), (.ll, 1), (.lu, 1), (.ll, 1), (.lu, 1), (.ll, 1), (.lu, 1),
   (.ll, 1), (.lu, 1), (.ll, 1), (.lu, 1), (.ll, 3), (.lu, 1), (.ll, 1), (.lu, 1), (.ll, 1),
   (.lu, 1), (.ll, 1), (.lu, 1), (.ll, 1), (.lu, 1), (.ll, 1), (.lu, 1), (.ll, 1), (.lu, 1),
   (.ll, 1), (.lu, 1), (.ll, 1), (.lu, 1), (.ll, 1), (.lu, 1), (.ll, 1), (.lu, 1), (.ll, 1),
   (.lu, 1), (.ll, 1), (.lu, 1), (.ll, 1), (.lu, 1), (.ll, 1), (.lu, 1), (.ll, 1), (.lu, 1),
   (.ll, 1), (.lu, 1), (.ll, 1), (.lu, 1), (.ll, 1), (.lu, 1), (.ll, 1), (.lu, 1), (.ll, 1),
   (.lu, 1), (.ll, 1), (.lu, 1), (.ll, 1), (.lu, 1), (.ll, 1), (.lu, 1), (.ll, 1), (.lu, 1),
   (.ll, 1), (.lu, 1), (.ll, 1), (.lu, 1), (.ll, 1), (.lu, 1), (.ll, 1), (.lu, 1), (.ll, 1),
   (.lu, 1), (.ll, 1), (.lu, 1), (.ll, 1), (.lm, 1), (.ll, 8), (.lu, 1), (.ll, 1), (.lu, 1),
   (.ll, 1), (.lu, 2), (.ll, 1), (.lu, 1), (.ll, 1), (.lu, 1), (.ll, 1), (.lu, 1), (.ll, 1),
   (.lu, 1), (.ll, 1), (.lm, 1), (.sk, 2), (.lu, 1), (.ll, 1), (.lu, 1), (.ll, 1), (.lo, 1),
   (.lu, 1), (.ll, 1), (.lu, 1), (.ll, 3), (.lu, 1), (.ll, 1), (.lu, 1), (.ll, 1), (.lu, 1),
   (.ll, 1), (.lu, 1), (.ll, 1), (.lu, 1), (.ll, 1), (.lu, 1), (.ll, 1), (.lu, 1), (.ll, 1),
   (.lu, 1), (.ll, 1), (.lu, 1), (.ll, 1), (.lu, 1), (.ll, 1), (.lu, 5), (.ll, 1), (.lu, 5),
   (.ll, 1), (.lu, 1), (.ll, 1), (.lu, 1), (.ll, 1), (.lu, 1), (.ll, 1), (.lu, 1), (.ll, 1),
   (.lu, 1), (.ll, 1), (.lu, 1), (.ll, 1), (.lu, 1), (.ll, 1), (.lu, 4), (.ll, 1), (.lu, 1),
   (.ll, 1), (.lu, 2), (.ll, 1), (.cn, 2), (.lu, 1), (.ll, 1), (.cn, 1), (.ll, 1), (.cn, 1),
   (.ll, 1), (.lu, 1), (.ll, 1), (.lu, 1), (.ll, 1), (.lu, 1), (.ll, 1), (.lu, 1), (.cn, 21),
   (.lm, 3), (.lu, 1), (.ll, 1), (.lo, 1), (.lm, 2), (.ll, 1), (.lo, 7), (.mn, 1), (.lo, 3),
   (.mn, 1), (.lo, 4), (.mn, 1), (.lo, 23), (.mc, 2), (.mn, 2), (.mc, 1), (.so, 4), (.mn, 1),
   (.cn, 3), (.no, 6), (.so, 2), (.sc, 1), (.so, 1), (.cn, 6), (.lo, 52), (.po, 4), (.cn, 8),
   (.mc, 2), (.lo, 50), (.mc, 16), (.mn, 2), (.cn, 8), (.po, 2), (.nd, 10), (.cn, 6), (.mn, 18),
   (.lo, 6), (.po, 3), (.lo, 1), (.po, 1), (.lo, 2), (.mn, 1), (.nd, 10), (.lo, 28), (.mn, 8),
   (.po, 2), (.lo, 23), (.mn, 11), (.mc, 2), (.cn, 11), (.po, 1), (.lo, 29), (.cn, 3), (.mn, 3),
   (.mc, 1), (.lo, 47), (.mn, 1), (.mc, 2), (.mn, 4), (.mc, 2), (.mn, 2), (.mc, 3), (.po, 13),
   (.cn, 1), (.lm, 1), (.nd, 10), (.cn, 4), (.po, 2), (.lo, 5), (.mn, 1), (.lm, 1), (.lo, 9),
   (.nd, 10), (.lo, 5), (.cn, 1), (.lo, 41), (.mn, 6), (.mc, 2), (.mn, 2), (.mc, 2), (.mn, 2),
   (.cn, 9), (.lo, 3), (.mn, 1), (.lo, 8), (.mn, 1), (.mc, 1), (.cn, 2), (.nd, 10), (.cn, 2),
   (.po, 4), (.lo, 16), (.lm, 1), (.lo, 6), (.so, 3), (.lo, 1), (.mc, 1), (.mn, 1), (.mc, 1),
   (.lo, 50), (.mn, 1), (.lo, 1), (.mn, 3), (.lo, 2), (.mn, 2), (.lo, 5), (.mn, 2), (.lo, 1),
   (.mn, 1), (.lo, 1), (.cn, 24), (.lo, 2), (.lm, 1), (.po, 2), (.lo, 11), (.mc, 1), (.mn, 2),
   (.mc, 2), (.po, 2), (.lo, 1), (.lm, 2), (.mc, 1), (.mn, 1), (.cn, 10), (.lo, 6), (.cn, 2),
   (.lo, 6), (.cn, 2), (.lo, 6), (.cn, 9), (.lo, 7), (.cn, 1), (.lo, 7), (.cn, 1), (.ll, 43),
   (.sk, 1), (.lm, 4), (.ll, 9), (.lm, 1), (.sk, 2), (.cn, 4), (.ll, 80), (.lo, 35), (.mc, 2),
   (.mn, 1), (.mc, 2), (.mn, 1), (.mc, 2), (.po, 1), (.mc, 1), (.mn, 1), (.cn, 2)]

/-- The runs from U+ABF0 to U+11172. -/
def runsABF0 : List (Category × Nat) :=
  [(.nd, 10), (.cn, 6), (.lo, 11172), (.cn, 12), (.lo, 23), (.cn, 4), (.lo, 49), (.cn, 4),
   (.cs, 2048), (.co, 6400), (.lo, 366), (.cn, 2), (.lo, 106), (.cn, 38), (.ll, 7), (.cn, 12),
   (.ll, 5), (.cn, 5), (.lo, 1), (.mn, 1), (.lo, 10), (.sm, 1), (.lo, 13), (.cn, 1), (.lo, 5),
   (.cn, 1), (.lo, 1), (.cn, 1), (.lo, 2), (.cn, 1), (.lo, 2), (.cn, 1), (.lo, 108), (.sk, 17),
   (.cn, 16), (.lo, 363), (.pe, 1), (.ps, 1), (.so, 16), (.lo, 64), (.cn, 2), (.lo, 54), (.cn, 7),
   (.so, 1), (.cn, 32), (.lo, 12), (.sc, 1), (.so, 3), (.mn, 16), (.po, 7), (.ps, 1), (.pe, 1),
   (.po, 1), (.cn, 6), (.mn, 16), (.po, 1), (.pd, 2), (.pc, 2), (.ps, 1), (.pe, 1), (.ps, 1),
   (.pe, 1), (.ps, 1), (.pe, 1), (.ps, 1), (.pe, 1), (.ps, 1), (.pe, 1), (.ps, 1), (.pe, 1),
   (.ps, 1), (.pe, 1), (.ps, 1), (.pe, 1), (.po, 2), (.ps, 1), (.pe, 1), (.po, 4), (.pc, 3),
   (.po, 3), (.cn, 1), (.po, 4), (.pd, 1), (.ps, 1), (.pe, 1), (.ps, 1), (.pe, 1), (.ps, 1),
   (.pe, 1), (.po, 3), (.sm, 1), (.pd, 1), (.sm, 3), (.cn, 1), (.po, 1), (.sc, 1), (.po, 2),
   (.cn, 4), (.lo, 5), (.cn, 1), (.lo, 135), (.cn, 2), (.cf, 1), (.cn, 1), (.po, 3), (.sc, 1),
   (.po, 3), (.ps, 1), (.pe, 1), (.po, 1), (.sm, 1), (.po, 1), (.pd, 1), (.po, 2), (.nd, 10),
   (.po, 2), (.sm, 3), (.po, 2), (.lu, 26), (.ps, 1), (.po, 1), (.pe, 1), (.sk, 1), (.pc, 1),
   (.sk, 1), (.ll, 26), (.ps, 1), (.sm, 1), (.pe, 1), (.sm, 1), (.ps, 1), (.pe, 1), (.po, 1),
   (.ps, 1), (.pe, 1), (.po, 2), (.lo, 10), (.lm, 1), (.lo, 45), (.lm, 2), (.lo, 31), (.cn, 3),
   (.lo, 6), (.cn, 2), (.lo, 6), (.cn, 2), (.lo, 6), (.cn, 2), (.lo, 3), (.cn, 3), (.sc, 2),
   (.sm, 1), (.sk, 1), (.so, 1), (.sc, 2), (.cn, 1), (.so, 1), (.sm, 4), (.so, 2), (.cn, 10),
   (.cf, 3), (.so, 2), (.cn, 2), (.lo, 12), (.cn, 1), (.lo, 26), (.cn, 1), (.lo, 19), (.cn, 1),
   (.lo, 2), (.cn, 1), (.lo, 15), (.cn, 2), (.lo, 14), (.cn, 34), (.lo, 123), (.cn, 5), (.po, 3),
   (.cn, 4), (.no, 45), (.cn, 3), (.so, 9), (.nl, 53), (.no, 4), (.so, 17), (.no, 2), (.so, 3),
   (.cn, 1), (.so, 13), (.cn, 3), (.so, 1), (.cn, 47), (.so, 45), (.mn, 1), (.cn, 130), (.lo, 29),
   (.cn, 3), (.lo, 49), (.cn, 15), (.mn, 1), (.no, 27), (.cn, 4), (.lo, 32), (.no, 4), (.cn, 9),
   (.lo, 20), (.nl, 1), (.lo, 8), (.nl, 1), (.cn, 5), (.lo, 38), (.mn, 5), (.cn, 5), (.lo, 30),
   (.cn, 1), (.po, 1), (.lo, 36), (.cn, 4), (.lo, 8), (.po, 1), (.nl, 5), (.cn, 42), (.lu, 40),
   (.ll, 40), (.lo, 78), (.cn, 2), (.nd, 10), (.cn, 6), (.lu, 36), (.cn, 4), (.ll, 36), (.cn, 4),
   (.lo, 40), (.cn, 8), (.lo, 52), (.cn, 11), (.po, 1), (.lu, 11), (.cn, 1), (.lu, 15), (.cn, 1),
   (.lu, 7), (.cn, 1), (.lu, 2), (.cn, 1), (.ll, 11), (.cn, 1), (.ll, 15), (.cn, 1), (.ll, 7),
   (.cn, 1), (.ll, 2), (.cn, 3), (.lo, 52), (.cn, 12), (.lo, 311), (.cn, 9), (.lo, 22), (.cn, 10),
   (.lo, 8), (.cn, 24), (.lm, 6), (.cn, 1), (.lm, 42), (.cn, 1), (.lm, 9), (.cn, 69), (.lo, 6),
   (.cn, 2), (.lo, 1), (.cn, 1), (.lo, 44), (.cn, 1), (.lo, 2), (.cn, 3), (.lo, 1), (.cn, 2),
   (.lo, 23), (.cn, 1), (.po, 1), (.no, 8), (.lo, 23), (.so, 2), (.no, 7), (.lo, 31), (.cn, 8),
   (.no, 9), (.cn, 48), (.lo, 19), (.cn, 1), (.lo, 2), (.cn, 5), (.no, 5), (.lo, 22), (.no, 6),
   (.cn, 3), (.po, 1), (.lo, 26), (.cn, 5), (.po, 1), (.cn, 64), (.lo, 56), (.cn, 4), (.no, 2),
   (.lo, 2), (.no, 16), (.cn, 2), (.no, 46), (.lo, 1), (.mn, 3), (.cn, 1), (.mn, 2), (.cn, 5),
   (.mn, 4), (.lo, 4), (.cn, 1), (.lo, 3), (.cn, 1), (.lo, 29), (.cn, 2), (.mn, 3), (.cn, 4),
   (.mn, 1), (.no, 9), (.cn, 7), (.po, 9), (.cn, 7), (.lo, 29), (.no, 2), (.po, 1), (.lo, 29),
   (.no, 3), (.cn, 32), (.lo, 8), (.so, 1), (.lo, 28), (.mn, 2), (.cn, 4), (.no, 5), (.po, 7),
   (.cn, 9), (.lo, 54), (.cn, 3), (.po, 7), (.lo, 22), (.cn, 2), (.no, 8), (.lo, 19), (.cn, 5),
   (.no, 8), (.lo, 18), (.cn, 7), (.po, 4), (.cn, 12), (.no, 7), (.cn, 80), (.lo, 73), (.cn, 55),
   (.lu, 51), (.cn, 13), (.ll, 51), (.cn, 7), (.no, 6), (.lo, 36), (.mn, 4), (.cn, 8), (.nd, 10),
   (.cn, 6), (.nd, 10), (.lo, 4), (.lm, 1), (.lo, 1), (.lu, 22), (.cn, 3), (.mn, 5), (.pd, 1),
   (.lm, 1), (.ll, 22), (.cn, 8), (.sm, 2), (.cn, 208), (.no, 31), (.cn, 1), (.lo, 42), (.cn, 1),
   (.mn, 2), (.pd, 1), (.cn, 2), (.lo, 2), (.cn, 16), (.lo, 3), (.cn, 55), (.mn, 4), (.lo, 29),
   (.no, 10), (.lo, 1), (.cn, 8), (.lo, 22), (.mn, 11), (.no, 4), (.po, 5), (.cn, 22), (.lo, 18),
   (.mn, 4), (.po, 4), (.cn, 38), (.lo, 21), (.no, 7), (.cn, 20), (.lo, 23), (.cn, 9), (.mc, 1),
   (.mn, 1), (.mc, 1), (.lo, 53), (.mn, 15), (.po, 7), (.cn, 4), (.no, 20), (.nd, 10), (.mn, 1),
   (.lo, 2), (.mn, 2), (.lo, 1), (.cn, 9), (.mn, 3), (.mc, 1), (.lo, 45), (.mc, 3), (.mn, 4),
   (.mc, 2), (.mn, 2), (.po, 2), (.cf, 1), (.po, 4), (.mn, 1), (.cn, 10), (.cf, 1), (.cn, 2),
   (.lo, 25), (.cn, 7), (.nd, 10), (.cn, 6), (.mn, 3), (.lo, 36), (.mn, 5), (.mc, 1), (.mn, 8),
   (.cn, 1), (.nd, 10), (.po, 4), (.lo, 1), (.mc, 2), (.lo, 1), (.cn, 8), (.lo, 35)]

/-- The runs from U+11173 to U+16F4E. -/
def runs11173 : List (Category × Nat) :=
  [(.mn, 1), (.po, 2), (.lo, 1), (.cn, 9), (.mn, 2), (.mc, 1), (.lo, 48), (.mc, 3), (.mn, 9),
   (.mc, 2), (.lo, 4), (.po, 4), (.mn, 4), (.po, 1), (.mc, 1), (.mn, 1), (.nd, 10), (.lo, 1),
   (.po, 1), (.lo, 1), (.po, 3), (.cn, 1), (.no, 20), (.cn, 11), (.lo, 18), (.cn, 1), (.lo, 25),
   (.mc, 3), (.mn, 3), (.mc, 2), (.mn, 1), (.mc, 1), (.mn, 2), (.po, 6), (.mn, 1), (.lo, 2),
   (.mn, 1), (.cn, 62), (.lo, 7), (.cn, 1), (.lo, 1), (.cn, 1), (.lo, 4), (.cn, 1), (.lo, 15),
   (.cn, 1), (.lo, 10), (.po, 1), (.cn, 6), (.lo, 47), (.mn, 1), (.mc, 3), (.mn, 8), (.cn, 5),
   (.nd, 10), (.cn, 6), (.mn, 2), (.mc, 2), (.cn, 1), (.lo, 8), (.cn, 2), (.lo, 2), (.cn, 2),
   (.lo, 22), (.cn, 1), (.lo, 7), (.cn, 1), (.lo, 2), (.cn, 1), (.lo, 5), (.cn, 1), (.mn, 2),
   (.lo, 1), (.mc, 2), (.mn, 1), (.mc, 4), (.cn, 2), (.mc, 2), (.cn, 2), (.mc, 3), (.cn, 2),
   (.lo, 1), (.cn, 6), (.mc, 1), (.cn, 5), (.lo, 5), (.mc, 2), (.cn, 2), (.mn, 7), (.cn, 3),
   (.mn, 5), (.cn, 11), (.lo, 10), (.cn, 1), (.lo, 1), (.cn, 2), (.lo, 1), (.cn, 1), (.lo, 38),
   (.cn, 1), (.lo, 1), (.mc, 3), (.mn, 6), (.cn, 1), (.mc, 1), (.cn, 2), (.mc, 1), (.cn, 1),
   (.mc, 4), (.cn, 1), (.mc, 2), (.mn, 1), (.mc, 1), (.mn, 1), (.lo, 1), (.mn, 1), (.lo, 1),
   (.po, 2), (.cn, 1), (.po, 2), (.cn, 8), (.mn, 2), (.cn, 29), (.lo, 53), (.mc, 3), (.mn, 8),
   (.mc, 2), (.mn, 3), (.mc, 1), (.mn, 1), (.lo, 4), (.po, 5), (.nd, 10), (.po, 2), (.cn, 1),
   (.po, 1), (.mn, 1), (.lo, 3), (.cn, 30), (.lo, 48), (.mc, 3), (.mn, 6), (.mc, 1), (.mn, 1),
   (.mc, 4), (.mn, 2), (.mc, 1), (.mn, 2), (.lo, 2), (.po, 1), (.lo, 1), (.cn, 8), (.nd, 10),
   (.cn, 166), (.lo, 47), (.mc, 3), (.mn, 4), (.cn, 2), (.mc, 4), (.mn, 2), (.mc, 1), (.mn, 2),
   (.po, 23), (.lo, 4), (.mn, 2), (.cn, 34), (.lo, 48), (.mc, 3), (.mn, 8), (.mc, 2), (.mn, 1),
   (.mc, 1), (.mn, 2), (.po, 3), (.lo, 1), (.cn, 11), (.nd, 10), (.cn, 6), (.po, 13), (.cn, 19),
   (.lo, 43), (.mn, 1), (.mc, 1), (.mn, 1), (.mc, 2), (.mn, 6), (.mc, 1), (.mn, 1), (.lo, 1),
   (.po, 1), (.cn, 6), (.nd, 10), (.cn, 6), (.nd, 20), (.cn, 28), (.lo, 27), (.cn, 2), (.mn, 1),
   (.mc, 1), (.mn, 1), (.mc, 2), (.mn, 4), (.mc, 1), (.mn, 5), (.cn, 4), (.nd, 10), (.no, 2),
   (.po, 3), (.so, 1), (.lo, 7), (.cn, 185), (.lo, 44), (.mc, 3), (.mn, 9), (.mc, 1), (.mn, 2),
   (.po, 1), (.cn, 100), (.lu, 32), (.ll, 32), (.nd, 10), (.no, 9), (.cn, 12), (.lo, 8), (.cn, 2),
   (.lo, 1), (.cn, 2), (.lo, 8), (.cn, 1), (.lo, 2), (.cn, 1), (.lo, 24), (.mc, 6), (.cn, 1),
   (.mc, 2), (.cn, 2), (.mn, 2), (.mc, 1), (.mn, 1), (.lo, 1), (.mc, 1), (.lo, 1), (.mc, 1),
   (.mn, 1), (.po, 3), (.cn, 9), (.nd, 10), (.cn, 70), (.lo, 8), (.cn, 2), (.lo, 39), (.mc, 3),
   (.mn, 4), (.cn, 2), (.mn, 2), (.mc, 4), (.mn, 1), (.lo, 1), (.po, 1), (.lo, 1), (.mc, 1),
   (.cn, 27), (.lo, 1), (.mn, 10), (.lo, 40), (.mn, 6), (.mc, 1), (.lo, 1), (.mn, 4), (.po, 8),
   (.mn, 1), (.cn, 8), (.lo, 1), (.mn, 6), (.mc, 2), (.mn, 3), (.lo, 46), (.mn, 13), (.mc, 1),
   (.mn, 2), (.po, 3), (.lo, 1), (.po, 5), (.cn, 13), (.lo, 73), (.cn, 7), (.po, 10), (.cn, 182),
   (.lo, 33), (.po, 1), (.cn, 14), (.nd, 10), (.cn, 6), (.lo, 9), (.cn, 1), (.lo, 37), (.mc, 1),
   (.mn, 7), (.cn, 1), (.mn, 6), (.mc, 1), (.mn, 1), (.lo, 1), (.po, 5), (.cn, 10), (.nd, 10),
   (.no, 19), (.cn, 3), (.po, 2), (.lo, 30), (.cn, 2), (.mn, 22), (.cn, 1), (.mc, 1), (.mn, 7),
   (.mc, 1), (.mn, 2), (.mc, 1), (.mn, 2), (.cn, 73), (.lo, 7), (.cn, 1), (.lo, 2), (.cn, 1),
   (.lo, 38), (.mn, 6), (.cn, 3), (.mn, 1), (.cn, 1), (.mn, 2), (.cn, 1), (.mn, 7), (.lo, 1),
   (.mn, 1), (.cn, 8), (.nd, 10), (.cn, 6), (.lo, 6), (.cn, 1), (.lo, 2), (.cn, 1), (.lo, 32),
   (.mc, 5), (.cn, 1), (.mn, 2), (.cn, 1), (.mc, 2), (.mn, 1), (.mc, 1), (.mn, 1), (.lo, 1),
   (.cn, 7), (.nd, 10), (.cn, 310), (.lo, 19), (.mn, 2), (.mc, 2), (.po, 2), (.cn, 7), (.mn, 2),
   (.lo, 1), (.mc, 1), (.lo, 13), (.cn, 1), (.lo, 34), (.mc, 2), (.mn, 5), (.cn, 3), (.mc, 2),
   (.mn, 1), (.mc, 1), (.mn, 1), (.po, 13), (.nd, 10), (.mn, 1), (.cn, 85), (.lo, 1), (.cn, 15),
   (.no, 21), (.so, 8), (.sc, 4), (.so, 17), (.cn, 13), (.po, 1), (.lo, 922), (.cn, 102),
   (.nl, 111), (.cn, 1), (.po, 5), (.cn, 11), (.lo, 196), (.cn, 2636), (.lo, 97), (.po, 2),
   (.cn, 13), (.lo, 1072), (.cf, 16), (.mn, 1), (.lo, 6), (.mn, 15), (.cn, 10), (.lo, 3995),
   (.cn, 5), (.lo, 583), (.cn, 6841), (.lo, 30), (.mn, 12), (.mc, 3), (.mn, 3), (.nd, 10),
   (.cn, 1734), (.lo, 569), (.cn, 7), (.lo, 31), (.cn, 1), (.nd, 10), (.cn, 4), (.po, 2), (.lo, 79),
   (.cn, 1), (.nd, 10), (.cn, 6), (.lo, 30), (.cn, 2), (.mn, 5), (.po, 1), (.cn, 10), (.lo, 48),
   (.mn, 7), (.po, 5), (.so, 4), (.lm, 4), (.po, 1), (.so, 1), (.cn, 10), (.nd, 10), (.cn, 1),
   (.no, 7), (.cn, 1), (.lo, 21), (.cn, 5), (.lo, 19), (.cn, 432), (.lm, 3), (.lo, 40), (.lm, 2),
   (.po, 3), (.nd, 10), (.cn, 198), (.lu, 32), (.ll, 32), (.no, 23), (.po, 4), (.cn, 101),
   (.lo, 75), (.cn, 4)]

/-- The runs from U+16F4F to U+10FFFF. -/
def runs16F4F : List (Category × Nat) :=
  [(.mn, 1), (.lo, 1), (.mc, 55), (.cn, 7), (.mn, 4), (.lm, 13), (.cn, 64), (.lm, 2), (.po, 1),
   (.lm, 1), (.mn, 1), (.cn, 11), (.mc, 2), (.cn, 14), (.lo, 6136), (.cn, 8), (.lo, 1238),
   (.cn, 41), (.lo, 10), (.cn, 8935), (.lm, 4), (.cn, 1), (.lm, 7), (.cn, 1), (.lm, 2), (.cn, 1),
   (.lo, 291), (.cn, 15), (.lo, 1), (.cn, 29), (.lo, 3), (.cn, 2), (.lo, 1), (.cn, 14), (.lo, 4),
   (.cn, 8), (.lo, 396), (.cn, 2308), (.lo, 107), (.cn, 5), (.lo, 13), (.cn, 3), (.lo, 9), (.cn, 7),
   (.lo, 10), (.cn, 2), (.so, 1), (.mn, 2), (.po, 1), (.cf, 4), (.cn, 3932), (.so, 240), (.nd, 10),
   (.cn, 6), (.so, 436), (.cn, 76), (.mn, 46), (.cn, 2), (.mn, 23), (.cn, 9), (.so, 116), (.cn, 60),
   (.so, 246), (.cn, 10), (.so, 39), (.cn, 2), (.so, 60), (.mc, 2), (.mn, 3), (.so, 3), (.mc, 6),
   (.cf, 8), (.mn, 8), (.so, 2), (.mn, 7), (.so, 30), (.mn, 4), (.so, 61), (.cn, 21), (.so, 66),
   (.mn, 3), (.so, 1), (.cn, 122), (.no, 20), (.cn, 12), (.no, 20), (.cn, 12), (.so, 87), (.cn, 9),
   (.no, 25), (.cn, 135), (.lu, 26), (.ll, 26), (.lu, 26), (.ll, 7), (.cn, 1), (.ll, 18), (.lu, 26),
   (.ll, 26), (.lu, 1), (.cn, 1), (.lu, 2), (.cn, 2), (.lu, 1), (.cn, 2), (.lu, 2), (.cn, 2),
   (.lu, 4), (.cn, 1), (.lu, 8), (.ll, 4), (.cn, 1), (.ll, 1), (.cn, 1), (.ll, 7), (.cn, 1),
   (.ll, 11), (.lu, 26), (.ll, 26), (.lu, 2), (.cn, 1), (.lu, 4), (.cn, 2), (.lu, 8), (.cn, 1),
   (.lu, 7), (.cn, 1), (.ll, 26), (.lu, 2), (.cn, 1), (.lu, 4), (.cn, 1), (.lu, 5), (.cn, 1),
   (.lu, 1), (.cn, 3), (.lu, 7), (.cn, 1), (.ll, 26), (.lu, 26), (.ll, 26), (.lu, 26), (.ll, 26),
   (.lu, 26), (.ll, 26), (.lu, 26), (.ll, 26), (.lu, 26), (.ll, 26), (.lu, 26), (.ll, 28), (.cn, 2),
   (.lu, 25), (.sm, 1), (.ll, 25), (.sm, 1), (.ll, 6), (.lu, 25), (.sm, 1), (.ll, 25), (.sm, 1),
   (.ll, 6), (.lu, 25), (.sm, 1), (.ll, 25), (.sm, 1), (.ll, 6), (.lu, 25), (.sm, 1), (.ll, 25),
   (.sm, 1), (.ll, 6), (.lu, 25), (.sm, 1), (.ll, 25), (.sm, 1), (.ll, 6), (.lu, 1), (.ll, 1),
   (.cn, 2), (.nd, 50), (.so, 512), (.mn, 55), (.so, 4), (.mn, 50), (.so, 8), (.mn, 1), (.so, 14),
   (.mn, 1), (.so, 2), (.po, 5), (.cn, 15), (.mn, 5), (.cn, 1), (.mn, 15), (.cn, 1104), (.ll, 10),
   (.lo, 1), (.ll, 20), (.cn, 6), (.ll, 6), (.cn, 213), (.mn, 7), (.cn, 1), (.mn, 17), (.cn, 2),
   (.mn, 7), (.cn, 1), (.mn, 2), (.cn, 1), (.mn, 5), (.cn, 5), (.lm, 62), (.cn, 33), (.mn, 1),
   (.cn, 112), (.lo, 45), (.cn, 3), (.mn, 7), (.lm, 7), (.cn, 2), (.nd, 10), (.cn, 4), (.lo, 1),
   (.so, 1), (.cn, 320), (.lo, 30), (.mn, 1), (.cn, 17), (.lo, 44), (.mn, 4), (.nd, 10), (.cn, 5),
   (.sc, 1), (.cn, 464), (.lo, 27), (.lm, 1), (.mn, 4), (.nd, 10), (.cn, 214), (.lo, 30), (.mn, 2),
   (.lo, 1), (.nd, 10), (.cn, 4), (.po, 1), (.cn, 480), (.lo, 7), (.cn, 1), (.lo, 4), (.cn, 1),
   (.lo, 2), (.cn, 1), (.lo, 15), (.cn, 1), (.lo, 197), (.cn, 2), (.no, 9), (.mn, 7), (.cn, 41),
   (.lu, 34), (.ll, 34), (.mn, 7), (.lm, 1), (.cn, 4), (.nd, 10), (.cn, 4), (.po, 2), (.cn, 785),
   (.no, 59), (.so, 1), (.no, 3), (.sc, 1), (.no, 4), (.cn, 76), (.no, 45), (.so, 1), (.no, 15),
   (.cn, 194), (.lo, 4), (.cn, 1), (.lo, 27), (.cn, 1), (.lo, 2), (.cn, 1), (.lo, 1), (.cn, 2),
   (.lo, 1), (.cn, 1), (.lo, 10), (.cn, 1), (.lo, 4), (.cn, 1), (.lo, 1), (.cn, 1), (.lo, 1),
   (.cn, 6), (.lo, 1), (.cn, 4), (.lo, 1), (.cn, 1), (.lo, 1), (.cn, 1), (.lo, 1), (.cn, 1),
   (.lo, 3), (.cn, 1), (.lo, 2), (.cn, 1), (.lo, 1), (.cn, 2), (.lo, 1), (.cn, 1), (.lo, 1),
   (.cn, 1), (.lo, 1), (.cn, 1), (.lo, 1), (.cn, 1), (.lo, 1), (.cn, 1), (.lo, 2), (.cn, 1),
   (.lo, 1), (.cn, 2), (.lo, 4), (.cn, 1), (.lo, 7), (.cn, 1), (.lo, 4), (.cn, 1), (.lo, 4),
   (.cn, 1), (.lo, 1), (.cn, 1), (.lo, 10), (.cn, 1), (.lo, 17), (.cn, 5), (.lo, 3), (.cn, 1),
   (.lo, 5), (.cn, 1), (.lo, 17), (.cn, 52), (.sm, 2), (.cn, 270), (.so, 44), (.cn, 4), (.so, 100),
   (.cn, 12), (.so, 15), (.cn, 2), (.so, 15), (.cn, 1), (.so, 15), (.cn, 1), (.so, 37), (.cn, 10),
   (.no, 13), (.so, 161), (.cn, 56), (.so, 29), (.cn, 13), (.so, 44), (.cn, 4), (.so, 9), (.cn, 7),
   (.so, 2), (.cn, 14), (.so, 6), (.cn, 154), (.so, 251), (.sk, 5), (.so, 728), (.cn, 4), (.so, 17),
   (.cn, 3), (.so, 13), (.cn, 3), (.so, 119), (.cn, 4), (.so, 95), (.cn, 6), (.so, 12), (.cn, 4),
   (.so, 1), (.cn, 15), (.so, 12), (.cn, 4), (.so, 56), (.cn, 8), (.so, 10), (.cn, 6), (.so, 40),
   (.cn, 8), (.so, 30), (.cn, 2), (.so, 12), (.cn, 4), (.so, 2), (.cn, 62), (.so, 340), (.cn, 12),
   (.so, 14), (.cn, 2), (.so, 13), (.cn, 3), (.so, 10), (.cn, 5), (.so, 56), (.cn, 7), (.so, 15),
   (.cn, 2), (.so, 11), (.cn, 6), (.so, 9), (.cn, 7), (.so, 147), (.cn, 1), (.so, 92), (.nd, 10),
   (.cn, 1030), (.lo, 42720), (.cn, 32), (.lo, 4154), (.cn, 6), (.lo, 222), (.cn, 2), (.lo, 5762),
   (.cn, 14), (.lo, 7473), (.cn, 15), (.lo, 622), (.cn, 2466), (.lo, 542), (.cn, 1506), (.lo, 4939),
   (.cn, 5), (.lo, 4192), (.cn, 711761), (.cf, 1), (.cn, 30), (.cf, 96), (.cn, 128), (.mn, 240),
   (.cn, 65040), (.co, 65534), (.cn, 2), (.co, 65534), (.cn, 2)]

/-- The runs of code points of one category, each with its length. -/
def runs : List (Category × Nat) :=
  runs0000 ++ runs047F ++ runs0B64 ++ runs1A58 ++ runs2072 ++ runs309B ++ runsABF0 ++
    runs11173 ++ runs16F4F

/-- The category of code point `n` where the first run begins at `start`. -/
def inRuns : Nat → List (Category × Nat) → Nat → Category
  | _, [], _ => .cn
  | start, (g, len) :: rest, n => if n < start + len then g else inRuns (start + len) rest n

/-- The general category of a code point. -/
def ofCode (n : Nat) : Category := inRuns 0 runs n

def ofChar (c : Char) : Category := ofCode c.toNat

/-- The runs whose category passes a test, where the first run begins at `start`. -/
def rangesWhere (p : Category → Bool) : Nat → List (Category × Nat) → List CodeRange
  | _, [] => []
  | start, (g, len) :: rest =>
    if p g && len != 0 then ⟨start, start + len - 1⟩ :: rangesWhere p (start + len) rest
    else rangesWhere p (start + len) rest

/-- The characters whose general category passes a test. -/
def charsIn (p : Category → Bool) : CharSet := ⟨CharSet.coalesce (rangesWhere p 0 runs)⟩

theorem any_contains_rangesWhere_of_lt (p : Category → Bool) (start : Nat)
    (l : List (Category × Nat)) (n : Nat) (h : n < start) :
    (rangesWhere p start l).any (·.contains n) = false := by
  fun_induction rangesWhere p start l with
  | case1 => rfl
  | case2 start g len rest _ ih =>
    rw [List.any_cons, ih (by omega)]
    simp only [CodeRange.contains, Bool.or_false]
    grind
  | case3 start g len rest _ ih => exact ih (by omega)

/-- How many code points runs cover. -/
def runsLength : List (Category × Nat) → Nat
  | [] => 0
  | (_, len) :: rest => len + runsLength rest

theorem any_contains_rangesWhere (p : Category → Bool) (start : Nat) (l : List (Category × Nat))
    (n : Nat) (h : start ≤ n) (hn : n < start + runsLength l) :
    (rangesWhere p start l).any (·.contains n) = p (inRuns start l n) := by
  induction l generalizing start with
  | nil => simp only [runsLength] at hn; omega
  | cons r rest ih =>
    obtain ⟨g, len⟩ := r
    simp only [runsLength] at hn
    simp only [rangesWhere, inRuns]
    by_cases hlt : n < start + len
    · rw [if_pos hlt]
      have hrest := any_contains_rangesWhere_of_lt p (start + len) rest n hlt
      have hlen : len ≠ 0 := by omega
      cases hp : p g with
      | false => simp [hrest]
      | true =>
        simp only [Bool.true_and, bne_iff_ne, ne_eq, hlen, not_false_eq_true, if_true,
          List.any_cons, CodeRange.contains]
        grind
    · rw [if_neg hlt]
      have := ih (start + len) (by omega) (by omega)
      split
      · rw [List.any_cons, this]
        simp only [CodeRange.contains]
        grind
      · exact this

end Category

end RouteTemplate.Unicode
