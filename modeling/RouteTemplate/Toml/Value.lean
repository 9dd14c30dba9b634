/-!
The values of a TOML document. Tables keep their entries in the order in which they were written, and
know how they came about.
-/

namespace RouteTemplate.Toml

/-! ### Dates and times -/

structure Date where
  year : Nat
  month : Nat
  day : Nat
  deriving DecidableEq, Repr, Inhabited

structure Time where
  hour : Nat
  minute : Nat
  second : Nat
  nanosecond : Nat
  deriving DecidableEq, Repr, Inhabited

/-- How far a time is ahead of universal time. -/
inductive Offset where
  | utc
  | minutes (behind : Bool) (count : Nat)
  deriving DecidableEq, Repr, Inhabited

/-- A date, a time, or both, and then perhaps with an offset. -/
structure DateTime where
  date : Option Date
  time : Option Time
  offset : Option Offset
  deriving DecidableEq, Repr, Inhabited

/-- The decimal digits of a number, with zeros before them up to a width. -/
def padded (width n : Nat) : List Char :=
  let digits := Nat.toDigits 10 n
  .replicate (width - digits.length) '0' ++ digits

def Date.text (d : Date) : List Char :=
  padded 4 d.year ++ '-' :: padded 2 d.month ++ '-' :: padded 2 d.day

/-- The fraction of a second is written without zeros at its end, and left out if there is none. -/
def Time.text (t : Time) : List Char :=
  let fraction := (padded 9 t.nanosecond).reverse.dropWhile (· = '0') |>.reverse
  padded 2 t.hour ++ ':' :: padded 2 t.minute ++ ':' :: padded 2 t.second ++
    if fraction.isEmpty then [] else '.' :: fraction

def Offset.text : Offset → List Char
  | .utc => ['Z']
  | .minutes behind count =>
    (if behind && count ≠ 0 then '-' else '+') :: padded 2 (count / 60) ++
      ':' :: padded 2 (count % 60)

def DateTime.text (d : DateTime) : List Char :=
  let date := d.date.map Date.text
  let time := d.time.map Time.text
  date.getD [] ++ (if date.isSome && time.isSome then ['T'] else []) ++ time.getD [] ++
    (d.offset.map Offset.text).getD []

/-! ### Values -/

/-- A float by its decimal digits. -/
inductive Decimal where
  | finite (negative : Bool) (mantissa : Nat) (exponent : Int)
  | infinite (negative : Bool)
  | nan
  deriving DecidableEq, Repr, Inhabited

/-- How a table came about: by its own header, on the way to another header, by a dotted key, or in
braces. -/
inductive TableKind where
  | header | implied | dotted | inline
  deriving DecidableEq, Repr, Inhabited

inductive Value where
  | string (s : List Char)
  | integer (n : Int)
  | float (d : Decimal)
  | boolean (b : Bool)
  | dateTime (d : DateTime)
  | array (items : List Value)
  | table (kind : TableKind) (entries : List (List Char × Value))
  /-- The tables that headers in double brackets have added to a list. -/
  | tables (items : List (List (List Char × Value)))
  deriving Repr, Inhabited

abbrev Entries := List (List Char × Value)

namespace Value

def string? : Value → Option (List Char)
  | .string s => some s
  | _ => none

def boolean? : Value → Option Bool
  | .boolean b => some b
  | _ => none

/-- The entries of a value that is read as a table. A date or a time has one, its text. -/
def entries? : Value → Option Entries
  | .table _ entries => some entries
  | .dateTime d => some [("$__toml_private_datetime".toList, .string d.text)]
  | _ => none

end Value

end RouteTemplate.Toml
