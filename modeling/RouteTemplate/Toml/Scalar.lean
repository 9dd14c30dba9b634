import RouteTemplate.Text.Digits
import RouteTemplate.Toml.Quotation
import RouteTemplate.Toml.Value

/-!
Values of a TOML document that have no parts: strings, dates and times, numbers and truth values.
-/

namespace RouteTemplate.Toml

/-! ### Digits -/

/-- Reads digits, between which single underscores may stand. -/
def moreDigits (isDigit : Char → Bool) : List Char → List Char × List Char
  | '_' :: c :: r =>
    if isDigit c then
      let (digits, rest) := moreDigits isDigit r
      (c :: digits, rest)
    else ([], '_' :: c :: r)
  | c :: r =>
    if isDigit c then
      let (digits, rest) := moreDigits isDigit r
      (c :: digits, rest)
    else ([], c :: r)
  | [] => ([], [])

/-- Reads digits, of which there is at least one. -/
def digits? (isDigit : Char → Bool) : List Char → Option (List Char × List Char)
  | c :: r =>
    if isDigit c then
      let (digits, rest) := moreDigits isDigit r
      some (c :: digits, rest)
    else none
  | [] => none

/-- Reads a sign; a minus is `true`. -/
def readSign : List Char → Bool × List Char
  | '+' :: r => (false, r)
  | '-' :: r => (true, r)
  | s => (false, s)

/-- Reads decimal digits that do not begin with a needless zero. -/
def wholeDigits? : List Char → Option (List Char × List Char)
  | '0' :: r => some (['0'], r)
  | s => digits? Char.isDigit s

/-! ### Integers -/

def maxInteger : Nat := 9223372036854775807

/-- Reads the digits of a number in another base than ten. -/
def basedInteger? (base : Nat) (s : List Char) : Option (Int × List Char) := do
  let (digits, rest) ← digits? (Text.digit? base · |>.isSome) s
  let n := Text.ofDigits base digits
  if n ≤ maxInteger then some (n, rest) else none

def integer? : List Char → Option (Int × List Char)
  | '0' :: 'x' :: r => basedInteger? 16 r
  | '0' :: 'o' :: r => basedInteger? 8 r
  | '0' :: 'b' :: r => basedInteger? 2 r
  | s => do
    let (negative, r) := readSign s
    let (digits, rest) ← wholeDigits? r
    let n := Text.ofDigits 10 digits
    if negative then if n ≤ maxInteger + 1 then some (-n, rest) else none
    else if n ≤ maxInteger then some (n, rest) else none

/-! ### Floats -/

/-- Whether a number rounds to more than the largest of double precision. Its bounds by the count of
its digits come first, lest a large power be computed. -/
def overflows (mantissa : Nat) (exponent : Int) : Bool :=
  let digits : Int := (Nat.toDigits 10 mantissa).length
  if mantissa = 0 || digits + exponent ≤ 308 then false
  else if digits + exponent > 310 then true
  else
    mantissa * Nat.pow 10 exponent.toNat ≥
      (Nat.pow 2 1024 - Nat.pow 2 970) * Nat.pow 10 (-exponent).toNat

def exponent? : List Char → Option (Int × List Char)
  | 'e' :: r | 'E' :: r => do
    let (negative, r) := readSign r
    let (digits, rest) ← digits? Char.isDigit r
    let n : Int := Text.ofDigits 10 digits
    some (if negative then -n else n, rest)
  | _ => none

def fraction? : List Char → Option (List Char × List Char)
  | '.' :: r => digits? Char.isDigit r
  | _ => none

/-- Reads digits with a fraction, an exponent or both. What is too large is refused, but not what is
too small. -/
def finite? (s : List Char) : Option (Decimal × List Char) := do
  let (negative, r) := readSign s
  let (whole, r) ← wholeDigits? r
  let (fraction, exponent, rest) ←
    match fraction? r with
    | some (fraction, r) =>
      match exponent? r with
      | some (exponent, rest) => some (fraction, exponent, rest)
      | none => some (fraction, 0, r)
    | none => (exponent? r).map fun (exponent, rest) => ([], exponent, rest)
  let mantissa := Text.ofDigits 10 (whole ++ fraction)
  let exponent := exponent - fraction.length
  if !negative && overflows mantissa exponent then none
  else some (.finite negative mantissa exponent, rest)

def special? (s : List Char) : Option (Decimal × List Char) :=
  match readSign s with
  | (negative, 'i' :: 'n' :: 'f' :: rest) => some (.infinite negative, rest)
  | (_, 'n' :: 'a' :: 'n' :: rest) => some (.nan, rest)
  | _ => none

def float? (s : List Char) : Option (Decimal × List Char) := (finite? s).or (special? s)

/-! ### Dates and times -/

/-- The number that exactly `n` decimal digits write. -/
def fixedDigits? (n : Nat) (s : List Char) : Option (Nat × List Char) :=
  let digits := s.take n
  if digits.length = n && digits.all Char.isDigit then
    some (Text.ofDigits 10 digits, s.drop n)
  else none

/-- Reads one character. -/
def expect? (c : Char) : List Char → Option (List Char)
  | d :: r => if d = c then some r else none
  | [] => none

def isLeapYear (year : Nat) : Bool := year % 4 = 0 && (year % 100 ≠ 0 || year % 400 = 0)

def daysInMonth (year month : Nat) : Nat :=
  if month = 2 then (if isLeapYear year then 29 else 28)
  else if [4, 6, 9, 11].contains month then 30
  else 31

def date? (s : List Char) : Option (Date × List Char) := do
  let (year, r) ← fixedDigits? 4 s
  let (month, r) ← fixedDigits? 2 (← expect? '-' r)
  let (day, rest) ← fixedDigits? 2 (← expect? '-' r)
  if 1 ≤ month && month ≤ 12 && 1 ≤ day && day ≤ daysInMonth year month then
    some (⟨year, month, day⟩, rest)
  else none

/-- Hours and minutes. -/
def clock? (s : List Char) : Option (Nat × Nat × List Char) := do
  let (hour, r) ← fixedDigits? 2 s
  let (minute, rest) ← fixedDigits? 2 (← expect? ':' r)
  if hour ≤ 23 && minute ≤ 59 then some (hour, minute, rest) else none

/-- Reads a fraction of a second in nanoseconds. Further digits are dropped. -/
def nanoseconds : List Char → Option (Nat × List Char)
  | '.' :: r =>
    let digits := r.takeWhile Char.isDigit
    if digits.isEmpty then none
    else some (Text.ofDigits 10 ((digits ++ .replicate 9 '0').take 9), r.dropWhile Char.isDigit)
  | s => some (0, s)

/-- Reads a time of day, where a minute may have a leap second. -/
def time? (s : List Char) : Option (Time × List Char) := do
  let (hour, minute, r) ← clock? s
  let (second, r) ← fixedDigits? 2 (← expect? ':' r)
  let (nanosecond, rest) ← nanoseconds r
  if second ≤ 60 then some (⟨hour, minute, second, nanosecond⟩, rest) else none

def offset? : List Char → Option (Offset × List Char)
  | 'Z' :: r | 'z' :: r => some (.utc, r)
  | '+' :: r => (clock? r).map fun (hour, minute, rest) => (.minutes false (60 * hour + minute), rest)
  | '-' :: r => (clock? r).map fun (hour, minute, rest) => (.minutes true (60 * hour + minute), rest)
  | _ => none

/-- Reads the time that may follow a date. -/
def timeOfDate? : List Char → Option (Time × List Char)
  | 'T' :: r | 't' :: r | ' ' :: r => time? r
  | _ => none

def dateTime? (s : List Char) : Option (DateTime × List Char) :=
  match date? s with
  | some (date, r) =>
    match timeOfDate? r with
    | some (time, r) =>
      match offset? r with
      | some (offset, rest) => some (⟨date, time, offset⟩, rest)
      | none => some (⟨date, time, none⟩, r)
    | none => some (⟨date, none, none⟩, r)
  | none => (time? s).map fun (time, rest) => (⟨none, time, none⟩, rest)

/-! ### All of them -/

def boolean? : List Char → Option (Bool × List Char)
  | 't' :: 'r' :: 'u' :: 'e' :: rest => some (true, rest)
  | 'f' :: 'a' :: 'l' :: 's' :: 'e' :: rest => some (false, rest)
  | _ => none

def scalar? (s : List Char) : Option (Value × List Char) :=
  ((string? s).map fun (x, rest) => (Value.string x, rest))
    |>.or ((dateTime? s).map fun (d, rest) => (.dateTime d, rest))
    |>.or ((float? s).map fun (d, rest) => (.float d, rest))
    |>.or ((integer? s).map fun (n, rest) => (.integer n, rest))
    |>.or ((boolean? s).map fun (b, rest) => (.boolean b, rest))

end RouteTemplate.Toml
