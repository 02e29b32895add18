import Checkup.Text.Entity

/-!
# Bare TOML scalars

Truth values, numbers and dates. A number has to fit 128 bits or be a finite float; a date has to
be a day of the calendar. Their values are of no further use, so only truth values are kept.
-/

namespace Checkup.Toml

/-- A scalar that is written without quotes. A date is kept in its written form. -/
inductive Bare where
  | truth (value : Bool)
  | number
  | date (text : String)
  deriving DecidableEq, Repr

def isBareChar (char : Char) : Bool :=
  char.isAlphanum || char == '_' || char == '+' || char == '-' || char == '.' || char == ':'

/-! ## Numbers -/

def digitBelow (base : Nat) (char : Char) : Bool :=
  (Text.Entity.digitValue? char).any (· < base)

/-- Digits with single underscores between them, told without the underscores. -/
def digits? (base : Nat) (chars : List Char) : Option (List Char) :=
  let groups := chars.splitOn '_'
  if groups.all fun group => !group.isEmpty && group.all (digitBelow base) then some groups.flatten
  else none

def splitSign : List Char → Bool × List Char
  | '-' :: rest => (true, rest)
  | '+' :: rest => (false, rest)
  | chars => (false, chars)

/-- Decimal digits without a leading zero. -/
def plainDigits? (chars : List Char) : Option (List Char) :=
  match digits? 10 chars with
  | some ('0' :: _ :: _) => none
  | digits => digits

def decimalInteger? (chars : List Char) : Option Bare :=
  let (negative, rest) := splitSign chars
  match (plainDigits? rest).bind (Text.Entity.number? 10) with
  | some value =>
    if value < 1 <<< 128 ∧ (negative → value ≤ 1 <<< 127) then some .number else none
  | none => none

def radixInteger? (base : Nat) (chars : List Char) : Option Bare :=
  match (digits? base chars).bind (Text.Entity.number? base) with
  | some value => if value < 1 <<< 128 then some .number else none
  | none => none

/-- Whether `digits` times ten to the power of `exponent` rounds to infinity. -/
def overflows (digits : List Char) (exponent : Int) : Bool :=
  let digits := digits.dropWhile (· == '0')
  let magnitude := digits.length + exponent
  if digits.isEmpty || magnitude < 300 then false
  else if 400 < magnitude then true
  else
    let value := (Text.Entity.number? 10 digits).getD 0
    let limit := (1 <<< 1024) - (1 <<< 970)
    if 0 ≤ exponent then limit ≤ value * Nat.pow 10 exponent.toNat
    else limit * Nat.pow 10 (-exponent).toNat ≤ value

def exponent? (chars : List Char) : Option Int :=
  let (negative, rest) := splitSign chars
  (digits? 10 rest).bind fun digits =>
    (Text.Entity.number? 10 digits).map fun value => if negative then -(value : Int) else value

def float? (chars : List Char) : Option Bare :=
  let (_, rest) := splitSign chars
  if rest = "inf".toList ∨ rest = "nan".toList then some .number
  else
    let isMark (char : Char) : Bool := char == 'e' || char == 'E'
    let significand := rest.takeWhile (!isMark ·)
    let exponent? :=
      match rest.drop significand.length with
      | [] => some 0
      | _ :: digits => exponent? digits
    let whole := significand.takeWhile (· != '.')
    let fraction? :=
      match significand.drop whole.length with
      | [] => if significand.length = rest.length then none else some []
      | _ :: digits => digits? 10 digits
    match plainDigits? whole, fraction?, exponent? with
    | some whole, some fraction, some exponent =>
      if overflows (whole ++ fraction) (exponent - fraction.length) then none else some .number
    | _, _, _ => none

/-! ## Dates -/

def fixed? (count : Nat) (chars : List Char) : Option (Nat × List Char) :=
  let digits := chars.take count
  if digits.length = count ∧ digits.all Char.isDigit then
    (Text.Entity.number? 10 digits).map (·, chars.drop count)
  else none

def expect? (mark : Char) : List Char → Option (List Char)
  | [] => none
  | char :: rest => if char = mark then some rest else none

def daysOf (year month : Nat) : Nat :=
  if month = 2 then
    if year % 4 = 0 ∧ (year % 100 ≠ 0 ∨ year % 400 = 0) then 29 else 28
  else if month = 4 ∨ month = 6 ∨ month = 9 ∨ month = 11 then 30
  else 31

def date? (chars : List Char) : Option (List Char) := do
  let (year, rest) ← fixed? 4 chars
  let (month, rest) ← fixed? 2 (← expect? '-' rest)
  let (day, rest) ← fixed? 2 (← expect? '-' rest)
  if 1 ≤ month ∧ month ≤ 12 ∧ 1 ≤ day ∧ day ≤ daysOf year month then some rest else none

/-- Seconds may be left out, and only seconds have a fraction. -/
def time? (chars : List Char) : Option (List Char) := do
  let (hour, rest) ← fixed? 2 chars
  let (minute, rest) ← fixed? 2 (← expect? ':' rest)
  if 23 < hour ∨ 59 < minute then none
  else
    match rest with
    | ':' :: rest => do
      let (second, rest) ← fixed? 2 rest
      if 60 < second then none
      else
        match rest with
        | '.' :: digits =>
          let fraction := digits.takeWhile Char.isDigit
          if fraction.isEmpty then none else some (digits.drop fraction.length)
        | rest => some rest
    | rest => some rest

def offset? : List Char → Option Unit
  | [] => some ()
  | ['Z'] | ['z'] => some ()
  | sign :: rest => do
    if sign ≠ '+' ∧ sign ≠ '-' then none
    else
      let (hour, rest) ← fixed? 2 rest
      let (minute, rest) ← fixed? 2 (← expect? ':' rest)
      if 23 < hour ∨ 59 < minute ∨ !rest.isEmpty then none else some ()

def isDate (chars : List Char) : Bool :=
  match date? chars with
  | some [] => true
  | some (mark :: rest) =>
    (mark == 'T' || mark == 't') && ((time? rest).bind offset?).isSome
  | none => time? chars == some []

/-! ## Classification -/

def bare? (chars : List Char) : Option Bare :=
  match chars with
  | ['t', 'r', 'u', 'e'] => some (.truth true)
  | ['f', 'a', 'l', 's', 'e'] => some (.truth false)
  | '0' :: 'x' :: digits => radixInteger? 16 digits
  | '0' :: 'o' :: digits => radixInteger? 8 digits
  | '0' :: 'b' :: digits => radixInteger? 2 digits
  | chars =>
    if isDate chars then some (.date (String.ofList (chars.map Char.toUpper)))
    else (decimalInteger? chars).orElse fun _ => float? chars

end Checkup.Toml
