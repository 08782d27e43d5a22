import PromptDiagram.Numeric.Floating
import PromptDiagram.Text.Character

/-!
# Reading numerals

A natural number is an optional plus sign and at least one decimal digit, and it is refused when
it exceeds a limit; it never wraps. A floating-point number is a decimal with optional sign, point
and exponent, or a word for infinity or for an undefined value, and is rounded once.
-/

namespace PromptDiagram.Numeric

open Text

/-- The number that decimal digits write. -/
def digitsValue (digits : List Char) : Nat :=
  digits.foldl (fun n c => 10 * n + digitValue c) 0

/-- A number written in decimal digits alone, at least one. -/
def unsigned? (digits : List Char) : Option Nat :=
  if !digits.isEmpty && digits.all isDigit then some (digitsValue digits) else none

/-- A text without a plus sign at its beginning. -/
def dropPlus : List Char → List Char
  | '+' :: rest => rest
  | text => text

/-- The number that decimal digits write behind a number, digit by digit. Reading stops without a
result at a character that is no digit and at a digit that takes the number beyond the limit. -/
def digitsWithin? (limit : Nat) : Nat → List Char → Option Nat
  | n, [] => some n
  | n, c :: rest =>
    let next := 10 * n + digitValue c
    if isDigit c && next ≤ limit then digitsWithin? limit next rest else none

/-- The natural number that a text writes, if it does not exceed the limit. -/
def natural? (limit : Nat) (text : List Char) : Option Nat :=
  match dropPlus text with
  | [] => none
  | digits => digitsWithin? limit 0 digits

/-- The value nearest to `digits * 10 ^ exponent`. Exponents far beyond the range of the format are
settled without computing the power. -/
def ofDecimal (format : Format) (negative : Bool) (digits : Nat) (exponent : Int) : Floating :=
  let leading := exponent + (Nat.toDigits 10 digits).length
  if digits = 0 ∨ leading < -400 then .finite negative 0 format.least
  else if 400 < leading then .infinite negative
  else Floating.ofRatio format negative (digits * tenTo exponent.toNat) (tenTo (-exponent).toNat)

/-- The exponent that a text ends in: nothing at all, or a letter, an optional sign and digits. -/
def exponent? : List Char → Option Int
  | [] => some 0
  | letter :: rest =>
    if letter == 'e' || letter == 'E' then
      match rest with
      | '-' :: digits => (unsigned? digits).map fun n => -(n : Int)
      | '+' :: digits => (unsigned? digits).map fun n => (n : Int)
      | digits => (unsigned? digits).map fun n => (n : Int)
    else none

/-- The fraction behind a decimal point, if there is one, and what follows it. -/
def fraction : List Char → List Char × List Char
  | '.' :: rest => (rest.takeWhile isDigit, rest.dropWhile isDigit)
  | text => ([], text)

/-- The decimal that a text without sign writes, as digits and an exponent of ten. -/
def decimal? (text : List Char) : Option (Nat × Int) :=
  let whole := text.takeWhile isDigit
  let (places, rest) := fraction (text.dropWhile isDigit)
  if whole.isEmpty && places.isEmpty then none
  else (exponent? rest).map fun exponent =>
    (digitsValue (whole ++ places), exponent - places.length)

/-- The floating-point number that a text writes. -/
def floating? (format : Format) (text : List Char) : Option Floating :=
  let (negative, body) : Bool × List Char := match text with
    | '-' :: rest => (true, rest)
    | '+' :: rest => (false, rest)
    | _ => (false, text)
  if sameIgnoringCase body "inf".toList || sameIgnoringCase body "infinity".toList then
    some (.infinite negative)
  else if sameIgnoringCase body "nan".toList then some .undefined
  else (decimal? body).map fun (digits, exponent) => ofDecimal format negative digits exponent

end PromptDiagram.Numeric
