import PromptDiagram.Numeric.Floating

/-!
# Shortest decimals

The decimal that stands for a floating-point value has the fewest digits of all that round to the
value, and of those it is the nearest one; where two are equally near, a rule for ties decides.
It is found digit count by digit count: on each grid of powers of ten the two neighbours of the
value are tried against the interval of reals that round to it. The texts made of the digits say
where the point stands and when an exponent is written.
-/

namespace PromptDiagram.Numeric

/-- A decimal `digits * 10 ^ exponent`. -/
structure Decimal where
  digits : Nat
  exponent : Int
  deriving DecidableEq

/-- Which of two equally near decimals is taken. -/
inductive Tie where
  /-- The one with an even last digit. -/
  | toEven
  /-- The one farther from zero. -/
  | away
  deriving DecidableEq

/-- The exponent of the greatest power of ten that a positive ratio reaches. -/
def decimalMagnitude (numerator denominator : Nat) : Int :=
  let guess : Int :=
    (Nat.toDigits 10 numerator).length - (Nat.toDigits 10 denominator).length
  if denominator * tenTo guess.toNat ≤ numerator * tenTo (-guess).toNat then guess else guess - 1

/-- The reals that round to `significand * 2 ^ exponent`, in quarters of its last bit: the ends of
the interval. Below a power of two the values lie twice as close. -/
def roundingInterval (format : Format) (significand : Nat) (exponent : Int) : Nat × Nat :=
  let closer := significand == twoTo (format.precision - 1) && format.least < exponent
  (4 * significand - (if closer then 1 else 2), 4 * significand + 2)

/-- A decimal without the zeros at the end of its digits. -/
def Decimal.strip (fuel : Nat) (decimal : Decimal) : Decimal :=
  match fuel with
  | 0 => decimal
  | fuel + 1 =>
    if decimal.digits ≠ 0 ∧ decimal.digits % 10 = 0 then
      strip fuel ⟨decimal.digits / 10, decimal.exponent + 1⟩
    else decimal

/-- The nearer of the two neighbours of a positive value on the grid of `10 ^ grid` that round to
the value, if one of them does. -/
def neighbour? (format : Format) (tie : Tie) (significand : Nat) (exponent grid : Int) :
    Option Nat :=
  let even := significand % 2 == 0
  let scale := twoTo exponent.toNat * tenTo (-grid).toNat
  let step := 4 * (twoTo (-exponent).toNat * tenTo grid.toNat)
  let value := 4 * significand * scale
  let (low, high) := roundingInterval format significand exponent
  let fits (digits : Nat) : Bool :=
    let point := digits * step
    (low * scale < point || (even && low * scale == point)) &&
      (point < high * scale || (even && point == high * scale))
  let below := value / step
  let above := below + 1
  let nearer := if 2 * (value % step) < step then below
    else if step < 2 * (value % step) then above
    else if tie = .toEven ∧ below % 2 = 0 then below else above
  let other := if nearer == below then above else below
  if fits nearer then some nearer else if fits other then some other else none

/-- The shortest decimal of a positive value, looked for from `count` digits on. -/
def shortestFrom (format : Format) (tie : Tie) (significand : Nat) (exponent magnitude : Int) :
    Nat → Nat → Decimal
  | 0, _ => ⟨0, 0⟩
  | fuel + 1, count =>
    let grid := magnitude - count + 1
    match neighbour? format tie significand exponent grid with
    | some digits => Decimal.strip 20 ⟨digits, grid⟩
    | none => shortestFrom format tie significand exponent magnitude fuel (count + 1)

/-- The decimal with the fewest digits that rounds to `significand * 2 ^ exponent`, and of those
the nearest. Seventeen digits are enough for every format of at most 53 bits. -/
def shortest (format : Format) (tie : Tie) (significand : Nat) (exponent : Int) : Decimal :=
  if significand = 0 then ⟨0, 0⟩
  else
    let magnitude :=
      decimalMagnitude (significand * twoTo exponent.toNat) (twoTo (-exponent).toNat)
    shortestFrom format tie significand exponent magnitude 17 1

/-! ## Texts -/

/-- The digits of a number in base ten. -/
def decimalDigits (n : Nat) : List Char :=
  Nat.toDigits 10 n

/-- A decimal written with a point and without an exponent; `whole` is what follows the digits of
a number without fraction. -/
def Decimal.positional (decimal : Decimal) (whole : List Char) : List Char :=
  let digits := decimalDigits decimal.digits
  if 0 ≤ decimal.exponent then digits ++ List.replicate decimal.exponent.toNat '0' ++ whole
  else
    let places := (-decimal.exponent).toNat
    if digits.length ≤ places then
      ['0', '.'] ++ List.replicate (places - digits.length) '0' ++ digits
    else
      digits.take (digits.length - places) ++ ['.'] ++ digits.drop (digits.length - places)

/-- The exponent of a decimal's first digit. -/
def Decimal.leading (decimal : Decimal) : Int :=
  decimal.exponent + (decimalDigits decimal.digits).length - 1

/-- A decimal written with one digit before the point and with an exponent that bears its sign. -/
def Decimal.scientific (decimal : Decimal) : List Char :=
  let exponent := decimal.leading
  let fraction := match decimalDigits decimal.digits with
    | first :: second :: rest => first :: '.' :: second :: rest
    | digits => digits
  fraction ++ ['e', if exponent < 0 then '-' else '+'] ++ decimalDigits exponent.natAbs

/-- The minus sign of a negative number. -/
def signText (negative : Bool) : List Char :=
  if negative then ['-'] else []

/-- The plain text of a value: never an exponent, and no fraction for a whole number. Of two equally
near decimals the one farther from zero is written. -/
def Floating.plainText (format : Format) : Floating → List Char
  | .finite negative significand exponent =>
    signText negative ++ (shortest format .away significand exponent).positional []
  | .infinite negative => signText negative ++ ['i', 'n', 'f']
  | .undefined => ['N', 'a', 'N']

/-- How the numbers of a format are laid out in data: without exponent if that of the first digit is
within bounds. -/
structure Layout where
  format : Format
  least : Int
  greatest : Int

/-- Single precision: no exponent from `10 ^ -5` on and below `10 ^ 13`. -/
def Layout.single : Layout := ⟨.single, -5, 12⟩

/-- Double precision: no exponent from `10 ^ -5` on and below `10 ^ 16`. -/
def Layout.double : Layout := ⟨.double, -5, 15⟩

/-- The text of a finite number in data, where a whole number that is written without exponent has a
fraction of zero. Of two equally near decimals the even one is written. A value that is not finite
is `null`. -/
def Floating.dataText (layout : Layout) : Floating → List Char
  | .finite negative significand exponent =>
    let decimal := shortest layout.format .toEven significand exponent
    signText negative ++
      if significand = 0 ∨ (layout.least ≤ decimal.leading ∧ decimal.leading ≤ layout.greatest) then
        decimal.positional ['.', '0']
      else decimal.scientific
  | _ => ['n', 'u', 'l', 'l']

end PromptDiagram.Numeric
