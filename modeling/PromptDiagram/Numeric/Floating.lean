/-!
# Binary floating-point numbers

A finite value is a sign, a significand and an exponent of two; which of them exist is said by a
format. Exact ratios of natural numbers are rounded to a format, to the nearest value and to the
even significand where two are equally near. All arithmetic is on natural numbers, and products
and quotients are rounded once.
-/

namespace PromptDiagram.Numeric

/-- A power of two. -/
abbrev twoTo (exponent : Nat) : Nat := Nat.pow 2 exponent

/-- A power of ten. -/
abbrev tenTo (exponent : Nat) : Nat := Nat.pow 10 exponent

/-- A binary format: the bits of a significand, and the least and the greatest exponent of its
last bit. -/
structure Format where
  precision : Nat
  least : Int
  greatest : Int
  deriving DecidableEq

/-- Single precision: 24 bits. -/
def Format.single : Format := ⟨24, -149, 104⟩

/-- Double precision: 53 bits. -/
def Format.double : Format := ⟨53, -1074, 971⟩

/-- A floating-point value. The finite one stands for `significand * 2 ^ exponent`, negated if
`negative`; zero has a sign too. -/
inductive Floating where
  | finite (negative : Bool) (significand : Nat) (exponent : Int)
  | infinite (negative : Bool)
  | undefined
  deriving DecidableEq

namespace Floating

/-- A quotient rounded to the nearest natural number, a half to the even one. -/
def roundQuotient (numerator denominator : Nat) : Nat :=
  let quotient := numerator / denominator
  let twice := 2 * (numerator % denominator)
  if twice < denominator then quotient
  else if denominator < twice then quotient + 1
  else if quotient % 2 == 0 then quotient else quotient + 1

/-- The exponent of the greatest power of two that a positive ratio reaches. -/
def binaryMagnitude (numerator denominator : Nat) : Int :=
  let guess : Int := numerator.log2 - denominator.log2
  if denominator * twoTo guess.toNat ≤ numerator * twoTo (-guess).toNat then guess else guess - 1

/-- The value of a format that is nearest to a ratio. -/
def ofRatio (format : Format) (negative : Bool) (numerator denominator : Nat) : Floating :=
  if numerator = 0 then .finite negative 0 format.least
  else
    let exponent :=
      max format.least (binaryMagnitude numerator denominator - (format.precision - 1))
    let significand :=
      roundQuotient (numerator * twoTo (-exponent).toNat) (denominator * twoTo exponent.toNat)
    let carried := significand == twoTo format.precision
    let significand := if carried then significand / 2 else significand
    let exponent := if carried then exponent + 1 else exponent
    if format.greatest < exponent then .infinite negative
    else .finite negative significand exponent

/-- The value of a format that is nearest to a natural number. -/
def ofNat (format : Format) (n : Nat) : Floating :=
  ofRatio format false n 1

/-- The absolute value of a finite number as a ratio; any other value has none. -/
def ratio? : Floating → Option (Nat × Nat)
  | .finite _ significand exponent =>
    some (significand * twoTo exponent.toNat, twoTo (-exponent).toNat)
  | _ => none

/-- Whether a value bears a minus sign. -/
def isNegative : Floating → Bool
  | .finite negative _ _ => negative
  | .infinite negative => negative
  | .undefined => false

/-- Whether a value is zero, of either sign. -/
def isZero : Floating → Bool
  | .finite _ significand _ => significand == 0
  | _ => false

/-- Whether a value is neither infinite nor undefined. -/
def isFinite : Floating → Bool
  | .finite .. => true
  | _ => false

/-- A value with its sign turned. -/
def negate : Floating → Floating
  | .finite negative significand exponent => .finite (!negative) significand exponent
  | .infinite negative => .infinite (!negative)
  | .undefined => .undefined

/-- The product of two finite numbers, rounded; undefined where one is not finite. -/
def times (format : Format) (left right : Floating) : Floating :=
  match left.ratio?, right.ratio? with
  | some (a, b), some (c, d) =>
    ofRatio format (left.isNegative != right.isNegative) (a * c) (b * d)
  | _, _ => .undefined

/-- The quotient of a finite number by a finite number that is not zero, rounded; undefined
otherwise. -/
def dividedBy (format : Format) (left right : Floating) : Floating :=
  match left.ratio?, right.ratio? with
  | some (a, b), some (c, d) =>
    if c = 0 then .undefined
    else ofRatio format (left.isNegative != right.isNegative) (a * d) (b * c)
  | _, _ => .undefined

/-- Whether a value lies between zero and a natural number, both included; a negative zero does. -/
def isWithin (bound : Nat) : Floating → Bool
  | .finite negative significand exponent =>
    significand == 0 ||
      (!negative && significand * twoTo exponent.toNat ≤ bound * twoTo (-exponent).toNat)
  | _ => false

end Floating
end PromptDiagram.Numeric
