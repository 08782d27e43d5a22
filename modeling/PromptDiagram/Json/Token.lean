import PromptDiagram.Json.Fault
import PromptDiagram.Numeric.Reading

/-!
# Tokens of JSON texts

Words, numbers and strings are read from a place in a text on. Every token is checked in two ways.
A value that is wanted is read strictly. A value that nobody wants is only passed over: that finds
the same end, but not the faults that concern what a token means, such as a number out of range or
half a surrogate pair.
-/

namespace PromptDiagram.Json

open Numeric Text

/-- A place in a text: the number of bytes before it, and what follows it. -/
structure Cursor where
  offset : Nat
  rest : List Symbol

/-- The offset of a fault about what follows a place: it includes the first byte there, if the text
does not end. -/
def Cursor.ahead (cursor : Cursor) : Nat :=
  if cursor.rest.isEmpty then cursor.offset else cursor.offset + 1

/-- The blanks between the tokens of a JSON text. -/
def isSpace (c : Char) : Bool :=
  c == ' ' || c == '\n' || c == '\t' || c == '\r'

/-- The place behind the blanks at a place. -/
def skipSpaces (offset : Nat) : List Symbol → Cursor
  | .char c :: rest =>
    if isSpace c then skipSpaces (offset + 1) rest else ⟨offset, .char c :: rest⟩
  | rest => ⟨offset, rest⟩

/-- The next symbol that is no blank. -/
def Cursor.skip (cursor : Cursor) : Cursor :=
  skipSpaces cursor.offset cursor.rest

/-! ## Words -/

/-- The place behind given letters. -/
def readWord : List Char → Cursor → Except Fault Cursor
  | [], cursor => .ok cursor
  | _ :: _, ⟨offset, []⟩ => .error (.here .endInValue offset)
  | letter :: letters, ⟨offset, symbol :: rest⟩ =>
    if symbol = .char letter then readWord letters ⟨offset + 1, rest⟩
    else .error (.here .wordExpected (offset + 1))

/-! ## Numbers -/

/-- The parts of a number as it is written. -/
structure Numeral where
  negative : Bool
  whole : List Char
  fraction : List Char
  exponent : Option (Bool × List Char)

/-- A place where a number breaks off, and whether the text ends there. -/
structure BrokenNumber where
  offset : Nat
  atEnd : Bool

/-- The fault of a broken number in a value that is wanted. -/
def BrokenNumber.strict (broken : BrokenNumber) : Fault :=
  .here (if broken.atEnd then .endInValue else .badNumber) broken.offset

/-- The fault of a broken number in a value that is passed over. -/
def BrokenNumber.lenient (broken : BrokenNumber) : Fault :=
  .here .badNumber broken.offset

/-- The digits at a place. -/
def takeDigits (offset : Nat) : List Symbol → List Char × Cursor
  | .char c :: rest =>
    if isDigit c then
      let (digits, cursor) := takeDigits (offset + 1) rest
      (c :: digits, cursor)
    else ([], ⟨offset, .char c :: rest⟩)
  | rest => ([], ⟨offset, rest⟩)

/-- The digits before the point: a single zero, or digits that begin with another one. -/
def readWhole (cursor : Cursor) : Except BrokenNumber (List Char × Cursor) :=
  match takeDigits cursor.offset cursor.rest with
  | ([], _) =>
    if cursor.rest.isEmpty then .error ⟨cursor.offset, true⟩ else .error ⟨cursor.offset + 1, false⟩
  | ('0' :: _ :: _, _) => .error ⟨cursor.offset + 2, false⟩
  | (digits, after) => .ok (digits, after)

/-- The digits behind the point, if there is one. -/
def readFraction (cursor : Cursor) : Except BrokenNumber (List Char × Cursor) :=
  match cursor.rest with
  | .char '.' :: rest =>
    match takeDigits (cursor.offset + 1) rest with
    | ([], after) => .error ⟨after.ahead, after.rest.isEmpty⟩
    | (digits, after) => .ok (digits, after)
  | _ => .ok ([], cursor)

/-- The sign at a place, if there is one; true for minus. -/
def readSign (cursor : Cursor) : Bool × Cursor :=
  match cursor.rest with
  | .char '-' :: rest => (true, ⟨cursor.offset + 1, rest⟩)
  | .char '+' :: rest => (false, ⟨cursor.offset + 1, rest⟩)
  | _ => (false, cursor)

/-- The sign and the digits of an exponent, if there is one. -/
def readExponent (cursor : Cursor) : Except BrokenNumber (Option (Bool × List Char) × Cursor) :=
  match cursor.rest with
  | .char letter :: rest =>
    if letter == 'e' || letter == 'E' then
      let (negative, behind) := readSign ⟨cursor.offset + 1, rest⟩
      match takeDigits behind.offset behind.rest with
      | ([], after) => .error ⟨after.ahead, after.rest.isEmpty⟩
      | (digits, after) => .ok (some (negative, digits), after)
    else .ok (none, cursor)
  | _ => .ok (none, cursor)

/-- The parts of the number at a place. -/
def readNumeral (cursor : Cursor) : Except BrokenNumber (Numeral × Cursor) := do
  let (negative, cursor) : Bool × Cursor := match cursor.rest with
    | .char '-' :: rest => (true, ⟨cursor.offset + 1, rest⟩)
    | _ => (false, cursor)
  let (whole, cursor) ← readWhole cursor
  let (fraction, cursor) ← readFraction cursor
  let (exponent, cursor) ← readExponent cursor
  return ({ negative, whole, fraction, exponent }, cursor)

/-- The greatest natural number that is kept exactly: it has 64 bits. -/
def greatestNatural : Nat := 18446744073709551615

/-- The greatest negated number that is kept exactly: with its sign it has 64 bits. -/
def greatestNegative : Nat := 9223372036854775808

/-- The greatest exponent that is read: with its sign it has 32 bits. -/
def greatestExponent : Nat := 2147483647

/-- Append digits to a number as long as it stays within a bound; the digits that are left. -/
def accumulate (bound : Nat) (n : Nat) : List Char → Nat × List Char
  | [] => (n, [])
  | c :: rest =>
    let next := 10 * n + digitValue c
    if next ≤ bound then accumulate bound next rest else (n, c :: rest)

/-- A power of ten in double precision. -/
def powerOfTen (exponent : Nat) : Floating :=
  .ofNat .double (tenTo exponent)

/-- The quotient of a number by a power of ten, in steps of at most `10 ^ 308`. -/
def scaleDown (value : Floating) (exponent : Nat) : Floating :=
  if exponent ≤ 308 then value.dividedBy .double (powerOfTen exponent)
  else if value.isZero then value
  else scaleDown (value.dividedBy .double (powerOfTen 308)) (exponent - 308)
  termination_by exponent

/-- The product of a number and a power of ten, unless it is too large. -/
def scaleUp (value : Floating) (exponent : Nat) : Option Floating :=
  if exponent ≤ 308 then
    let product := value.times .double (powerOfTen exponent)
    if product.isFinite then some product else none
  else if value.isZero then some value
  else none

/-- The value of `significand * 10 ^ exponent`, rounded once as a number and once when it is
scaled. -/
def scaled (significand : Nat) (exponent : Int) : Option Floating :=
  let value := Floating.ofNat .double significand
  if 0 ≤ exponent then scaleUp value exponent.toNat else some (scaleDown value (-exponent).toNat)

/-- What a numeral means. A whole number within bounds is exact, everything else is a
floating-point number. Where it is too large, the result is the number of its last characters that
were not needed to see that. -/
def Numeral.value (numeral : Numeral) : Except Nat Number :=
  let (n, uncounted) := accumulate greatestNatural 0 numeral.whole
  let signed (value : Floating) : Number :=
    .double (if numeral.negative then value.negate else value)
  let real (n : Nat) (exponent : Int) : Except Nat Number :=
    match scaled n exponent with
    | some value => .ok (signed value)
    | none => .error 0
  let (significand, ignored) := accumulate greatestNatural n numeral.fraction
  let shift : Int := uncounted.length - (numeral.fraction.length - ignored.length : Nat)
  match numeral.exponent with
  | some (negative, digits) =>
    match accumulate greatestExponent 0 digits with
    | (exponent, []) => real significand (shift + if negative then -(exponent : Int) else exponent)
    | (_, beyond) =>
      if significand ≠ 0 ∧ !negative then .error (beyond.length - 1)
      else .ok (signed (.ofNat .double 0))
  | none =>
    if !numeral.fraction.isEmpty || !uncounted.isEmpty then real significand shift
    else if !numeral.negative then .ok (.natural n)
    else if n ≠ 0 ∧ n ≤ greatestNegative then .ok (.negative n)
    else .ok (signed (.ofNat .double n))

/-! ## Strings -/

/-- Where reading stands within a string. -/
inductive Place where
  | plain
  /-- Behind a backslash, and before it perhaps the first half of a surrogate pair. -/
  | escape (high : Option Nat)
  /-- Within the four digits of a code unit. -/
  | unit (high : Option Nat) (missing value : Nat)
  /-- Behind the first half of a surrogate pair. -/
  | pair (high : Nat)

/-- The character that a letter behind a backslash stands for. -/
def escaped? (c : Char) : Option Char :=
  if c == '"' || c == '\\' || c == '/' then some c
  else if c == 'b' then some (Char.ofNat 8)
  else if c == 'f' then some (Char.ofNat 12)
  else if c == 'n' then some '\n'
  else if c == 'r' then some '\r'
  else if c == 't' then some '\t'
  else none

/-- Whether a code unit is the first half of a surrogate pair. -/
def isHigh (unit : Nat) : Bool := 0xD800 ≤ unit && unit ≤ 0xDBFF

/-- Whether a code unit is the second half of a surrogate pair. -/
def isLow (unit : Nat) : Bool := 0xDC00 ≤ unit && unit ≤ 0xDFFF

/-- The character of a surrogate pair. -/
def pairChar (high low : Nat) : Char :=
  Char.ofNat (0x10000 + (high - 0xD800) * 0x400 + (low - 0xDC00))

/-- The fault of a code unit that does not have four digits: all of its bytes are read first. -/
def brokenUnit (offset missing : Nat) (rest : List Symbol) : Fault :=
  if missing ≤ byteWidth rest then .here .badEscape (offset + missing)
  else .here .endInString (offset + byteWidth rest)

/-- What a complete code unit adds to a string, and where reading goes on. -/
def closeUnit (offset : Nat) (high : Option Nat) (unit : Nat) :
    Except Fault (Option Char × Place) :=
  match high with
  | some high =>
    if isLow unit then .ok (some (pairChar high unit), .plain)
    else .error (.here .loneSurrogate offset)
  | none =>
    if isLow unit then .error (.here .loneSurrogate offset)
    else if isHigh unit then .ok (none, .pair unit)
    else .ok (some (Char.ofNat unit), .plain)

/-- The string that is read, once its closing quotation mark is at a place. Bytes that encode no
character count only now, and their place is told as if nothing from them on had been escaped. -/
def finishText (mark : Nat) (content : List Symbol) : Except Fault String :=
  match content.dropWhile Symbol.isChar with
  | [] => .ok (String.ofList (content.filterMap Symbol.char?))
  | broken => .error (.here .badUnicode (mark + 1 - byteWidth broken))

/-- The rest of a string that is wanted; `before` is what has been read of it, last symbol first. -/
def readText (before : List Symbol) (place : Place) (offset : Nat) :
    List Symbol → Except Fault (String × Cursor)
  | [] => .error (.here .endInString offset)
  | symbol :: rest =>
    match place, symbol with
    | .plain, .stray width => readText (symbol :: before) .plain (offset + width) rest
    | .plain, .char c =>
      if c == '"' then
        (finishText offset before.reverse).map fun content => (content, ⟨offset + 1, rest⟩)
      else if c == '\\' then readText before (.escape none) (offset + 1) rest
      else if c.toNat < 0x20 then .error (.here .controlCharacter (offset + 1))
      else readText (symbol :: before) .plain (offset + c.utf8Size) rest
    | .escape high, .char c =>
      if c == 'u' then readText before (.unit high 4 0) (offset + 1) rest
      else if high.isSome then .error (.here .unpairedSurrogate (offset + 1))
      else match escaped? c with
        | some meant => readText (.char meant :: before) .plain (offset + 1) rest
        | none => .error (.here .badEscape (offset + 1))
    | .escape high, .stray _ =>
      .error (.here (if high.isSome then .unpairedSurrogate else .badEscape) (offset + 1))
    | .unit high missing value, .char c =>
      match hexValue? c with
      | some digit =>
        let value := 16 * value + digit
        if missing ≤ 1 then
          match closeUnit (offset + 1) high value with
          | .ok (some meant, place) => readText (.char meant :: before) place (offset + 1) rest
          | .ok (none, place) => readText before place (offset + 1) rest
          | .error fault => .error fault
        else readText before (.unit high (missing - 1) value) (offset + 1) rest
      | none => .error (brokenUnit offset missing (symbol :: rest))
    | .unit _ missing _, .stray _ => .error (brokenUnit offset missing (symbol :: rest))
    | .pair high, .char c =>
      if c == '\\' then readText before (.escape (some high)) (offset + 1) rest
      else .error (.here .unpairedSurrogate (offset + 1))
    | .pair _, .stray _ => .error (.here .unpairedSurrogate (offset + 1))

/-- The place behind a string that is passed over. -/
def passText (place : Place) (offset : Nat) : List Symbol → Except Fault Cursor
  | [] => .error (.here .endInString offset)
  | symbol :: rest =>
    match place, symbol with
    | .escape _, .char c =>
      if c == 'u' then passText (.unit none 4 0) (offset + 1) rest
      else if (escaped? c).isSome then passText .plain (offset + 1) rest
      else .error (.here .badEscape (offset + 1))
    | .escape _, .stray _ => .error (.here .badEscape (offset + 1))
    | .unit _ missing _, .char c =>
      if (hexValue? c).isSome then
        passText (if missing ≤ 1 then .plain else .unit none (missing - 1) 0) (offset + 1) rest
      else .error (brokenUnit offset missing (symbol :: rest))
    | .unit _ missing _, .stray _ => .error (brokenUnit offset missing (symbol :: rest))
    | _, .stray width => passText .plain (offset + width) rest
    | _, .char c =>
      if c == '"' then .ok ⟨offset + 1, rest⟩
      else if c == '\\' then passText (.escape none) (offset + 1) rest
      else if c.toNat < 0x20 then .error (.here .controlCharacter offset)
      else passText .plain (offset + c.utf8Size) rest

end PromptDiagram.Json
