/-!
# UTF-8

Bytes are read as symbols: characters, and strays for what encodes none. A stray is a longest run
of bytes that begins a character and is then not carried on, or a single byte that can begin none.
Reading goes byte by byte with at most one character open, so no byte is looked at twice.
-/

namespace PromptDiagram.Text

/-- A character, or some bytes that encode none. -/
inductive Symbol where
  | char (c : Char)
  | stray (width : Nat)
  deriving DecidableEq

/-- The number of bytes of a symbol. -/
def Symbol.width : Symbol → Nat
  | .char c => c.utf8Size
  | .stray width => width

/-- The character of a symbol that is one. -/
def Symbol.char? : Symbol → Option Char
  | .char c => some c
  | .stray _ => none

/-- Whether a symbol is a character. -/
def Symbol.isChar (symbol : Symbol) : Bool :=
  symbol.char?.isSome

/-- The number of bytes of a text. -/
def byteWidth : List Symbol → Nat
  | [] => 0
  | symbol :: rest => symbol.width + byteWidth rest

/-- The symbols of characters. -/
def symbols (text : List Char) : List Symbol :=
  text.map .char

/-- The symbols of a text that begins with a character. -/
@[simp]
theorem symbols_cons (c : Char) (text : List Char) :
    symbols (c :: text) = .char c :: symbols text := rfl

/-- The symbols of no text. -/
@[simp]
theorem symbols_nil : symbols [] = [] := rfl

/-- The symbols of a text that is put together. -/
@[simp]
theorem symbols_append (front back : List Char) :
    symbols (front ++ back) = symbols front ++ symbols back :=
  List.map_append

/-- Characters have one symbol each. -/
@[simp]
theorem length_symbols (text : List Char) : (symbols text).length = text.length :=
  List.length_map _

/-- A character that has been begun: the bytes it still needs, the bounds of the next one, its
value so far, and the bytes read. -/
structure Begun where
  needed : Nat
  low : Nat
  high : Nat
  value : Nat
  width : Nat

/-- The character that a byte begins, if it begins one of several bytes. -/
def begun? (byte : Nat) : Option Begun :=
  if 0xC2 ≤ byte ∧ byte ≤ 0xDF then some ⟨1, 0x80, 0xBF, byte - 0xC0, 1⟩
  else if byte = 0xE0 then some ⟨2, 0xA0, 0xBF, 0, 1⟩
  else if byte = 0xED then some ⟨2, 0x80, 0x9F, 0xD, 1⟩
  else if 0xE1 ≤ byte ∧ byte ≤ 0xEF then some ⟨2, 0x80, 0xBF, byte - 0xE0, 1⟩
  else if byte = 0xF0 then some ⟨3, 0x90, 0xBF, 0, 1⟩
  else if byte = 0xF4 then some ⟨3, 0x80, 0x8F, 4, 1⟩
  else if 0xF1 ≤ byte ∧ byte ≤ 0xF3 then some ⟨3, 0x80, 0xBF, byte - 0xF0, 1⟩
  else none

/-- What a byte gives between characters: symbols that are complete, and a character begun. -/
def beginWith (byte : Nat) : List Symbol × Option Begun :=
  if byte < 0x80 then ([.char (Char.ofNat byte)], none)
  else match begun? byte with
    | some begun => ([], some begun)
    | none => ([.stray 1], none)

/-- What a byte gives within or between characters. -/
def step : Option Begun → Nat → List Symbol × Option Begun
  | none, byte => beginWith byte
  | some begun, byte =>
    if begun.low ≤ byte ∧ byte ≤ begun.high then
      let value := begun.value * 64 + (byte - 0x80)
      if begun.needed ≤ 1 then ([.char (Char.ofNat value)], none)
      else ([], some ⟨begun.needed - 1, 0x80, 0xBF, value, begun.width + 1⟩)
    else
      let (complete, next) := beginWith byte
      (.stray begun.width :: complete, next)

/-- The symbols of bytes that follow a character begun. -/
def decodeFrom : Option Begun → List UInt8 → List Symbol
  | none, [] => []
  | some begun, [] => [.stray begun.width]
  | state, byte :: rest =>
    let (complete, next) := step state byte.toNat
    complete ++ decodeFrom next rest

/-- The symbols of bytes. -/
def decode (bytes : List UInt8) : List Symbol :=
  decodeFrom none bytes

/-- The bytes of characters. -/
def encode (text : List Char) : List UInt8 :=
  text.flatMap String.utf8EncodeChar

/-- The characters of bytes, with a replacement character for each stray. -/
def decodeLossy (bytes : List UInt8) : List Char :=
  (decode bytes).map fun symbol => symbol.char?.getD '\uFFFD'

end PromptDiagram.Text
