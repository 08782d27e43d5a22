import PromptDiagram.Text.Character

/-!
# Media types

A media type is a type and a subtype with parameters behind them. The subtype may end in a suffix
that tells what the data are written in. A body counts as JSON when its type is `application` and
its subtype or its suffix is `json`, in any letter case.

The form is the one that the mime library reads. Parameters do not matter but must be well formed. A
quoted value ends at the next quotation mark and knows no escapes, but it may not be empty: a
quotation mark right at its beginning belongs to it.
-/

namespace PromptDiagram.Service

open Text

/-- A media type without its parameters. -/
structure MediaType where
  type : List Char
  subtype : List Char
  suffix : Option (List Char)
  deriving DecidableEq

/-- The characters that names and values of a media type are made of. -/
def isTokenChar (c : Char) : Bool :=
  isLetter c || isDigit c || "!#$%&'*+-.^_`|~".toList.contains c

/-- The characters of a quoted value. -/
def isQuotedChar (c : Char) : Bool :=
  32 ≤ c.toNat && c.toNat != 127

/-- What follows a quoted value, from behind the first character of the value. -/
def skipQuoted : List Char → Option (List Char)
  | [] => none
  | c :: rest =>
    if c == '"' then some rest else if isQuotedChar c then skipQuoted rest else none

/-- What follows the blanks and the semicolon behind a quoted value. -/
def skipToSemicolon : List Char → Option (List Char)
  | [] => some []
  | ';' :: rest => some rest
  | ' ' :: rest => skipToSemicolon rest
  | _ => none

/-- What follows a parameter's value and the semicolon behind it. -/
def skipValue (text : List Char) : Option (List Char) :=
  match text with
  | '"' :: first :: rest =>
    if isQuotedChar first then (skipQuoted rest).bind skipToSemicolon else none
  | ['"'] => none
  | _ =>
    match text.takeWhile isTokenChar, text.dropWhile isTokenChar with
    | _, [] => some []
    | _ :: _, ';' :: rest => some rest
    | _, _ => none

/-- What follows a parameter and the semicolon behind it. -/
def skipParameter (text : List Char) : Option (List Char) :=
  match text.takeWhile isTokenChar, text.dropWhile isTokenChar with
  | _ :: _, '=' :: rest => skipValue rest
  | _, _ => none

/-- Whether a text is a list of parameters, the blanks before each left out; `fuel` is the length of
the text. -/
def areParameters : Nat → List Char → Bool
  | 0, text => text.isEmpty
  | fuel + 1, text =>
    match text.dropWhile (· == ' ') with
    | [] => true
    | text => (skipParameter text).any (areParameters fuel)

/-- The subtype and the suffix of a name: what stands before and behind its last plus sign, unless
that begins the name. -/
def splitSuffix (name : List Char) : List Char × Option (List Char) :=
  let behind := (name.reverse.takeWhile (· != '+')).reverse
  let before := name.take (name.length - behind.length - 1)
  if behind.length = name.length || before.isEmpty then (name, none) else (before, some behind)

/-- The media type that a text writes. -/
def MediaType.parse? (text : List Char) : Option MediaType :=
  match text.takeWhile isTokenChar, text.dropWhile isTokenChar with
  | first :: type, '/' :: rest =>
    let name := rest.takeWhile isTokenChar
    let (subtype, suffix) := splitSuffix name
    let result : MediaType := ⟨first :: type, subtype, suffix⟩
    match rest.dropWhile isTokenChar with
    | [] => some result
    | ';' :: parameters =>
      if !name.isEmpty && areParameters parameters.length parameters then some result else none
    | _ => none
  | _, _ => none

/-- Whether data of a media type are JSON. -/
def MediaType.isJson (mediaType : MediaType) : Bool :=
  sameIgnoringCase mediaType.type "application".toList &&
    (sameIgnoringCase mediaType.subtype "json".toList ||
      mediaType.suffix.any fun suffix => sameIgnoringCase suffix "json".toList)

end PromptDiagram.Service
