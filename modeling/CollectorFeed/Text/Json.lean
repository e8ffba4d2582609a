import CollectorFeed.Text.Numeral

/-!
# JSON

Values of the JSON format, with numbers as they are written and the fields of an object in the order
in which they are written. A string may hold an escaped half of a surrogate pair without the other
half. Such a string is part of a well-formed text and has no characters.

A text is read in two passes, each of which steps through its input once: characters are cut into
tokens, and tokens are put together into values. What was opened and not closed yet is kept on a
stack, so the depth of a value is not bounded.
-/

set_option autoImplicit false

namespace CollectorFeed

/-- A JSON value. -/
inductive Json
  | null
  | bool (value : Bool)
  | number (numeral : Numeral)
  /-- A string without characters if half of a surrogate pair is missing. -/
  | string (text? : Option String)
  | array (items : List Json)
  | object (fields : List (Option String × Json))

namespace Json

/-! ## Strings -/

/-- What a string is made of as it is written. -/
inductive Piece
  /-- A character, or a simple escape for one. -/
  | char (c : Char)
  /-- An escaped unit of sixteen bits. -/
  | unit (value : Nat)
deriving DecidableEq

/-- Whether a unit is the first half of a surrogate pair. -/
def isHigh (value : Nat) : Bool :=
  0xD800 ≤ value && value < 0xDC00

/-- Whether a unit is the second half of a surrogate pair. -/
def isLow (value : Nat) : Bool :=
  0xDC00 ≤ value && value < 0xE000

/-- The character of a surrogate pair. -/
def paired (high low : Nat) : Char :=
  Char.ofNat (0x10000 + (high - 0xD800) * 0x400 + (low - 0xDC00))

/-- The characters that pieces stand for, unless half of a surrogate pair is missing. -/
def characters? : List Piece → Option (List Char)
  | [] => some []
  | .char c :: rest => (characters? rest).map (c :: ·)
  | .unit high :: .unit low :: rest =>
    if isHigh high then
      if isLow low then (characters? rest).map (paired high low :: ·) else none
    else if isLow high then none
    else (characters? (.unit low :: rest)).map (Char.ofNat high :: ·)
  | .unit value :: rest =>
    if isHigh value || isLow value then none
    else (characters? rest).map (Char.ofNat value :: ·)

/-- The character behind the backslash of a simple escape. -/
def simpleEscape? : Char → Option Char
  | '"' => some '"'
  | '\\' => some '\\'
  | '/' => some '/'
  | 'b' => some (Char.ofNat 8)
  | 'f' => some (Char.ofNat 12)
  | 'n' => some '\n'
  | 'r' => some '\r'
  | 't' => some '\t'
  | _ => none

/-- Value of a hexadecimal digit. -/
def hexDigit? (c : Char) : Option Nat :=
  if c.isDigit then some (c.toNat - '0'.toNat)
  else if 'a' ≤ c ∧ c ≤ 'f' then some (c.toNat - 'a'.toNat + 10)
  else if 'A' ≤ c ∧ c ≤ 'F' then some (c.toNat - 'A'.toNat + 10)
  else none

/-! ## Tokens -/

/-- A token of a JSON text. -/
inductive Token
  | openArray
  | closeArray
  | openObject
  | closeObject
  | colon
  | comma
  | null
  | bool (value : Bool)
  | number (numeral : Numeral)
  | string (text? : Option String)
deriving DecidableEq

/-- What the scanner stands in. Characters and pieces that were read stand latest first. -/
inductive ScanMode
  /-- Between tokens. -/
  | between
  /-- In a word or a number. -/
  | word (read : List Char)
  /-- In a string. -/
  | string (read : List Piece)
  /-- Behind the backslash of an escape. -/
  | escape (read : List Piece)
  /-- In an escaped unit, with so many digits to come. -/
  | unit (read : List Piece) (value missing : Nat)
deriving DecidableEq

/-- How far the scanner has come. Tokens stand latest first. -/
structure Scan where
  /-- Tokens that were cut. -/
  tokens : List Token
  /-- What the scanner stands in. -/
  mode : ScanMode

/-- Whether a character may stand between tokens. -/
def isBlank (c : Char) : Bool :=
  c = ' ' || c = '\t' || c = '\n' || c = '\r'

/-- The token that a character is by itself. -/
def mark? : Char → Option Token
  | '[' => some .openArray
  | ']' => some .closeArray
  | '{' => some .openObject
  | '}' => some .closeObject
  | ':' => some .colon
  | ',' => some .comma
  | _ => none

/-- The token that a word is. -/
def word? (text : List Char) : Option Token :=
  if text = "null".toList then some .null
  else if text = "true".toList then some (.bool true)
  else if text = "false".toList then some (.bool false)
  else (Numeral.ofChars? text).map .number

/-- One character between tokens. -/
def stepBetween (tokens : List Token) (c : Char) : Scan :=
  if isBlank c then ⟨tokens, .between⟩
  else if c = '"' then ⟨tokens, .string []⟩
  else
    match mark? c with
    | some token => ⟨token :: tokens, .between⟩
    | none => ⟨tokens, .word [c]⟩

/-- Whether a character ends a word. -/
def endsWord (c : Char) : Bool :=
  isBlank c || c = '"' || (mark? c).isSome

/-- One character of a string. A control character must be escaped. -/
def stepString? (tokens : List Token) (read : List Piece) (c : Char) : Option Scan :=
  if c = '"' then
    some ⟨.string ((characters? read.reverse).map String.ofList) :: tokens, .between⟩
  else if c = '\\' then some ⟨tokens, .escape read⟩
  else if c.toNat < 0x20 then none
  else some ⟨tokens, .string (.char c :: read)⟩

/-- One character behind a backslash. -/
def stepEscape? (tokens : List Token) (read : List Piece) (c : Char) : Option Scan :=
  if c = 'u' then some ⟨tokens, .unit read 0 4⟩
  else (simpleEscape? c).map fun plain => ⟨tokens, .string (.char plain :: read)⟩

/-- One digit of an escaped unit. -/
def stepUnit? (tokens : List Token) (read : List Piece) (value missing : Nat) (c : Char) :
    Option Scan :=
  (hexDigit? c).map fun digit =>
    if missing ≤ 1 then ⟨tokens, .string (.unit (value * 16 + digit) :: read)⟩
    else ⟨tokens, .unit read (value * 16 + digit) (missing - 1)⟩

/-- One character. -/
def Scan.step? (scan : Scan) (c : Char) : Option Scan :=
  match scan.mode with
  | .between => some (stepBetween scan.tokens c)
  | .word read =>
    if endsWord c then (word? read.reverse).map fun token => stepBetween (token :: scan.tokens) c
    else some ⟨scan.tokens, .word (c :: read)⟩
  | .string read => stepString? scan.tokens read c
  | .escape read => stepEscape? scan.tokens read c
  | .unit read value missing => stepUnit? scan.tokens read value missing c

/-- The tokens at the end of a text. -/
def Scan.finish? (scan : Scan) : Option (List Token) :=
  match scan.mode with
  | .between => some scan.tokens.reverse
  | .word read => (word? read.reverse).map fun token => (token :: scan.tokens).reverse
  | _ => none

/-- The tokens of a text. -/
def tokens? (text : List Char) : Option (List Token) :=
  (text.foldlM Scan.step? ⟨[], .between⟩).bind Scan.finish?

/-! ## Values -/

/-- A container that is open. What it holds stands latest first. -/
inductive Frame
  /-- An array. -/
  | array (items : List Json)
  /-- An object, with the key of the value to come. -/
  | object (fields : List (Option String × Json)) (key : Option String)

/-- Where the reader stands, with the open containers from the inside out. -/
inductive Cursor
  /-- In front of a value. -/
  | value (frames : List Frame)
  /-- Behind the bracket that opens an array. -/
  | firstItem (frames : List Frame)
  /-- Behind the brace that opens an object. -/
  | firstKey (frames : List Frame)
  /-- In front of a key that must come. -/
  | key (fields : List (Option String × Json)) (frames : List Frame)
  /-- Behind a key. -/
  | colon (fields : List (Option String × Json)) (key : Option String) (frames : List Frame)
  /-- Behind a value. -/
  | behind (value : Json) (frames : List Frame)

/-- A token in front of a value. -/
def stepValue? (frames : List Frame) : Token → Option Cursor
  | .openArray => some (.firstItem frames)
  | .openObject => some (.firstKey frames)
  | .null => some (.behind .null frames)
  | .bool value => some (.behind (.bool value) frames)
  | .number numeral => some (.behind (.number numeral) frames)
  | .string text? => some (.behind (.string text?) frames)
  | .closeArray | .closeObject | .colon | .comma => none

/-- A token behind a value, which either adds it to its container and goes on, or closes that. -/
def stepBehind? (value : Json) : List Frame → Token → Option Cursor
  | .array items :: frames, .comma => some (.value (.array (value :: items) :: frames))
  | .array items :: frames, .closeArray =>
    some (.behind (.array (value :: items).reverse) frames)
  | .object fields key :: frames, .comma => some (.key ((key, value) :: fields) frames)
  | .object fields key :: frames, .closeObject =>
    some (.behind (.object ((key, value) :: fields).reverse) frames)
  | _, _ => none

/-- One token. -/
def Cursor.step? : Cursor → Token → Option Cursor
  | .value frames, token => stepValue? frames token
  | .firstItem frames, .closeArray => some (.behind (.array []) frames)
  | .firstItem frames, token => stepValue? (.array [] :: frames) token
  | .firstKey frames, .closeObject => some (.behind (.object []) frames)
  | .firstKey frames, .string name => some (.colon [] name frames)
  | .firstKey _, _ => none
  | .key fields frames, .string name => some (.colon fields name frames)
  | .key _ _, _ => none
  | .colon fields name frames, .colon => some (.value (.object fields name :: frames))
  | .colon _ _ _, _ => none
  | .behind found frames, token => stepBehind? found frames token

/-- The value that tokens spell, if they spell exactly one. -/
def ofTokens? (tokens : List Token) : Option Json :=
  match tokens.foldlM Cursor.step? (.value []) with
  | some (.behind value []) => some value
  | _ => none

/-- The value that a text spells, if it spells exactly one. -/
def parse? (text : String) : Option Json :=
  (tokens? text.toList).bind ofTokens?

end Json

end CollectorFeed
