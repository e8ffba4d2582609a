import CollectorFeed.Text.Json

/-!
# JSON on one line

A value is written without blanks. In strings the quote, the backslash and control characters are
escaped and all else stands for itself. A string without characters is written as an empty one.
-/

set_option autoImplicit false

namespace CollectorFeed

/-! ## Numbers -/

namespace Numeral

/-- The characters of digits. -/
def digitChars (digits : List Nat) : List Char :=
  digits.map fun digit => Char.ofNat ('0'.toNat + digit)

/-- The characters of a number. -/
def chars (numeral : Numeral) : List Char :=
  (if numeral.negative then ['-'] else []) ++ digitChars numeral.whole ++
    (match numeral.fraction? with
      | some digits => '.' :: digitChars digits
      | none => []) ++
    match numeral.exponent? with
    | some (below, digits) => 'e' :: (if below then ['-'] else []) ++ digitChars digits
    | none => []

end Numeral

namespace Json

/-! ## Strings -/

/-- A hexadecimal digit. -/
def hexDigit (value : Nat) : Char :=
  if value < 10 then Char.ofNat ('0'.toNat + value) else Char.ofNat ('a'.toNat + (value - 10))

/-- What stands for a character in a string. -/
def escaped (c : Char) : List Char :=
  if c = '"' then ['\\', '"']
  else if c = '\\' then ['\\', '\\']
  else if c = '\n' then ['\\', 'n']
  else if c = '\r' then ['\\', 'r']
  else if c = '\t' then ['\\', 't']
  else if c.toNat = 8 then ['\\', 'b']
  else if c.toNat = 12 then ['\\', 'f']
  else if c.toNat < 0x20 then
    ['\\', 'u', '0', '0', hexDigit (c.toNat / 16), hexDigit (c.toNat % 16)]
  else [c]

/-- A quoted string. -/
def quoted (text : String) : List Char :=
  '"' :: text.toList.flatMap escaped ++ ['"']

/-! ## Values -/

mutual

/-- The characters of a value. -/
def chars : Json → List Char
  | .null => "null".toList
  | .bool value => if value then "true".toList else "false".toList
  | .number numeral => numeral.chars
  | .string text? => quoted (text?.getD "")
  | .array items => '[' :: itemsChars items ++ [']']
  | .object fields => '{' :: fieldsChars fields ++ ['}']

/-- The characters of the items of an array. -/
def itemsChars : List Json → List Char
  | [] => []
  | [item] => chars item
  | item :: rest => chars item ++ ',' :: itemsChars rest

/-- The characters of the fields of an object. -/
def fieldsChars : List (Option String × Json) → List Char
  | [] => []
  | [(key, value)] => quoted (key.getD "") ++ ':' :: chars value
  | (key, value) :: rest => quoted (key.getD "") ++ ':' :: chars value ++ ',' :: fieldsChars rest

end

/-- The text of a value on one line. -/
def line (json : Json) : String :=
  String.ofList json.chars

/-! ## Making values -/

/-- A count. -/
def ofCount (count : Nat) : Json :=
  .number (.ofNat count)

/-- A text. -/
def ofText (text : String) : Json :=
  .string (some text)

/-- An object with the given fields, which are put in the order of their names. -/
def ofFields (fields : List (String × Json)) : Json :=
  .object ((fields.mergeSort fun a b => a.1 ≤ b.1).map fun field => (some field.1, field.2))

end Json

end CollectorFeed
