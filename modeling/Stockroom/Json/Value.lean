/-!
# Json/Value — JSON values and their text

A `Value` is what the service sends.  All its numbers are integers.  `Value.render` writes it without
blanks; the fields of an object stay in their order.
-/

namespace Stockroom.Json

/-- A JSON value without fractions. -/
inductive Value where
  | null
  | bool (value : Bool)
  | int (value : Int)
  | text (value : String)
  | list (items : List Value)
  | object (fields : List (String × Value))

namespace Value

/-- A value that may be missing. -/
def ofOption {α : Type} (encode : α → Value) : Option α → Value
  | some value => encode value
  | none => null

def ofList {α : Type} (encode : α → Value) (values : List α) : Value := list (values.map encode)

/-- The four hexadecimal digits of a control character. -/
def controlEscape (c : Char) : List Char :=
  ['\\', 'u', '0', '0', Nat.digitChar (c.toNat / 16), Nat.digitChar (c.toNat % 16)]

/-- A character inside a quoted text: quotes, backslashes and control characters are escaped. -/
def escapeChar (c : Char) : List Char :=
  if c = '"' then ['\\', '"']
  else if c = '\\' then ['\\', '\\']
  else if c = '\n' then ['\\', 'n']
  else if c = '\r' then ['\\', 'r']
  else if c = '\t' then ['\\', 't']
  else if c.toNat = 8 then ['\\', 'b']
  else if c.toNat = 12 then ['\\', 'f']
  else if c.toNat < 32 then controlEscape c
  else [c]

/-- A text in quotes. -/
def quote (s : String) : List Char := '"' :: s.toList.flatMap escapeChar ++ ['"']

mutual

/-- The characters of a value. -/
def chars : Value → List Char
  | null => "null".toList
  | bool value => (toString value).toList
  | int value => (toString value).toList
  | text value => quote value
  | list items => '[' :: itemChars items ++ [']']
  | object fields => '\x7b' :: fieldChars fields ++ ['\x7d']

/-- The items of a list, with commas between them. -/
def itemChars : List Value → List Char
  | [] => []
  | [item] => item.chars
  | item :: rest => item.chars ++ ',' :: itemChars rest

/-- The fields of an object, with commas between them. -/
def fieldChars : List (String × Value) → List Char
  | [] => []
  | [(key, value)] => quote key ++ ':' :: value.chars
  | (key, value) :: rest => quote key ++ ':' :: value.chars ++ ',' :: fieldChars rest

end

/-- **The text of a value.** -/
def render (v : Value) : String := String.ofList v.chars

end Value

end Stockroom.Json
