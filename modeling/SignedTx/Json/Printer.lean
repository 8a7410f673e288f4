import SignedTx.Json.Basic
import SignedTx.Json.Double

/-!
# Printing JSON

Compact text: no blanks, members in the order of the object. Within strings only the quote, the
backslash and the controls below the space are escaped.
-/

set_option autoImplicit false

namespace SignedTx.Json

def escape (c : Char) : List Char :=
  if c = '"' then ['\\', '"']
  else if c = '\\' then ['\\', '\\']
  else if c = '\n' then ['\\', 'n']
  else if c = '\r' then ['\\', 'r']
  else if c = '\t' then ['\\', 't']
  else if c = '\x08' then ['\\', 'b']
  else if c = '\x0c' then ['\\', 'f']
  else if c.toNat < 32 then
    "\\u00".toList ++ [Digits.hexDigit (c.toNat / 16), Digits.hexDigit (c.toNat % 16)]
  else [c]

def quote (text : String) : List Char := '"' :: text.toList.flatMap escape ++ ['"']

def Number.toText : Number → List Char
  | .integer value =>
    if value < 0 then '-' :: Digits.decimal value.natAbs else Digits.decimal value.natAbs
  | .double value => doubleText value

mutual

/-- The text of a value, before `tail`. -/
def printBefore : Json → (tail : List Char) → List Char
  | .null, tail => 'n' :: 'u' :: 'l' :: 'l' :: tail
  | .bool true, tail => 't' :: 'r' :: 'u' :: 'e' :: tail
  | .bool false, tail => 'f' :: 'a' :: 'l' :: 's' :: 'e' :: tail
  | .number value, tail => value.toText ++ tail
  | .string value, tail => quote value ++ tail
  | .array items, tail => '[' :: printItems items (']' :: tail)
  | .object members, tail => '\x7b' :: printMembers members ('\x7d' :: tail)

def printItems : List Json → List Char → List Char
  | [], tail => tail
  | [item], tail => printBefore item tail
  | item :: rest, tail => printBefore item (',' :: printItems rest tail)

def printMembers : List (String × Json) → List Char → List Char
  | [], tail => tail
  | [(key, value)], tail => quote key ++ ':' :: printBefore value tail
  | (key, value) :: rest, tail =>
    quote key ++ ':' :: printBefore value (',' :: printMembers rest tail)

end

def print (json : Json) : String := String.ofList (printBefore json [])

end SignedTx.Json
