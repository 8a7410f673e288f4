import SignedTx.Text.Category
import SignedTx.Text.Digits

/-!
# Characters and texts in quotes

Messages show an offending character between single quotes and logs show texts between double ones.
Controls, the quote around them and the backslash are escaped; other characters that leave no mark
of their own are written by code point.
-/

set_option autoImplicit false

namespace SignedTx.Quoted

/-- A character as it stands between the given quotes. -/
def escape (quote c : Char) : List Char :=
  if c = '\x00' then ['\\', '0']
  else if c = '\t' then ['\\', 't']
  else if c = '\r' then ['\\', 'r']
  else if c = '\n' then ['\\', 'n']
  else if c = quote ∨ c = '\\' then ['\\', c]
  else if Category.isVisible c then [c]
  else "\\u\x7b".toList ++ Digits.hexadecimal c.toNat ++ ['\x7d']

def char (c : Char) : String := String.ofList ('\'' :: escape '\'' c ++ ['\''])

/-- An octet between single quotes, as the character with that code point. -/
def octet (byte : UInt8) : String := char (Char.ofNat byte.toNat)

def text (text : String) : String :=
  String.ofList ('"' :: text.toList.flatMap (escape '"') ++ ['"'])

end SignedTx.Quoted
