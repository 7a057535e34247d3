import CppIndex.Text.Printable

/-!
# Quoted text

Some messages show a piece of the input between double quotes. The **quoted form** escapes the quote
and the backslash with a backslash, writes line feed, carriage return, tab and the null character by
their letters, and every other character that does not show by itself (`isPrintable`) as its code
point in hexadecimal between braces. Everything else, the apostrophe included, stands as it is.
-/

namespace CppIndex.Text

/-- The digits of a number in lower-case hexadecimal, without leading zeros. -/
def hexDigits (n : Nat) : List Char := Nat.toDigits 16 n

/-- One character as it stands inside quotes. -/
def escaped (c : Char) : List Char :=
  if c = '"' then ['\\', '"']
  else if c = '\\' then ['\\', '\\']
  else if c = '\n' then ['\\', 'n']
  else if c = '\r' then ['\\', 'r']
  else if c = '\t' then ['\\', 't']
  else if c = '\x00' then ['\\', '0']
  else if isPrintable c then [c]
  else ['\\', 'u', '\x7b'] ++ hexDigits c.toNat ++ ['\x7d']

/-- **The quoted form** of a text: its characters escaped one by one, between double quotes. -/
def quoted (s : String) : String :=
  String.ofList (['"'] ++ s.toList.flatMap escaped ++ ['"'])

end CppIndex.Text
