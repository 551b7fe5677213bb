import ScriptDate.Text.Printable

/-!
# Quoted text

A text between double quotes. Quotes and backslashes are escaped, line ends and tabs have letters,
and what cannot be shown is given by its code point; all else stands as it is.
-/

namespace ScriptDate.Text

/-- A character by its code point, in lower-case hexadecimal. -/
def escaped (c : Char) : List Char :=
  "\\u\x7b".toList ++ Nat.toDigits 16 c.toNat ++ ['\x7d']

/-- A character inside quotes. -/
def quotedChar (c : Char) : List Char :=
  if c = '\x00' then ['\\', '0']
  else if c = '\t' then ['\\', 't']
  else if c = '\r' then ['\\', 'r']
  else if c = '\n' then ['\\', 'n']
  else if c = '\\' then ['\\', '\\']
  else if c = '"' then ['\\', '"']
  else if isPrintable c then [c]
  else escaped c

/-- A text between quotes. -/
def quoted (cs : List Char) : List Char := '"' :: cs.flatMap quotedChar ++ ['"']

end ScriptDate.Text
