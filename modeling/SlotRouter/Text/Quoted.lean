import SlotRouter.Text.Printable

/-!
# Quoted text

* `escape c`: a character as it stands between double quotes;
* `quote s`: a text in double quotes, on one line and without unprintable characters.

A quote, a backslash and the usual control characters are written with a backslash, any other
unprintable character as its code point in braces.
-/

namespace SlotRouter.Text

/-- A code point as it is written for an unprintable character. -/
def escapeCodePoint (c : Char) : List Char :=
  ['\\', 'u', '\x7b'] ++ Nat.toDigits 16 c.toNat ++ ['\x7d']

def escape (c : Char) : List Char :=
  if c = '"' then ['\\', '"']
  else if c = '\\' then ['\\', '\\']
  else if c = '\n' then ['\\', 'n']
  else if c = '\r' then ['\\', 'r']
  else if c = '\t' then ['\\', 't']
  else if c = '\x00' then ['\\', '0']
  else if isPrintable c then [c]
  else escapeCodePoint c

def quote (s : String) : String :=
  String.ofList ('"' :: s.toList.flatMap escape ++ ['"'])

end SlotRouter.Text
