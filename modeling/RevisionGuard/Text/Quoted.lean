import RevisionGuard.Text.Printable

/-!
# Quoted text in diagnostics

A text quoted for a reader of a log: between double quotes, on one line, with
every character either shown as it is or escaped.  `Quoted.escape` decides per
character; characters that would be invisible or would merge with the glyph in
front of them are written by code point.
-/

namespace RevisionGuard

namespace Quoted

def hexDigit (value : Nat) : Char :=
  if value < 10 then Char.ofNat ('0'.toNat + value) else Char.ofNat ('a'.toNat + (value - 10))

/-- A number in lower-case hexadecimal, without leading zeros. -/
def hexText (value : Nat) : List Char :=
  if value < 16 then [hexDigit value] else hexText (value / 16) ++ [hexDigit (value % 16)]

/-- What stands for one character between the quotes. -/
def escape (letter : Char) : List Char :=
  if letter.toNat = 0 then ['\\', '0']
  else if letter = '\t' then ['\\', 't']
  else if letter = '\r' then ['\\', 'r']
  else if letter = '\n' then ['\\', 'n']
  else if letter = '\\' then ['\\', '\\']
  else if letter = '"' then ['\\', '"']
  else if Printable.isPrintable letter then [letter]
  else ['\\', 'u', Char.ofNat 0x7b] ++ hexText letter.toNat ++ [Char.ofNat 0x7d]

end Quoted

/-- A text between double quotes, escaped for one line of a diagnostic. -/
def quoted (text : String) : String :=
  String.ofList ('"' :: text.toList.flatMap Quoted.escape ++ ['"'])

end RevisionGuard
