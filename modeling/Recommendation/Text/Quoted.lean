import Recommendation.Text.PrintTable
import Recommendation.Text.Lowercase

/-!
A text between quotes, as error messages show one: the quote and the backslash are escaped, the
common controls have short names, and a character that would not be seen is written by its number.
-/

namespace Recommendation.Text

def hexDigit (n : Nat) : Char :=
  Char.ofNat (if n < 10 then 48 + n else 87 + n)

def hexadecimal (n : Nat) : List Char :=
  if n < 16 then [hexDigit n] else hexadecimal (n / 16) ++ [hexDigit (n % 16)]
termination_by n

def quotedChar (c : Char) : List Char :=
  if c == '\x00' then ['\\', '0']
  else if c == '\t' then ['\\', 't']
  else if c == '\r' then ['\\', 'r']
  else if c == '\n' then ['\\', 'n']
  else if c == '"' then ['\\', '"']
  else if c == '\\' then ['\\', '\\']
  else if inRanges extenderRanges c.toNat || inRanges invisibleRanges c.toNat then
    ['\\', 'u', '\x7b'] ++ hexadecimal c.toNat ++ ['\x7d']
  else [c]

def quoted (s : String) : String :=
  String.ofList ('"' :: s.toList.flatMap quotedChar ++ ['"'])

end Recommendation.Text
