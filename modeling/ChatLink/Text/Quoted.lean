import ChatLink.Text.Digit
import ChatLink.Text.Hidden

/-!
# Text in quotes for people

Messages show texts of the application in double quotes. The quote, the backslash and the usual
control characters are written as a backslash and a letter or sign, every other character that
shows nothing by itself by its number in braces, and all else stays as it is.
-/

namespace ChatLink.Text

/-- The hexadecimal digits of a number, in lower case and without zeros in front. -/
def lowerHex (n : Nat) : List Char :=
  (Nat.toDigits 16 n)

/-- A character inside quotes. -/
def quotedChar (c : Char) : List Char :=
  match c with
  | '\x00' => ['\\', '0']
  | '\t' => ['\\', 't']
  | '\n' => ['\\', 'n']
  | '\r' => ['\\', 'r']
  | '"' => ['\\', '"']
  | '\\' => ['\\', '\\']
  | c =>
    if c.toNat < 0x20 ∨ c = '\x7f' ∨ isHidden c then
      ['\\', 'u', '{'] ++ lowerHex c.toNat ++ ['}']
    else [c]

/-- A text in quotes. -/
def quoted (text : String) : String :=
  "\"" ++ String.ofList (text.toList.flatMap quotedChar) ++ "\""

end ChatLink.Text
