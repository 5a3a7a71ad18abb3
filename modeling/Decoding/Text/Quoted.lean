import Decoding.Text.Visible

/-!
Texts between double quotes, as messages show them. A quote and a backslash get a
backslash in front; tab, line feed, carriage return and NUL have short names; any
other character that would not show is written by its code point in hexadecimal.
-/

namespace Decoding.Text

/-- How one character is written between quotes. -/
def quotedChar (c : Char) : List Char :=
  match c with
  | '\x00' => ['\\', '0']
  | '\t' => ['\\', 't']
  | '\n' => ['\\', 'n']
  | '\r' => ['\\', 'r']
  | '"' => ['\\', '"']
  | '\\' => ['\\', '\\']
  | c =>
    if isVisible c then [c]
    else ['\\', 'u', '\x7b'] ++ Nat.toDigits 16 c.toNat ++ ['\x7d']

def quoted (s : String) : String :=
  String.ofList ('"' :: s.toList.flatMap quotedChar ++ ['"'])

end Decoding.Text
