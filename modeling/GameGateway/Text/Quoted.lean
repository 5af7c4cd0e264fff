import GameGateway.Text.Unprintable

/-!
# Quoted text

`quoted` shows a text between double quotes on one line: quotes, backslashes and the common
control characters are escaped by a backslash, and every other character that is not shown as
itself by its code point in braces.
-/

namespace GameGateway.Text

/-- A character as it stands between double quotes. -/
def quotedChar (c : Char) : List Char :=
  match c with
  | '"' => ['\\', '"']
  | '\\' => ['\\', '\\']
  | '\x00' => ['\\', '0']
  | '\t' => ['\\', 't']
  | '\n' => ['\\', 'n']
  | '\r' => ['\\', 'r']
  | c =>
    if isShown c then [c]
    else ['\\', 'u', '\x7b'] ++ Nat.toDigits 16 c.toNat ++ ['\x7d']

/-- The text between double quotes. -/
def quoted (s : String) : String :=
  String.ofList ('"' :: s.toList.flatMap quotedChar ++ ['"'])

end GameGateway.Text
