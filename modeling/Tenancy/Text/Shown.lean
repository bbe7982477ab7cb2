import Tenancy.Text.Hidden

/-!
# Texts in messages

How a message shows a text it is about: between `"` marks, with a backslash before marks and
backslashes, a letter for the commonest controls, and the code point of every other character that
would not show.
-/

namespace Tenancy.Text

/-- A character as a message shows it. -/
def shownChar (c : Char) : List Char :=
  match c with
  | '"' => ['\\', '"']
  | '\\' => ['\\', '\\']
  | '\x00' => ['\\', '0']
  | '\t' => ['\\', 't']
  | '\n' => ['\\', 'n']
  | '\r' => ['\\', 'r']
  | c =>
    if isHidden c then ['\\', 'u', '\x7b'] ++ Nat.toDigits 16 c.toNat ++ ['\x7d'] else [c]

/-- A text as a message shows it. -/
def shown (text : String) : String :=
  String.ofList ('"' :: (text.toList.flatMap shownChar ++ ['"']))

end Tenancy.Text
