import IdentifierRegistrar.Text.Hidden

/-!
A text in quotes for people to read: quotes, backslashes and the usual controls are escaped, and
so is every character that would not be seen or would join its neighbour.
-/

namespace IdentifierRegistrar.Text

def quotedChar (c : Char) : List Char :=
  match c with
  | '"' => ['\\', '"']
  | '\\' => ['\\', '\\']
  | '\x00' => ['\\', '0']
  | '\t' => ['\\', 't']
  | '\n' => ['\\', 'n']
  | '\r' => ['\\', 'r']
  | c => if isHidden c then '\\' :: 'u' :: '\x7b' :: Nat.toDigits 16 c.toNat ++ ['\x7d'] else [c]

def quoted (s : String) : String := String.ofList ('"' :: s.toList.flatMap quotedChar ++ ['"'])

end IdentifierRegistrar.Text
