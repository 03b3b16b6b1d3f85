import IdentifierRegistrar.Json.Basic
import IdentifierRegistrar.Text.Hex

/-! Writing JSON text: compact, in ASCII, the members in their order. -/

namespace IdentifierRegistrar.Json

def hex4 (n : Nat) : List Char := '\\' :: 'u' :: (Radix.toDigits 16 4 n).map Hex.lower

/-- A character inside a string; beyond ASCII as one or two units of 16 bits. -/
def charText (c : Char) : List Char :=
  let n := c.toNat
  if c = '"' then ['\\', '"']
  else if c = '\\' then ['\\', '\\']
  else if 0x20 ≤ n ∧ n < 0x7F then [c]
  else if n < 0x10000 then hex4 n
  else hex4 (0xD800 + (n - 0x10000) / 0x400) ++ hex4 (0xDC00 + (n - 0x10000) % 0x400)

def stringText (s : String) : List Char := '"' :: s.toList.flatMap charText ++ ['"']

mutual

def chars : Json → List Char
  | null => "null".toList
  | bool b => (toString b).toList
  | number n => n.text.toList
  | string s => stringText s
  | array [] => ['[', ']']
  | array (item :: items) => '[' :: chars item ++ itemsText items
  | object [] => ['\x7b', '\x7d']
  | object ((key, value) :: members) =>
    '\x7b' :: stringText key ++ ':' :: chars value ++ membersText members
  | unreadable => "null".toList

def itemsText : List Json → List Char
  | [] => [']']
  | item :: items => ',' :: chars item ++ itemsText items

def membersText : List (String × Json) → List Char
  | [] => ['\x7d']
  | (key, value) :: members => ',' :: stringText key ++ ':' :: chars value ++ membersText members

end

def render (v : Json) : String := String.ofList v.chars

end IdentifierRegistrar.Json
