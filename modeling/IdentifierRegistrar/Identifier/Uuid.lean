import IdentifierRegistrar.Text.Cut
import IdentifierRegistrar.Text.Hex

/-!
Universally unique ids: 128-bit numbers of 32 hexadecimal digits, written in five groups. A text
may also give the digits without hyphens, or the groups in braces or after `urn:uuid:`. A text
that is none of these is examined for the first fault it has.
-/

namespace IdentifierRegistrar

abbrev Uuid := BitVec 128

namespace Uuid

inductive ParseError
  | length (found : Nat)
  /-- Offsets count bytes. -/
  | character (found : Char) (offset : Nat)
  | groupCount (found : Nat)
  | groupLength (group expected found : Nat)
  deriving DecidableEq, Repr

def ParseError.message : ParseError → String
  | length found => "invalid length: found " ++ toString found
  | character found offset =>
    "invalid character: found `" ++ String.singleton found ++ "` at " ++ toString offset
  | groupCount found => "invalid group count: expected 5, found " ++ toString found
  | groupLength group expected found =>
    "invalid group length in group " ++ toString group ++ ": expected " ++ toString expected
      ++ ", found " ++ toString found

def groupLengths : List Nat := [8, 4, 4, 4, 12]

def group : List Nat → List Char → List (List Char)
  | [], _ => []
  | n :: lengths, cs => cs.take n :: group lengths (cs.drop n)

def chars (u : Uuid) : List Char :=
  Text.join '-' (group groupLengths ((Radix.toDigits 16 32 u.toNat).map Hex.lower))

def text (u : Uuid) : String := String.ofList u.chars

def ofHex? (cs : List Char) : Option Uuid :=
  if cs.length = 32 then (cs.mapM Hex.digit?).map fun ds => BitVec.ofNat 128 (Radix.ofDigits 16 ds)
  else none

def ofHyphenated? (cs : List Char) : Option Uuid :=
  let groups := Text.split '-' cs
  if groups.map List.length = groupLengths then ofHex? groups.flatten else none

def byteLength (cs : List Char) : Nat := (String.ofList cs).utf8ByteSize

def braced? (cs : List Char) : Option (List Char) :=
  match cs with
  | '{' :: rest => if rest.getLast? = some '}' then some rest.dropLast else none
  | _ => none

/-- What follows `urn:uuid:`, in any case. -/
def urn? (cs : List Char) : Option (List Char) :=
  if (cs.take 9).map Char.toLower = "urn:uuid:".toList then some (cs.drop 9) else none

/-- The first character that no id holds, with its offset. -/
def stray? : (offset : Nat) → List Char → Option (Char × Nat)
  | _, [] => none
  | offset, c :: cs =>
    if Hex.isDigit c || c == '-' then stray? (offset + c.utf8Size) cs else some (c, offset)

/-- Where `c` stands in `cs`, counted from `start`. -/
def places (c : Char) : (start : Nat) → List Char → List Nat
  | _, [] => []
  | start, d :: cs => if d = c then start :: places c (start + 1) cs else places c (start + 1) cs

/-- The first group of a wrong length that a hyphen ends, as its index, its due length and its
length. Group `i` begins at `start`. -/
def wrongGroup? (i start : Nat) : (lengths places : List Nat) → Option (Nat × Nat × Nat)
  | n :: lengths, g :: places =>
    if g = start + n then wrongGroup? (i + 1) (start + n + 1) lengths places
    else some (i, n, g - start)
  | _, _ => none

/-- The fault of `cs`, of which `inner` is examined. -/
def fault (cs inner : List Char) (offset : Nat) (hyphenated : Bool) : ParseError :=
  match stray? offset inner with
  | some (c, offset) => .character c offset
  | none =>
    let found := places '-' 0 inner
    if found.isEmpty && !hyphenated then .length (byteLength cs)
    else if found.length ≠ 4 then .groupCount (found.length + 1)
    else
      match wrongGroup? 0 0 groupLengths found with
      | some (group, expected, found) => .groupLength group expected found
      | none => .groupLength 4 12 (byteLength cs - 24)

/-- The fault of a text of no known shape: braces and `urn:uuid:` are skipped, and still counted. -/
def faultOfAny (cs : List Char) : ParseError :=
  match braced? cs, urn? cs with
  | some inner, _ => fault cs inner 1 true
  | none, some inner => fault cs inner 9 true
  | none, none => fault cs cs 0 false

def parseHyphenated (cs : List Char) : Except ParseError Uuid :=
  match ofHyphenated? cs with
  | some u => .ok u
  | none => .error (fault cs cs 0 true)

def parseSimple (cs : List Char) : Except ParseError Uuid :=
  match ofHex? cs with
  | some u => .ok u
  | none => .error (faultOfAny cs)

/-- The shape is chosen by the length in bytes. -/
def parse (cs : List Char) : Except ParseError Uuid :=
  let bytes := byteLength cs
  if bytes = 0 ∨ 45 < bytes then .error (.length bytes)
  else if bytes = 32 then parseSimple cs
  else if bytes = 36 then parseHyphenated cs
  else
    match braced? cs, urn? cs with
    | some inner, _ => if bytes = 38 then parseHyphenated inner else .error (faultOfAny cs)
    | none, some inner => if bytes = 45 then parseHyphenated inner else .error (faultOfAny cs)
    | none, none => .error (faultOfAny cs)

end Uuid

end IdentifierRegistrar
