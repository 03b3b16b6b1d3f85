import IdentifierRegistrar.Json.Number
import IdentifierRegistrar.Text.Hex
import IdentifierRegistrar.Text.Utf8

/-!
Reading JSON text by its strict grammar: no byte order mark, no control character inside a
string, nothing but blanks after the value.
-/

namespace IdentifierRegistrar.Json

def isGap (c : Char) : Bool := c == ' ' || c == '\n' || c == '\t' || c == '\r'

def skipGap (cs : List Char) : List Char := cs.dropWhile isGap

def escape? : Char → Option Char
  | '"' => some '"'
  | '\\' => some '\\'
  | '/' => some '/'
  | 'b' => some '\x08'
  | 'f' => some '\x0c'
  | 'n' => some '\n'
  | 'r' => some '\r'
  | 't' => some '\t'
  | _ => none

/-- A string under way: the characters so far, latest first, the first half of a surrogate pair
that waits for its second, and whether every half has found its other. -/
structure Scan where
  done : List Char
  half : Option Nat
  whole : Bool

namespace Scan

def start : Scan := ⟨[], none, true⟩

def push (s : Scan) (c : Char) : Scan := ⟨c :: s.done, none, s.whole && s.half.isNone⟩

def unit (s : Scan) (n : Nat) : Scan :=
  if 0xD800 ≤ n ∧ n < 0xDC00 then ⟨s.done, some n, s.whole && s.half.isNone⟩
  else if 0xDC00 ≤ n ∧ n < 0xE000 then
    match s.half with
    | some high =>
      ⟨Char.ofNat (0x10000 + (high - 0xD800) * 0x400 + (n - 0xDC00)) :: s.done, none, s.whole⟩
    | none => ⟨s.done, none, false⟩
  else s.push (Char.ofNat n)

/-- Goes past what is no character. -/
def spoil (s : Scan) : Scan := ⟨s.done, none, false⟩

def text? (s : Scan) : Option String :=
  if s.whole && s.half.isNone then some (String.ofList s.done.reverse) else none

end Scan

/-- Stands for bytes that are no character: a NUL as such has no place in a JSON text. -/
def stray : Char := '\x00'

/-- The rest of a string whose opening quote is read: its text, if it is one, and what follows. -/
def readString (s : Scan) : List Char → Option (Option String × List Char)
  | [] => none
  | '"' :: rest => some (s.text?, rest)
  | '\\' :: 'u' :: a :: b :: c :: d :: rest =>
    match [a, b, c, d].mapM Hex.digit? with
    | some digits => readString (s.unit (Radix.ofDigits 16 digits)) rest
    | none => none
  | '\\' :: e :: rest =>
    match escape? e with
    | some c => readString (s.push c) rest
    | none => none
  | c :: rest =>
    if c = stray then readString s.spoil rest
    else if c.toNat < 0x20 then none
    else readString (s.push c) rest

def digits (cs : List Char) : List Char × List Char := cs.span Char.isDigit

/-- The digits before the point: a zero stands alone. -/
def whole? (cs : List Char) : Option (List Char × List Char) :=
  match digits cs with
  | ([], _) => none
  | ('0' :: _ :: _, _) => none
  | (ds, rest) => some (ds, rest)

def fraction? : List Char → Option (List Char × List Char)
  | '.' :: rest =>
    match digits rest with
    | ([], _) => none
    | (ds, rest) => some (ds, rest)
  | cs => some ([], cs)

def exponent? : List Char → Option (Option Int × List Char)
  | cs@(e :: rest) =>
    if e == 'e' || e == 'E' then
      let (negative, rest) :=
        match rest with
        | '-' :: rest => (true, rest)
        | '+' :: rest => (false, rest)
        | rest => (false, rest)
      match digits rest with
      | ([], _) => none
      | (ds, rest) =>
        let n : Int := Radix.ofDigits 10 (ds.map fun c => c.toNat - 48)
        some (some (if negative then -n else n), rest)
    else some (none, cs)
  | [] => some (none, [])

def readNumber (cs : List Char) : Option (Json × List Char) := do
  let (negative, cs) :=
    match cs with
    | '-' :: rest => (true, rest)
    | cs => (false, cs)
  let (ws, cs) ← whole? cs
  let (fs, cs) ← fraction? cs
  let (e, cs) ← exponent? cs
  let values (ds : List Char) := ds.map fun c => c.toNat - 48
  some (.number (JsonNumber.ofDigits negative (values ws) (values fs) e), cs)

mutual

/-- One value and what follows it. Each call takes one of `fuel`; twice the length of the text
and two more are enough. -/
def readValue : (fuel : Nat) → List Char → Option (Json × List Char)
  | 0, _ => none
  | fuel + 1, cs =>
    match skipGap cs with
    | '"' :: rest =>
      (readString Scan.start rest).map fun (s, rest) =>
        (match s with | some s => .string s | none => .unreadable, rest)
    | '[' :: rest =>
      match skipGap rest with
      | ']' :: rest => some (.array [], rest)
      | rest => readItems fuel [] rest
    | '{' :: rest =>
      match skipGap rest with
      | '}' :: rest => some (.object [], rest)
      | rest => readMembers fuel (some []) rest
    | 't' :: 'r' :: 'u' :: 'e' :: rest => some (.bool true, rest)
    | 'f' :: 'a' :: 'l' :: 's' :: 'e' :: rest => some (.bool false, rest)
    | 'n' :: 'u' :: 'l' :: 'l' :: rest => some (.null, rest)
    | rest => readNumber rest

/-- The items of an array from the next one on; `done` holds those before it, latest first. -/
def readItems : (fuel : Nat) → (done : List Json) → List Char → Option (Json × List Char)
  | 0, _, _ => none
  | fuel + 1, done, cs =>
    match readValue fuel cs with
    | none => none
    | some (item, rest) =>
      match skipGap rest with
      | ',' :: rest => readItems fuel (item :: done) rest
      | ']' :: rest => some (.array (item :: done).reverse, rest)
      | _ => none

/-- The members of an object from the next one on; `done` is lost once a key cannot be read. -/
def readMembers : (fuel : Nat) → (done : Option (List (String × Json))) → List Char →
    Option (Json × List Char)
  | 0, _, _ => none
  | fuel + 1, done, cs =>
    match skipGap cs with
    | '"' :: rest =>
      match readString Scan.start rest with
      | none => none
      | some (key, rest) =>
        match skipGap rest with
        | ':' :: rest =>
          match readValue fuel rest with
          | none => none
          | some (v, rest) =>
            let done := do some ((← key, v) :: (← done))
            match skipGap rest with
            | ',' :: rest => readMembers fuel done rest
            | '}' :: rest =>
              some (match done with | some ms => .object ms.reverse | none => .unreadable, rest)
            | _ => none
        | _ => none
    | _ => none

end

def readWhole? (cs : List Char) : Option Json :=
  match readValue (2 * cs.length + 2) cs with
  | some (v, rest) => if skipGap rest = [] then some v else none
  | none => none

def parse? (s : String) : Option Json :=
  if stray ∈ s.toList then none else readWhole? s.toList

/-- The value that the bytes are the text of. Those that are no character are let pass inside a
string that is skipped. -/
def parseBytes? (bytes : List UInt8) : Option Json :=
  if 0 ∈ bytes then none else readWhole? ((Utf8.decodeChars bytes).map (·.getD stray))

/-- The greatest nesting that a value held as a whole may have. -/
def greatestDepth : Nat := 127

def parseWhole? (s : String) : Option Json :=
  (parse? s).filter fun v => v.isReadable && v.depth ≤ greatestDepth

end IdentifierRegistrar.Json
