import IdentifierRegistrar.Host.Basic

/-!
Addresses of the web as they are parsed: what of a written address goes into the request. Blanks
around it are dropped, line feeds and tabs inside it too, a backslash counts as a slash, segments
of dots are resolved, and what the path may not hold is percent-encoded.
-/

namespace IdentifierRegistrar

structure Url where
  secure : Bool
  host : Host
  portNumber : Option Nat
  /-- The segments of the path, encoded. -/
  path : List String
  query : Option String
  deriving DecidableEq, Repr

namespace Url

/-- Space and the controls below it. -/
def isOuterGap (c : Char) : Bool := c.toNat ≤ 0x20

def isInnerGap (c : Char) : Bool := c == '\t' || c == '\n' || c == '\r'

def isSlash (c : Char) : Bool := c == '/' || c == '\\'

def encodeByte (b : UInt8) : List Char :=
  ['%', Hex.upper (b.toNat / 16), Hex.upper (b.toNat % 16)]

def encodeChar (reserved : Char → Bool) (c : Char) : List Char :=
  if reserved c then (String.utf8EncodeChar c).flatMap encodeByte else [c]

/-- Controls and all beyond ASCII. -/
def isForeign (c : Char) : Bool := c.toNat < 0x20 || 0x7F ≤ c.toNat

def reservedInPath (c : Char) : Bool := isForeign c || c ∈ " \"#<>?\x60\x7b\x7d".toList

def reservedInQuery (c : Char) : Bool := isForeign c || c ∈ " \"#<>'".toList

/-- A segment without its dots written as `%2e`. -/
def plainDots : List Char → List Char
  | '%' :: '2' :: e :: rest =>
    if e == 'e' || e == 'E' then '.' :: plainDots rest else '%' :: '2' :: e :: plainDots rest
  | c :: rest => c :: plainDots rest
  | [] => []

def isHere (segment : List Char) : Bool := plainDots segment == ['.']

def isParent (segment : List Char) : Bool := plainDots segment == ['.', '.']

/-- The segments of a path with dots resolved; `done` holds those before, latest first. -/
def resolve (done : List (List Char)) : List (List Char) → List (List Char)
  | [] => done.reverse
  | [last] =>
    if isParent last then ([] :: done.tail).reverse
    else if isHere last then ([] :: done).reverse
    else (last.flatMap (encodeChar reservedInPath) :: done).reverse
  | segment :: segments =>
    if isParent segment then resolve done.tail segments
    else if isHere segment then resolve done segments
    else resolve (segment.flatMap (encodeChar reservedInPath) :: done) segments

def readPath (cs : List Char) : List String :=
  let cs := cs.map fun c => if c = '\\' then '/' else c
  let cs := (Text.dropLead ['/'] cs).getD cs
  (resolve [] (Text.split '/' cs)).map String.ofList

/-- The text after the last `@`. -/
def dropUser (authority : List Char) : List Char :=
  (authority.reverse.takeWhile (· != '@')).reverse

/-- The text up to the first colon outside brackets, and the text from it on. -/
def cutHost (inside : Bool) : List Char → List Char × List Char
  | [] => ([], [])
  | c :: rest =>
    if c == ':' && !inside then ([], c :: rest)
    else
      let (host, rest) := cutHost (c == '[' || (inside && c != ']')) rest
      (c :: host, rest)

/-- The number after a colon; no digit at all stands for none. -/
def readPortNumber : List Char → Option (Option Nat)
  | ':' :: digits =>
    let n := Radix.ofDigits 10 (digits.map fun c => c.toNat - 48)
    if !digits.all Char.isDigit || 65536 ≤ n then none
    else if digits = [] then some none
    else some (some n)
  | _ => some none

def readAuthority (authority : List Char) : Option (Host × Option Nat) := do
  let (host, rest) := cutHost false (dropUser authority)
  return (← Host.parse? host, ← readPortNumber rest)

def dropScheme? (cs : List Char) : Option (Bool × List Char) :=
  let lower := cs.map Char.toLower
  if "https:".toList.isPrefixOf lower then some (true, cs.drop 6)
  else if "http:".toList.isPrefixOf lower then some (false, cs.drop 5)
  else none

/-- The parts of a written address of the web; none if it is no such address. -/
def parse? (s : String) : Option Url := do
  let cs := s.toList.dropWhile isOuterGap
  let cs := (cs.reverse.dropWhile isOuterGap).reverse.filter fun c => !isInnerGap c
  let (secure, cs) ← dropScheme? cs
  let cs := cs.dropWhile isSlash
  let (authority, cs) := cs.span fun c => !isSlash c && c != '?' && c != '#'
  let (host, portNumber) ← readAuthority authority
  let cs := cs.takeWhile (· != '#')
  let (path, query) := cs.span (· != '?')
  let query :=
    match query with
    | [] => none
    | _ :: query => some (String.ofList (query.flatMap (encodeChar reservedInQuery)))
  return ⟨secure, host, portNumber, readPath path, query⟩

def target (u : Url) : String :=
  "/" ++ "/".intercalate u.path ++ (u.query.map ("?" ++ ·)).getD ""

end Url

end IdentifierRegistrar
