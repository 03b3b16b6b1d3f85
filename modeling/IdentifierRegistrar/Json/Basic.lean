import IdentifierRegistrar.Number.Binary64

/-!
JSON values. An object keeps its members in the order in which they are written, repeated keys
included. A part of a text that follows the grammar and that no reader can hold (a string with
half a surrogate pair, an object with such a key) is kept as `unreadable`: whoever skips it does
not mind.
-/

namespace IdentifierRegistrar

/-- A number: whole if it is written as one and fits 64 bits, signed or unsigned. -/
inductive JsonNumber
  | whole (n : Int)
  | fraction (x : Binary64)
  /-- Beyond the largest binary number. -/
  | infinite
  deriving DecidableEq, Repr

namespace JsonNumber

/-- Fractions are written positionally from five zeros after the point up to 16 digits before it. -/
def fractionStyle : NumberStyle := ⟨-5, 15, false, 1, true⟩

/-- The text of a number; a fraction has the fewest digits that are nearest to it. -/
def text : JsonNumber → String
  | whole n => toString n
  | fraction x => fractionStyle.render x.negative x.shortest
  | infinite => "null"

def toInt? : JsonNumber → Option Int
  | whole n => some n
  | _ => none

end JsonNumber

inductive Json
  | null
  | bool (b : Bool)
  | number (n : JsonNumber)
  | string (s : String)
  | array (items : List Json)
  | object (members : List (String × Json))
  | unreadable

namespace Json

def int (n : Int) : Json := number (.whole n)

/-- The member with the given key; of several the last one counts. -/
def get? (key : String) : Json → Option Json
  | object members => (members.reverse.find? (·.1 == key)).map (·.2)
  | _ => none

def string? : Json → Option String
  | string s => some s
  | _ => none

def items? : Json → Option (List Json)
  | array items => some items
  | _ => none

def ofPresent (members : List (String × Option Json)) : Json :=
  object (members.filterMap fun (key, value) => value.map (key, ·))

mutual

def depth : Json → Nat
  | array items => depthOfItems items + 1
  | object members => depthOfMembers members + 1
  | _ => 0

def depthOfItems : List Json → Nat
  | [] => 0
  | item :: items => max (depth item) (depthOfItems items)

def depthOfMembers : List (String × Json) → Nat
  | [] => 0
  | (_, value) :: members => max (depth value) (depthOfMembers members)

end

mutual

/-- Nothing in the value is unreadable, and none of its numbers is beyond the largest. -/
def isReadable : Json → Bool
  | unreadable => false
  | number n => n != .infinite
  | array items => itemsReadable items
  | object members => membersReadable members
  | _ => true

def itemsReadable : List Json → Bool
  | [] => true
  | item :: items => isReadable item && itemsReadable items

def membersReadable : List (String × Json) → Bool
  | [] => true
  | (_, value) :: members => isReadable value && membersReadable members

end

/-- Puts a member into a list ordered by key; a member of that key is replaced. -/
def insertMember (key : String) (value : Json) : List (String × Json) → List (String × Json)
  | [] => [(key, value)]
  | (k, v) :: members =>
    if key = k then (key, value) :: members
    else if key < k then (key, value) :: (k, v) :: members
    else (k, v) :: insertMember key value members

mutual

/-- The value with the members of every object ordered by key, the last of a repeated key kept. -/
def canonical : Json → Json
  | array items => array (canonicalItems items)
  | object members => object (canonicalMembers members [])
  | v => v

def canonicalItems : List Json → List Json
  | [] => []
  | item :: items => canonical item :: canonicalItems items

def canonicalMembers : List (String × Json) → List (String × Json) → List (String × Json)
  | [], placed => placed
  | (key, value) :: members, placed =>
    canonicalMembers members (insertMember key (canonical value) placed)

end

end Json

end IdentifierRegistrar
