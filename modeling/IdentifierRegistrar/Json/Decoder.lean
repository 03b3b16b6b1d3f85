import IdentifierRegistrar.Json.Basic
import IdentifierRegistrar.Text.Quoted

/-!
Reading a JSON value as a thing of a known shape. A record may be given as an object, whose
unknown members are skipped, or as an array of its fields in order; a choice among names as a
string or as an object with that single key and nothing in it. The first part that does not fit
is reported.
-/

namespace IdentifierRegistrar.Json

inductive Mismatch
  | kind (found wanted : String)
  | choice (found : String) (choices : List String)
  | notSingleKey
  | missing (field : String)
  | duplicate (field : String)
  | length (found : Nat) (wanted : String)
  /-- The shape fits and the content does not. -/
  | content (message : String)
  deriving DecidableEq, Repr

namespace Mismatch

def ticked (s : String) : String := "`" ++ s ++ "`"

def listed : List String → String
  | [] => "there are no variants"
  | [a] => "expected " ++ ticked a
  | [a, b] => "expected " ++ ticked a ++ " or " ++ ticked b
  | choices => "expected one of " ++ ", ".intercalate (choices.map ticked)

def message : Mismatch → String
  | kind found wanted => "invalid type: " ++ found ++ ", expected " ++ wanted
  | choice found [] => "unknown variant " ++ ticked found ++ ", there are no variants"
  | choice found choices => "unknown variant " ++ ticked found ++ ", " ++ listed choices
  | notSingleKey => "invalid value: map, expected map with a single key"
  | missing field => "missing field " ++ ticked field
  | duplicate field => "duplicate field " ++ ticked field
  | length found wanted => "invalid length " ++ toString found ++ ", expected " ++ wanted
  | content message => message

end Mismatch

def kindText : Json → String
  | null => "null"
  | bool b => "boolean " ++ Mismatch.ticked (toString b)
  | number n =>
    match n with
    | .whole _ => "integer " ++ Mismatch.ticked n.text
    | _ => "floating point " ++ Mismatch.ticked n.text
  | string s => "string " ++ Text.quoted s
  | array _ => "sequence"
  | object _ => "map"
  | unreadable => "null"

abbrev Decoder (α : Type) := Json → Except Mismatch α

def asString : Decoder String
  | string s => .ok s
  | v => .error (.kind v.kindText "a string")

def asOption {α : Type} (read : Decoder α) : Decoder (Option α)
  | null => .ok none
  | v => (read v).map some

def asList {α : Type} (read : Decoder α) : Decoder (List α)
  | array items => items.mapM read
  | v => .error (.kind v.kindText "a sequence")

/-- A map from keys to values, ordered by key; the last of a repeated key counts. -/
def asMap {α : Type} (read : Decoder α) : Decoder (List (String × α))
  | object members => do
    let read ← members.mapM fun (key, v) => do return (key, ← read v)
    return read.foldl (fun placed (key, v) => place key v placed) []
  | v => .error (.kind v.kindText "a map")
where
  place (key : String) (v : α) : List (String × α) → List (String × α)
    | [] => [(key, v)]
    | (k, w) :: rest =>
      if key = k then (key, v) :: rest
      else if key < k then (key, v) :: (k, w) :: rest
      else (k, w) :: place key v rest

def asChoice {α : Type} (choices : List String) (choose : String → Option α) : Decoder α
  | string s => pick s
  | object [(key, v)] => do
    let a ← pick key
    match v with
    | null => return a
    | v => throw (.kind v.kindText "unit")
  | object _ => .error .notSingleKey
  | v => .error (.kind v.kindText "string or map")
where
  pick (s : String) : Except Mismatch α :=
    match choose s with
    | some a => .ok a
    | none => .error (.choice s choices)

/-- A record under construction: its name, its fields in order, the fields that an array may
leave out, and what each field's value does to the record so far. -/
structure RecordShape (σ : Type) where
  name : String
  fields : List String
  optional : List String
  set : String → Json → σ → Except Mismatch σ

namespace RecordShape

variable {σ : Type}

/-- The members of an object, in order; `seen` are the fields that have a value. -/
def readMembers (shape : RecordShape σ) : (seen : List String) → List (String × Json) → σ →
    Except Mismatch σ
  | _, [], s => .ok s
  | seen, (key, v) :: members, s =>
    if key ∈ shape.fields then
      if key ∈ seen then .error (.duplicate key)
      else do shape.readMembers (key :: seen) members (← shape.set key v s)
    else shape.readMembers seen members s

/-- The items of an array, the one at `index` first, for the fields that are left. -/
def readItems (shape : RecordShape σ) (count index : Nat) : (fields : List String) → List Json →
    σ → Except Mismatch σ
  | [], [], s => .ok s
  | [], _ :: _, _ => .error (.length count "fewer elements in array")
  | field :: fields, [], s =>
    if field ∈ shape.optional then shape.readItems count (index + 1) fields [] s
    else
      .error (.length index ("struct " ++ shape.name ++ " with " ++ toString shape.fields.length
        ++ " elements"))
  | field :: fields, item :: items, s => do
    shape.readItems count (index + 1) fields items (← shape.set field item s)

def read (shape : RecordShape σ) (start : σ) : Decoder σ
  | object members => shape.readMembers [] members start
  | array items => shape.readItems items.length 0 shape.fields items start
  | v => .error (.kind v.kindText ("struct " ++ shape.name))

end RecordShape

def required {α : Type} (field : String) : Option α → Except Mismatch α
  | some a => .ok a
  | none => .error (.missing field)

end IdentifierRegistrar.Json
