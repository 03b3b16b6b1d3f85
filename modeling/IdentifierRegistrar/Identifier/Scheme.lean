/-! The two identifier schemes, DOI first. -/

namespace IdentifierRegistrar

inductive Scheme
  | doi
  | dark
  deriving DecidableEq, Repr

namespace Scheme

/-- All schemes, in the order in which they are shown and sorted. -/
def all : List Scheme := [doi, dark]

def tag : Scheme → String
  | doi => "doi"
  | dark => "dark"

def ofTag? (tag : String) : Option Scheme := all.find? (·.tag == tag)

def lead : Scheme → String
  | doi => "doi:"
  | dark => "dark:"

def label : Scheme → String
  | doi => "DOI"
  | dark => "dArk PID"

def index : Scheme → Nat
  | doi => 0
  | dark => 1

theorem ofTag?_tag (s : Scheme) : ofTag? s.tag = some s := by cases s <;> decide

end Scheme

end IdentifierRegistrar
