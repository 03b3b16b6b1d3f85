import IdentifierRegistrar.Identifier.Error

/-!
Identifier values: `doi:REGISTRANT/SUFFIX` and `dark:/PREFIX/SUFFIX`. A value carries the proof
that its text has the shape of its scheme, so every value in hand splits into its parts.
-/

namespace IdentifierRegistrar

/-- The registrant and the suffix of a DOI name, cut at the first slash; neither is empty. -/
def doiParts? (name : List Char) : Option (List Char × List Char) :=
  match Text.cutFirst '/' name with
  | some (registrant, suffix) =>
    if registrant = [] ∨ suffix = [] then none else some (registrant, suffix)
  | none => none

/-- The two parts of what follows `dark:/`: the first is as long as can be, neither is empty, and
neither holds a line feed. -/
def arkParts? (body : List Char) : Option (List Char × List Char) :=
  if '\n' ∈ body then none
  else
    match Text.cutLast '/' body with
    | some (first, second) => if first = [] then none else some (first, second)
    | none => none

def Scheme.accepts : Scheme → List Char → Bool
  | doi, cs => ((Text.dropLead "doi:".toList cs).bind doiParts?).isSome
  | dark, cs => ((Text.dropLead "dark:/".toList cs).bind arkParts?).isSome

structure IdentifierValue where
  scheme : Scheme
  text : String
  accepted : scheme.accepts text.toList = true
  deriving DecidableEq, Repr

namespace IdentifierValue

def ofText (scheme : Scheme) (s : String) : Except IdError IdentifierValue :=
  if h : scheme.accepts s.toList = true then .ok ⟨scheme, s, h⟩ else .error (.malformed scheme s)

/-- The scheme is chosen by what the text begins with. -/
def parse (s : String) : Except IdError IdentifierValue :=
  if s.isEmpty then .error .empty
  else
    match Scheme.all.find? fun scheme => scheme.lead.toList.isPrefixOf s.toList with
    | some scheme => ofText scheme s
    | none => .error (.unknownScheme s)

def ofDoiName (name : String) : Except IdError IdentifierValue := parse (Scheme.doi.lead ++ name)

def ofArk (first second : String) : Except IdError IdentifierValue :=
  parse (Scheme.dark.lead ++ "/" ++ first ++ "/" ++ second)

def doiName? (v : IdentifierValue) : Option String :=
  match v.scheme with
  | .doi => (Text.dropLead "doi:".toList v.text.toList).map String.ofList
  | .dark => none

def arkParts? (v : IdentifierValue) : Option (String × String) :=
  match v.scheme with
  | .doi => none
  | .dark =>
    ((Text.dropLead "dark:/".toList v.text.toList).bind IdentifierRegistrar.arkParts?).map
      fun (first, second) => (String.ofList first, String.ofList second)

/-- Values are ordered by scheme, then by the code points of the text. -/
def le (a b : IdentifierValue) : Bool :=
  if a.scheme = b.scheme then !(b.text < a.text) else a.scheme.index ≤ b.scheme.index

end IdentifierValue

end IdentifierRegistrar
