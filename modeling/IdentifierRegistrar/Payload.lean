import IdentifierRegistrar.Identifier.Value
import IdentifierRegistrar.Resource
import IdentifierRegistrar.Text.Blank

/-!
What is sent to a registry about a resource. Of the resource's metadata only the fields that
registries can carry and the deployment has asked for are sent, each with its first value.
-/

namespace IdentifierRegistrar

namespace MetadataField

def author : String := "dc.contributor.author"

def title : String := "dc.title"

def uri : String := "dc.identifier.uri"

def issued : String := "dc.date.issued"

def allowed : List String := [author, title, uri, issued]

end MetadataField

/-- Names in ascending order, each once. -/
def insertName (name : String) : List String → List String
  | [] => [name]
  | n :: names =>
    if name = n then n :: names
    else if name < n then name :: n :: names
    else n :: insertName name names

def sortNames (names : List String) : List String := names.foldr insertName []

/-- What a deployment releases: the fields it asks for, and where its public pages are. -/
structure ReleasePolicy where
  requested : List String
  uiBase : Option String
  deriving DecidableEq, Repr

namespace ReleasePolicy

def standard : ReleasePolicy := ⟨sortNames MetadataField.allowed, none⟩

/-- The names of a list with commas, trimmed, the blank ones left out. -/
def namesOf (list : String) : List String :=
  ((Text.split ',' list.toList).map Text.trimChars).filter (· ≠ []) |>.map String.ofList

def requesting (policy : ReleasePolicy) (list : String) : ReleasePolicy :=
  { policy with requested := sortNames (namesOf list) }

def sends (policy : ReleasePolicy) (field : String) : Bool :=
  field ∈ MetadataField.allowed && field ∈ policy.requested

end ReleasePolicy

structure Payload where
  identifier : IdentifierValue
  author : Option String
  title : Option String
  year : Option String
  url : Option String
  /-- The public page of the resource. -/
  landingPage : Option String
  deriving DecidableEq, Repr

namespace Payload

def bare (identifier : IdentifierValue) : Payload := ⟨identifier, none, none, none, none, none⟩

/-- The first four bytes of a date, if they are digits; a text without them is kept whole. -/
def yearOf (issued : String) : String :=
  match Text.takeBytes? 4 issued.toList with
  | some lead =>
    if (lead.flatMap String.utf8EncodeChar).all fun b => 0x30 ≤ b && b ≤ 0x39 then String.ofList lead
    else issued
  | none => issued

def pageOf (base handle : String) : String := Text.dropSlashes base ++ "/" ++ handle

def build (identifier : IdentifierValue) (resource : Resource) (policy : ReleasePolicy) : Payload :=
  let field (name : String) := if policy.sends name then resource.firstValue? name else none
  { identifier
    author := field MetadataField.author
    title := field MetadataField.title
    year := (field MetadataField.issued).map yearOf
    url := field MetadataField.uri
    landingPage := do return pageOf (← policy.uiBase) (← resource.handle) }

def toJson (p : Payload) : Json :=
  .ofPresent [
    ("identifier", some (.string p.identifier.text)),
    ("author", p.author.map .string),
    ("title", p.title.map .string),
    ("year", p.year.map .string),
    ("url", p.url.map .string),
    ("landing_page", p.landingPage.map .string)]

end Payload

end IdentifierRegistrar
