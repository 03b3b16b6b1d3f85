import IdentifierRegistrar.Agency.Fault
import IdentifierRegistrar.Agency.Minter
import IdentifierRegistrar.Text.Base64

/-!
DOI agencies. A DOI is a draft until it is published; a draft can be removed, a public DOI can
only be hidden. Deleting asks for the state first, so a public DOI is never sent a removal.
-/

namespace IdentifierRegistrar.Agency

inductive DoiState
  | draft
  | registered
  | findable
  | unknown
  deriving DecidableEq, Repr

namespace DoiState

def tag : DoiState → String
  | draft => "draft"
  | registered => "registered"
  | findable => "findable"
  | unknown => "unknown"

/-- Every other word is a state that this registrar does not know. -/
def ofTag (tag : String) : DoiState :=
  ([draft, registered, findable].find? (·.tag == tag)).getD unknown

end DoiState

inductive DoiEvent
  | publish
  | hide
  deriving DecidableEq, Repr

def DoiEvent.tag : DoiEvent → String
  | publish => "publish"
  | hide => "hide"

structure DoiService where
  base : String
  credentials : Option (String × Option String)
  deriving DecidableEq, Repr

namespace DoiService

/-- A password without a name is not used. -/
def ofAddress (address : String) (name password : Option String) : DoiService :=
  ⟨Text.dropSlashes address, name.map (·, password)⟩

def url (service : DoiService) (doi : String) : String := service.base ++ "/dois/" ++ doi

def authorization (service : DoiService) : Option String :=
  service.credentials.map fun (name, password) =>
    let bytes := (name ++ ":" ++ password.getD "").toUTF8.toList
    "Basic " ++ String.ofList (Base64.encode bytes)

def request (service : DoiService) (method : Http.Method) (doi : String) (body : Option Json) :
    Http.Request :=
  Agency.request method (service.url doi) body service.authorization

def document (attributes : Json) : Json :=
  .object [("data", .object [("type", .string "dois"), ("attributes", attributes)])]

/-- The landing page goes before the address in the metadata. -/
def attributes (doi : String) (p : Payload) (event : Option DoiEvent) : Json :=
  let named (key text : String) : Json := .array [.object [(key, .string text)]]
  .ofPresent [
    ("doi", some (.string doi)),
    ("event", event.map fun e => .string e.tag),
    ("url", (p.landingPage.or p.url).map .string),
    ("titles", p.title.map (named "title")),
    ("creators", p.author.map (named "name")),
    ("publicationYear", p.year.map .string)]

def put (service : DoiService) (doi : String) (p : Payload) (event : Option DoiEvent) :
    Session Unit := do
  let _ ← accept (← send (service.request .put doi (some (document (attributes doi p event)))))
  return ()

def sendEvent (service : DoiService) (doi : String) (event : DoiEvent) : Session Unit := do
  let body := document (.object [("doi", .string doi), ("event", .string event.tag)])
  let _ ← accept (← send (service.request .put doi (some body)))
  return ()

/-- Removes a draft. One that is not there counts as removed. -/
def remove (service : DoiService) (doi : String) : Session Unit := do
  let answer ← send (service.request .delete doi none)
  if answer.1 = Http.notFound then return ()
  else
    let _ ← accept answer
    return ()

def readState : Json.Decoder DoiState := fun v => do
  let nested {α : Type} (name key : String) (read : Json.Decoder α) : Json.Decoder α := fun v => do
    let shape : Json.RecordShape (Option α) :=
      ⟨name, [key], [], fun _ v _ => do return some (← read v)⟩
    Json.required key (← shape.read none v)
  let state := Json.asChoice [] fun tag => some (DoiState.ofTag tag)
  nested "StateDocument" "data"
    (nested "StateData" "attributes" (nested "StateAttributes" "state" state)) v

def state? (service : DoiService) (doi : String) : Session (Option DoiState) := do
  let answer ← send (service.request .get doi none)
  if answer.1 = Http.notFound then return none
  else
    let body ← accept answer
    return some (← readBody (service.url doi) readState body)

def nameOf (value : IdentifierValue) : Session String :=
  match value.doiName? with
  | some name => .done name
  | none => .fail (.malformedValue (.malformed .doi value.text))

/-- Reserving keeps a draft, registering publishes. -/
def change (service : DoiService) : Change → Session Unit
  | .reserve p | .updateMetadata p => do service.put (← nameOf p.identifier) p none
  | .register p => do service.put (← nameOf p.identifier) p (some .publish)
  | .delete v => do
    let name ← nameOf v
    match ← service.state? name with
    | none => return ()
    | some .draft => service.remove name
    | some _ => service.sendEvent name .hide

def isReserved (service : DoiService) (value : IdentifierValue) : Session Bool := do
  return (← service.state? (← nameOf value)) == some .draft

def isRegistered (service : DoiService) (value : IdentifierValue) : Session Bool := do
  let state ← service.state? (← nameOf value)
  return state == some .registered || state == some .findable

end DoiService

end IdentifierRegistrar.Agency
