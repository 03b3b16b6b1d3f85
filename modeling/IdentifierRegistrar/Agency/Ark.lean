import IdentifierRegistrar.Agency.Fault

/-!
The dArk service. It hands out arks and takes metadata and a landing page for each; it has no
drafts, deletes nothing and answers no questions.
-/

namespace IdentifierRegistrar.Agency

structure ArkService where
  base : String
  repository : String
  deriving DecidableEq, Repr

namespace ArkService

def ofAddress (address repository : String) : ArkService := ⟨Text.dropSlashes address, repository⟩

def readArk : Json.Decoder String := fun v => do
  let shape : Json.RecordShape (Option String) :=
    ⟨"NewArkResponse", ["ark"], [], fun _ v _ => do return some (← Json.asString v)⟩
  Json.required "ark" (← shape.read none v)

def createNew (service : ArkService) : Session String := do
  let url := service.base ++ "/core/new"
  let body ← accept (← send (request .post url (some (.object [])) none))
  let ark ← readBody url readArk body
  if Text.isBlank ark then .fail (.unreachable ("empty ark in response from " ++ url))
  else return ark

def setUrl (service : ArkService) (value : IdentifierValue) : Session String :=
  match value.arkParts? with
  | some (_, ark) => .done (service.base ++ "/core/set/" ++ service.repository ++ "/" ++ ark)
  | none => .fail (.malformedValue (.malformed .dark value.text))

def set (service : ArkService) (value : IdentifierValue) (body : Json) : Session Unit := do
  let url ← service.setUrl value
  let _ ← accept (← send (request .post url (some body) none))
  return ()

def metadataBody (p : Payload) : Json :=
  .object [("payload", .ofPresent [
    ("author", p.author.map .string),
    ("title", p.title.map .string),
    ("year", p.year.map .string),
    ("url", p.url.map .string),
    ("darkId", some (.string p.identifier.text))])]

def setMetadata (service : ArkService) (p : Payload) : Session Unit :=
  service.set p.identifier (metadataBody p)

def setLandingPage (service : ArkService) (value : IdentifierValue) (page : String) :
    Session Unit :=
  service.set value (.object [("external_url", .string page)])

/-- The value of an ark that was handed out. An ark that brings its first part keeps it. -/
def valueOfArk (service : ArkService) (ark : String) : Except IdError IdentifierValue :=
  let cs := (Text.trimChars ark.toList).dropWhile (· == '/')
  if '/' ∈ cs then IdentifierValue.parse (Scheme.dark.lead ++ "/" ++ String.ofList cs)
  else IdentifierValue.ofArk service.repository (String.ofList cs)

def mint (service : ArkService) : Session IdentifierValue := do
  let ark ← service.createNew
  Program.ofExcept ((service.valueOfArk ark).mapError .malformedValue)

/-- Registering adds the landing page, if there is one; deleting is left to the record. -/
def change (service : ArkService) : Change → Session Unit
  | .reserve p | .updateMetadata p => service.setMetadata p
  | .register p => do
    service.setMetadata p
    match p.landingPage with
    | some page => service.setLandingPage p.identifier page
    | none => return ()
  | .delete _ => return ()

end ArkService

end IdentifierRegistrar.Agency
