import IdentifierRegistrar.Agency.Call
import IdentifierRegistrar.Http.Exchange
import IdentifierRegistrar.Json.Parser

/-!
How the answers of an agency's server are taken. Without an answer, with an error of the server
or with too many requests the agency is unreachable and the call may be made again; any other
refusal is final. An answer that cannot be read may stand for a change that was made, so it too
counts as unreachable.
-/

namespace IdentifierRegistrar.Agency

abbrev Session := Program Http.interface AgencyError

/-- The texts of an error list: the title of each entry, or its detail if it has no title. -/
def errorTexts (errors : List Json) : List String :=
  errors.filterMap fun e => ((e.get? "title").or (e.get? "detail")).bind Json.string?

/-- What the body of a refusal says to people. -/
def rejectionMessage (body : String) : String :=
  let trimmed := Text.trim body
  match Json.parseWhole? body with
  | none => trimmed
  | some v =>
    match ((v.get? "errors").bind Json.items?).map errorTexts with
    | some (text :: texts) => "; ".intercalate (text :: texts)
    | _ => (["message", "error"].findSome? fun key => (v.get? key).bind Json.string?).getD trimmed

def statusError (status : Nat) (body : String) : AgencyError :=
  if Http.isServerError status ∨ status = Http.tooManyRequests then
    .unreachable (Http.statusText status ++ ": " ++ rejectionMessage body)
  else .rejected status (rejectionMessage body)

def send (q : Http.Request) : Session (Nat × Http.Body) := do
  match ← Program.request q with
  | Http.Reply.answer status body => return (status, body)
  | Http.Reply.timedOut => .fail (.unreachable ("timed out: " ++ q.url))
  | Http.Reply.refused => .fail (.unreachable ("connection failed: " ++ q.url))
  | Http.Reply.failed => .fail (.unreachable ("request failed: " ++ q.url))

/-- The body of a successful answer. A refusal whose body cannot be read is a refusal still. -/
def accept (answer : Nat × Http.Body) : Session Http.Body :=
  if Http.isSuccess answer.1 then .done answer.2
  else .fail (statusError answer.1 (answer.2.text?.getD ""))

def readBody {α : Type} (url : String) (read : Json.Decoder α) (body : Http.Body) : Session α :=
  match body.text? with
  | none => .fail (.unreachable ("failed to read body from " ++ url))
  | some text =>
    match (Json.parse? text).map read with
    | some (.ok a) => .done a
    | _ => .fail (.unreachable ("malformed response from " ++ url))

def userAgent : String := "pidreg/0.1.0"

def request (method : Http.Method) (url : String) (body : Option Json)
    (authorization : Option String) : Http.Request :=
  { method, url, body, authorization, contentType := some "application/json",
    userAgent := some userAgent }

end IdentifierRegistrar.Agency
