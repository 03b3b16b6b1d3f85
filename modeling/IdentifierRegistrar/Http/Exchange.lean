import IdentifierRegistrar.Http.Status
import IdentifierRegistrar.Http.Url
import IdentifierRegistrar.Json.Printer
import IdentifierRegistrar.Program
import IdentifierRegistrar.Text.Utf8

/-!
Requests over HTTP and what comes back: an answer, whose body may break off, or none at all. A
request to what is no address is never sent. A request and its reply are one call of an HTTP client;
redirections that the client follows by itself happen within that call.
-/

namespace IdentifierRegistrar.Http

inductive Method
  | get
  | post
  | put
  | delete
  deriving DecidableEq, Repr

def Method.name : Method → String
  | get => "GET"
  | post => "POST"
  | put => "PUT"
  | delete => "DELETE"

structure Request where
  method : Method
  /-- The address as it was written. -/
  url : String
  body : Option Json
  authorization : Option String
  contentType : Option String
  userAgent : Option String

def Request.target? (q : Request) : Option String := (Url.parse? q.url).map Url.target

inductive Body
  | whole (bytes : List UInt8)
  /-- The connection ended before the announced length. -/
  | cut
  deriving DecidableEq, Repr

/-- The text of a body, bytes that are not UTF-8 replaced. -/
def Body.text? : Body → Option String
  | whole bytes => some (Utf8.decode bytes)
  | cut => none

/-- What one call of the client's `send` comes to, redirections that it follows included: its answer is the
last of theirs. -/
inductive Reply
  | answer (status : Nat) (body : Body)
  | timedOut
  /-- No connection was made. -/
  | refused
  /-- The request could not be sent, or the connection was closed without an answer. -/
  | failed
  deriving DecidableEq, Repr

/-- The client that takes requests, one `send` for each. -/
def interface : Interface := ⟨Request, fun _ => Reply⟩

/-- Sends what has an address to `serve`; all else fails at once. -/
def deliver {σ : Type} (serve : Request → σ → Reply × σ) : Answerer interface σ :=
  fun q s => if (Url.parse? q.url).isSome then serve q s else (.failed, s)

end IdentifierRegistrar.Http
