import IdentifierRegistrar.Agency.Connector
import IdentifierRegistrar.Number.Word

/-!
Settings, read from named texts. A blank text counts as none. An enabled provider needs an
address and the first part of its values; a disabled one has its values minted here.
-/

namespace IdentifierRegistrar

inductive ConfigError
  | missing (key : String)
  | invalid (key value : String)
  deriving DecidableEq, Repr

def ConfigError.message : ConfigError → String
  | missing key => key ++ " must be set"
  | invalid key value => "invalid value for " ++ key ++ ": '" ++ value ++ "'"

structure DarkSettings where
  enabled : Bool
  address : Option String
  repository : String
  deriving DecidableEq, Repr

structure DoiSettings where
  enabled : Bool
  address : Option String
  registrant : String
  separator : String
  username : Option String
  password : Option String
  deriving DecidableEq, Repr

structure Config where
  databasePath : String
  logLevel : String
  sweepSeconds : Nat
  timeoutSeconds : Nat
  repositoryApi : Option String
  policy : ReleasePolicy
  dark : DarkSettings
  doi : DoiSettings
  deriving DecidableEq, Repr

namespace Config

/-- A decimal number of 64 bits, a plus sign allowed before it. -/
def readWord (cs : List Char) : Option Nat :=
  let digits := (Text.dropLead ['+'] cs).getD cs
  if digits = [] ∨ !digits.all Char.isDigit then none
  else
    let n := Radix.ofDigits 10 (digits.map fun c => c.toNat - 48)
    if n < Word.count then some n else none

def readSeconds (key : String) (value : Option String) (standard : Nat) : Except ConfigError Nat :=
  match value with
  | none => .ok standard
  | some text =>
    match readWord (Text.trimChars text.toList) with
    | some (n + 1) => .ok (n + 1)
    | _ => .error (.invalid key text)

def readFlag (key : String) (value : Option String) : Except ConfigError Bool :=
  match value with
  | none => .ok false
  | some text =>
    let word := String.ofList ((Text.trimChars text.toList).map Char.toLower)
    if word ∈ ["1", "true", "yes"] then .ok true
    else if word ∈ ["0", "false", "no"] then .ok false
    else .error (.invalid key text)

def readAddress (enabled : Bool) (key : String) (value : Option String) :
    Except ConfigError (Option String) :=
  if enabled && value.isNone then .error (.missing key) else .ok value

/-- A text that has to be there if `enabled`, and has a standard value otherwise. -/
def readPart (enabled : Bool) (key : String) (value : Option String) (standard : String) :
    Except ConfigError String :=
  match value with
  | some text => .ok text
  | none => if enabled then .error (.missing key) else .ok standard

def readPolicy (requested uiBase : Option String) : ReleasePolicy :=
  let policy := (requested.map ReleasePolicy.standard.requesting).getD .standard
  { policy with uiBase := uiBase.or policy.uiBase }

def readDark (get : String → Option String) : Except ConfigError DarkSettings := do
  let enabled ← readFlag "PIDREG_DARK_ENABLED" (get "PIDREG_DARK_ENABLED")
  let address ← readAddress enabled "PIDREG_DARK_BASE_URL" (get "PIDREG_DARK_BASE_URL")
  let repository ←
    readPart enabled "PIDREG_DARK_REPO_PREFIX" (get "PIDREG_DARK_REPO_PREFIX") "local"
  return { enabled, address, repository }

def readDoi (get : String → Option String) : Except ConfigError DoiSettings := do
  let enabled ← readFlag "PIDREG_DOI_ENABLED" (get "PIDREG_DOI_ENABLED")
  let address ← readAddress enabled "PIDREG_DOI_BASE_URL" (get "PIDREG_DOI_BASE_URL")
  let registrant ← readPart enabled "PIDREG_DOI_PREFIX" (get "PIDREG_DOI_PREFIX") "10.5072"
  return {
    enabled, address, registrant
    separator := (get "PIDREG_DOI_NAMESPACE_SEPARATOR").getD ""
    username := get "PIDREG_DOI_USERNAME"
    password := get "PIDREG_DOI_PASSWORD" }

def read (lookup : String → Option String) : Except ConfigError Config := do
  let get (key : String) := (lookup key).filter fun text => !Text.isBlank text
  let sweepSeconds ←
    readSeconds "PIDREG_SWEEP_INTERVAL_SECS" (get "PIDREG_SWEEP_INTERVAL_SECS") 60
  let timeoutSeconds ←
    readSeconds "PIDREG_HTTP_TIMEOUT_SECS" (get "PIDREG_HTTP_TIMEOUT_SECS") 10
  let dark ← readDark get
  let doi ← readDoi get
  return {
    databasePath := (get "PIDREG_DB_PATH").getD "pidreg.db"
    logLevel := (get "PIDREG_LOG_LEVEL").getD "info"
    sweepSeconds, timeoutSeconds
    repositoryApi := get "PIDREG_REPOSITORY_API_URL"
    policy := readPolicy (get "PIDREG_SEND_METADATA") (get "PIDREG_UI_URL")
    dark, doi }

def darkConnector (s : DarkSettings) : Connector :=
  match s.enabled, s.address with
  | true, some address => .ark (.ofAddress address s.repository)
  | _, _ => .offline (.dark s.repository)

def doiConnector (s : DoiSettings) : Connector :=
  match s.enabled, s.address with
  | true, some address =>
    .doi (.ofAddress address s.username s.password) s.registrant s.separator
  | _, _ => .offline (.doi s.registrant s.separator)

def connectors (c : Config) : Connectors Connector :=
  ⟨some (doiConnector c.doi), some (darkConnector c.dark)⟩

end Config

end IdentifierRegistrar
