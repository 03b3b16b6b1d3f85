import IdentifierRegistrar.Identifier.Local
import IdentifierRegistrar.Identifier.Resource
import IdentifierRegistrar.Identifier.Value
import IdentifierRegistrar.Store.Row

/-! Why a call to the store fails. -/

namespace IdentifierRegistrar

inductive DatabaseFault
  | columnType (found : Cell) (column : Column)
  | notUnique (columns : List Column)
  | isNull (column : Column)
  | cannotOpen (path : String)
  deriving DecidableEq, Repr

def DatabaseFault.message : DatabaseFault → String
  | columnType found column =>
    "Invalid column type " ++ found.kind ++ " at index: " ++ toString column.index ++ ", name: "
      ++ column.name
  | notUnique columns =>
    "UNIQUE constraint failed: " ++ ", ".intercalate (columns.map ("identifiers." ++ ·.name))
  | isNull column => "NOT NULL constraint failed: identifiers." ++ column.name
  | cannotOpen path => "unable to open database file: " ++ path

inductive RowFault
  | notId (cause : IdError)
  | notValue (id : RecordId) (cause : IdError)
  | otherScheme (id : RecordId) (tag : String) (value : IdentifierValue)
  | notResource (id : RecordId) (cause : IdError)
  | notType (id : RecordId) (code : Int)
  | notTime (seconds : Int)
  deriving DecidableEq, Repr

def RowFault.message : RowFault → String
  | notId cause => cause.message
  | notValue id cause => id.text ++ ": " ++ cause.message
  | otherScheme id tag value =>
    id.text ++ ": scheme '" ++ tag ++ "' does not match value " ++ value.text
  | notResource id cause => id.text ++ ": " ++ cause.message
  | notType id code => id.text ++ ": resource type " ++ toString code
  | notTime seconds => "timestamp " ++ toString seconds ++ " out of range"

inductive StoreError
  | database (fault : DatabaseFault)
  | versionConflict (id : RecordId) (expected : Int)
  | notFound (id : RecordId)
  | duplicateValue (text : String)
  | liveRecordExists (resource : ResourceId) (scheme : Scheme)
  | corruptStatus (tag : String)
  | corruptRow (detail : String)
  | poisoned
  deriving DecidableEq, Repr

def StoreError.message : StoreError → String
  | .database fault => "SQLite error: " ++ fault.message
  | .versionConflict id expected =>
    "record " ++ id.text ++ " was modified concurrently (expected version " ++ toString expected
      ++ ")"
  | .notFound id => "record not found: " ++ id.text
  | .duplicateValue text => "identifier value already assigned: " ++ text
  | .liveRecordExists resource scheme =>
    "resource " ++ resource.text ++ " already has a live " ++ scheme.tag ++ " identifier"
  | .corruptStatus tag => "stored status '" ++ tag ++ "' is not a known status"
  | .corruptRow detail => "corrupt record row: " ++ detail
  | .poisoned => "record store lock poisoned"

end IdentifierRegistrar
