import IdentifierRegistrar.Program
import IdentifierRegistrar.Registrar.Error
import IdentifierRegistrar.Store.Records

/-!
What the registrar asks of the world: the store, the directory of resources, the agencies, fresh
ids and the time. Each request is one step; between two of them other operations may run.
-/

namespace IdentifierRegistrar

namespace Service

inductive Request
  | store (call : Store.Call)
  | lookup (resource : ResourceId)
  | agency (scheme : Scheme) (call : Agency.Call)
  | freshId
  | now

def Reply : Request → Type
  | .store call => Except StoreError call.Result
  | .lookup _ => Except DirectoryError (Option Resource)
  | .agency _ call => Except AgencyError call.Result
  | .freshId => RecordId
  | .now => Instant

def interface : Interface := ⟨Request, Reply⟩

end Service

abbrev Operation (α : Type) := Program Service.interface RegistrarError α

namespace Operation

variable {α : Type}

def request (q : Service.Request) : Operation (Service.Reply q) :=
  Program.request (I := Service.interface) q

def store (call : Store.Call) : Operation call.Result := do
  match ← request (.store call) with
  | .ok result => return result
  | .error e => .fail (.store e)

def lookup (resource : ResourceId) : Operation (Except DirectoryError (Option Resource)) :=
  request (.lookup resource)

def agency (scheme : Scheme) (call : Agency.Call) : Operation (Except AgencyError call.Result) :=
  request (.agency scheme call)

def now : Operation Instant := request .now

def freshId : Operation RecordId := request .freshId

def forEach {β : Type} (f : α → Operation β) : List α → Operation (List β)
  | [] => return []
  | a :: as => do
    let b ← f a
    return b :: (← forEach f as)

def through {β : Type} (f : α → β → Operation α) (a : α) : List β → Operation α
  | [] => return a
  | b :: bs => do through f (← f a b) bs

end Operation

/-- Who answers all requests but those to the store, over a state that holds the table. What the
directory and the agencies do may change the table: others write to it at the same time. -/
structure Surroundings (σ : Type) where
  lookup : ResourceId → Table × σ → Except DirectoryError (Option Resource) × (Table × σ)
  agency : Scheme → (call : Agency.Call) → Table × σ → Except AgencyError call.Result × (Table × σ)
  freshId : σ → RecordId × σ
  now : σ → Instant × σ

def Surroundings.answer {σ : Type} (w : Surroundings σ) : Answerer Service.interface (Table × σ)
  | .store call, (table, s) =>
    let (result, table) := Store.answer table call
    (result, (table, s))
  | .lookup resource, s => w.lookup resource s
  | .agency scheme call, s => w.agency scheme call s
  | .freshId, (table, s) =>
    let (id, s) := w.freshId s
    (id, (table, s))
  | .now, (table, s) =>
    let (t, s) := w.now s
    (t, (table, s))

end IdentifierRegistrar
