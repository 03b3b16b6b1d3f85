import IdentifierRegistrar.Registrar.Views

/-! Everything that can be asked of a registrar, as one type: an errand, the operation that carries
it out and the report that the operation ends with. -/

namespace IdentifierRegistrar

inductive Errand
  | mint (resource : ResourceId) (scheme : Scheme)
  | hold (id : RecordId)
  | execute (id : RecordId) (action : Action)
  | release (resource : ResourceId)
  | sweep
  | reconcile (id : RecordId)
  | identifiersFor (resource : ResourceId)
  | resolve (text : String)
  deriving DecidableEq, Repr

inductive Report
  | record (r : Record)
  | outcome (o : Outcome)
  | outcomes (os : List (RecordId × Outcome))
  | stats (s : SweepStats)
  | remote (s : RemoteState)
  | summaries (s : List Summary)
  | resolution (r : Resolution)
  deriving DecidableEq, Repr

def Errand.operation (g : Registrar) : Errand → Operation Report
  | mint resource scheme => do return .record (← g.mint resource scheme)
  | hold id => do return .record (← Registrar.hold id)
  | execute id action => do return .outcome (← g.execute id action)
  | release resource => do return .outcomes (← g.release resource)
  | sweep => do return .stats (← g.sweep)
  | reconcile id => do return .remote (← g.reconcile id)
  | identifiersFor resource => do return .summaries (← Registrar.identifiersFor resource)
  | resolve text => do return .resolution (← Registrar.resolve text)

end IdentifierRegistrar
