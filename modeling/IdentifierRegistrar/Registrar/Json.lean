import IdentifierRegistrar.Registrar.Views
import IdentifierRegistrar.Resource.Json

/-! The JSON forms of what operations answer. -/

namespace IdentifierRegistrar

def Outcome.toJson (o : Outcome) : Json :=
  let shared := [("outcome", Json.string o.tag), ("status", .string o.status.tag)]
  match o with
  | succeeded _ => .object shared
  | pendingRetry _ reason => .object (shared ++ [("reason", .string reason)])
  | needsAttention _ message => .object (shared ++ [("message", .string message)])

def SweepStats.toJson (s : SweepStats) : Json :=
  .object [
    ("examined", .int s.examined),
    ("confirmed", .int s.confirmed),
    ("pending", .int s.pending),
    ("needs_attention", .int s.needsAttention),
    ("failed", .int s.failed)]

def RemoteState.toJson (s : RemoteState) : Json :=
  .object [
    ("record_id", s.record.toJson),
    ("value", s.value.toJson),
    ("local", .string s.status.tag),
    ("remote_reserved", .bool s.reserved),
    ("remote_registered", .bool s.registered)]

def Summary.toJson (s : Summary) : Json :=
  .object [
    ("record_id", s.record.toJson),
    ("scheme", .string s.scheme.tag),
    ("scheme_label", .string s.scheme.label),
    ("value", s.value.toJson),
    ("display_value", (s.shown.map IdentifierValue.toJson).getD .null),
    ("status", .string s.status.tag),
    ("label", .string s.status.label),
    ("attention", (s.attention.map .string).getD .null)]

def Binding.toJson : Binding → Json
  | bound resource => .object [("binding", .string "bound"), ("resource", resource.toJson)]
  | orphaned type =>
    .object [("binding", .string "orphaned"), ("resource_type", .string type.tag)]

def Resolution.toJson (r : Resolution) : Json :=
  .object [
    ("record_id", r.record.toJson),
    ("value", r.value.toJson),
    ("scheme", .string r.scheme.tag),
    ("status", .string r.status.tag),
    ("binding", r.binding.toJson)]

end IdentifierRegistrar
