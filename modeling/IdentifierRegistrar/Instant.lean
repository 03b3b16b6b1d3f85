/-!
Points in time, in seconds and nanoseconds since 1970. Only years of six digits can be told, so
not every whole number of seconds is a point in time.
-/

namespace IdentifierRegistrar

structure Instant where
  seconds : Int
  nanos : Nat
  least_le : -8334601228800 ≤ seconds
  le_greatest : seconds ≤ 8210266876799
  nanos_lt : nanos < 1000000000
  deriving DecidableEq, Repr

namespace Instant

def ofSeconds? (seconds : Int) : Option Instant :=
  if h : -8334601228800 ≤ seconds ∧ seconds ≤ 8210266876799 then
    some ⟨seconds, 0, h.1, h.2, by decide⟩
  else none

def epoch : Instant := ⟨0, 0, by decide, by decide, by decide⟩

def wholeSecond (t : Instant) : Instant :=
  ⟨t.seconds, 0, t.least_le, t.le_greatest, by decide⟩

def lt (a b : Instant) : Bool :=
  a.seconds < b.seconds || (a.seconds == b.seconds && a.nanos < b.nanos)

theorem ofSeconds?_seconds (t : Instant) : ofSeconds? t.seconds = some t.wholeSecond := by
  simp [ofSeconds?, wholeSecond, t.least_le, t.le_greatest]

theorem seconds_of_ofSeconds? {s : Int} {t : Instant} (h : ofSeconds? s = some t) :
    t.seconds = s ∧ t.nanos = 0 := by
  unfold ofSeconds? at h
  split at h
  · cases h; exact ⟨rfl, rfl⟩
  · simp at h

end Instant

end IdentifierRegistrar
