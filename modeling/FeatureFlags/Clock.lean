import FeatureFlags.Timestamp

/-!
# The clock

A clock that moves on one second with every reading. The readings start just after midnight of
1 January 2024 UTC and end, should they get there, with the last second of the year 9999.
-/

namespace FeatureFlags.Clock

/-- Midnight of 1 January 2024, in seconds since 1 January 1970 UTC. -/
def start : Int := 1704067200

/-- Reading number `k`, counted from one: what `_now` gives when it is called for the `k`th time. -/
def reading (k : Nat) : Timestamp := (Timestamp.ofUnix? (start + k) 0).getD Timestamp.last

end FeatureFlags.Clock
