import FeatureFlags.Store.Operation

/-!
# Outages

A store in memory some of whose operations are out of order. Such an operation fails whenever it
is asked for, and so does an operation that has to look a feature up by its key while that is what
does not work.
-/

namespace FeatureFlags

/-- The operations that are out of order, with the failure that each gives. -/
abbrev Outages := Method → Option Failure

/-- Everything works. -/
def Outages.none : Outages := fun _ => .none

namespace Store

/-- Does the operation look a feature up by its key, on this store? -/
def looksUpKey (s : Store) : Operation → Bool
  | .getFeatureByKey _ => true
  | .createFeature _ => true
  | .updateFeature id p =>
    match s.feature? id with
    | some f => (newKey? f p).isSome && !s.isReferenced id
    | .none => false
  | .createState d => (given d.featureId).isNone && (given d.featureKey).isSome
  | _ => false

/-- The failure that an outage makes of an operation. -/
def outage? (s : Store) (out : Outages) (op : Operation) : Option Failure :=
  (out op.method).or (if s.looksUpKey op then out .getFeatureByKey else .none)

/-- Runs one operation while some are out of order. -/
def runWith (s : Store) (out : Outages) (op : Operation) : Except Failure (Reply × Store) :=
  match s.outage? out op with
  | some f => .error f
  | .none =>
    match s.run op with
    | .ok r => .ok r
    | .error e => .error (.service e)

end Store

end FeatureFlags
