import FeatureFlags.Failure
import Mathlib.Logic.Relation

/-!
# Kinds of failures

Failures are of kinds, and a kind may belong to a wider one: the errors of a store operation are
errors of the service, a timeout is a failure of the system. A failure counts as one of a kind when
its own kind is that kind or leads to it from one wider kind to the next. Which failures mean that a
store could not be read is said in this way (`isReadError_iff`).
-/

namespace FeatureFlags.Failure

inductive Kind where
  | service
  | store
  | featureNotFound
  | stateNotFound
  | keyConflict
  | keyLocked
  | featureInUse
  | duplicateState
  | unavailable
  | database
  | uniqueViolation
  | foreignKeyViolation
  | undefinedTable
  | connection
  | system
  | connectionRefused
  | timeout
  | other
deriving DecidableEq, Repr

namespace Kind

/-- The next wider kind. -/
def wider? : Kind → Option Kind
  | .store | .unavailable => some .service
  | .featureNotFound | .stateNotFound | .keyConflict | .keyLocked | .featureInUse
  | .duplicateState => some .store
  | .uniqueViolation | .foreignKeyViolation | .undefinedTable => some .database
  | .connectionRefused | .timeout => some .system
  | .service | .database | .connection | .system | .other => none

/-- What is of the first kind counts as being of the second. -/
def IsA : Kind → Kind → Prop := Relation.ReflTransGen fun k k' => k.wider? = some k'

/-- The kind itself and the wider ones; there are never more than two. -/
def chain (k : Kind) : List Kind := k :: k.wider?.toList.flatMap fun k' => k' :: k'.wider?.toList

theorem chain_subset {k k' : Kind} (h : k.wider? = some k') : k'.chain ⊆ k.chain := by
  cases k <;> cases h <;> decide

theorem isA_iff_mem_chain {k k' : Kind} : k.IsA k' ↔ k' ∈ k.chain := by
  constructor
  · intro h
    induction h using Relation.ReflTransGen.head_induction_on with
    | refl => exact List.mem_cons_self
    | head hstep _ ih => exact chain_subset hstep ih
  · intro h
    simp only [chain, List.mem_cons, List.mem_flatMap, Option.mem_toList] at h
    rcases h with rfl | ⟨next, hnext, rfl | hlast⟩
    · exact .refl
    · exact .single hnext
    · exact .tail (.single hnext) hlast

end Kind

/-- The kind of a failure. -/
def kind : Failure → Kind
  | .service (.general _) => .service
  | .service (.store _) => .store
  | .service (.featureNotFound _) => .featureNotFound
  | .service (.stateNotFound _) => .stateNotFound
  | .service (.keyConflict _) => .keyConflict
  | .service (.keyLocked _) => .keyLocked
  | .service (.featureInUse _) => .featureInUse
  | .service (.duplicateState _) => .duplicateState
  | .service (.unavailable _) => .unavailable
  | .database .general _ => .database
  | .database .uniqueViolation _ => .uniqueViolation
  | .database .foreignKeyViolation _ => .foreignKeyViolation
  | .database .undefinedTable _ => .undefinedTable
  | .connection _ => .connection
  | .system .general _ => .system
  | .system .connectionRefused _ => .connectionRefused
  | .system .timeout _ => .timeout
  | .runtime _ | .nesting _ | .value _ | .shape _ | .lookup _ | .noPart .. | .transport ..
  | .address _ | .invalid _ => .other

/-- The kinds of which a failure to read a store is (`STORE_READ_ERRORS`). -/
def readKinds : List Kind := [.database, .connection, .system, .timeout, .store]

/-- The failure is of a kind that means that a store could not be read. -/
def MeansUnread (f : Failure) : Prop := ∃ k ∈ readKinds, f.kind.IsA k

theorem isReadError_eq (f : Failure) :
    f.isReadError = readKinds.any fun k => decide (k ∈ f.kind.chain) := by
  cases f with
  | service e => cases e <;> rfl
  | database d m => cases d <;> rfl
  | system d m => cases d <;> rfl
  | _ => rfl

theorem isReadError_iff (f : Failure) : f.isReadError = true ↔ f.MeansUnread := by
  simp only [isReadError_eq, List.any_eq_true, decide_eq_true_eq, MeansUnread, Kind.isA_iff_mem_chain]

end FeatureFlags.Failure
