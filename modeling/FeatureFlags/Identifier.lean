/-!
# Identifiers: `generate_id`

The identifier of a record is a tag for its kind, a separator, and characters drawn from an
alphabet of digits and letters. Where the draws come from is a stream of numbers; the counting
stream writes the numbers 1, 2, 3, … with twelve digits each, so that the n-th identifier of the
usual length ends in n.
-/

namespace FeatureFlags

/-- The kinds of record that have identifiers. -/
inductive Entity where
  | feature
  | featureState
deriving DecidableEq, Repr

namespace Entity

/-- What the identifiers of a kind begin with (`PREFIXES`). -/
def tag : Entity → String
  | .feature => "ftr"
  | .featureState => "fst"

def ofName? : String → Option Entity
  | "feature" => some .feature
  | "feature_state" => some .featureState
  | _ => none

end Entity

namespace Identifier

/-- The characters that are drawn (`ALPHABET`): digits, capitals, small letters. -/
def alphabet : List Char :=
  "0123456789ABCDEFGHIJKLMNOPQRSTUVWXYZabcdefghijklmnopqrstuvwxyz".toList

/-- The character at a place of the alphabet, which is counted round and round. -/
def pick (n : Nat) : Char := alphabet.getD (n % alphabet.length) '0'

/-- The number of characters that are usually drawn. -/
def usualLength : Nat := 12

def usualSeparator : String := "_"

/-- Draw number `i` of the counting stream: a digit of the number of its group of twelve. -/
def counting (i : Nat) : Nat :=
  (i / usualLength + 1) / Nat.pow 10 (usualLength - 1 - i % usualLength) % 10

/-- The stream that repeats a list of numbers. -/
def cycling (choices : List Nat) (i : Nat) : Nat := choices.getD (i % choices.length) 0

/-- `length` characters, the first by draw number `start` of the stream. -/
def draw (stream : Nat → Nat) (start length : Nat) : List Char :=
  (List.range length).map fun i => pick (stream (start + i))

/-- An identifier of a kind (`generate_id`). -/
def make (e : Entity) (separator : String) (drawn : List Char) : String :=
  e.tag ++ separator ++ String.ofList drawn

/-- The identifier that follows `issued` others. -/
def next (e : Entity) (issued : Nat) : String :=
  make e usualSeparator (draw counting (issued * usualLength) usualLength)

end Identifier

end FeatureFlags
