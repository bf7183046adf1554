import FeatureFlags.Text.CaseTable
import FeatureFlags.Text.CasedTable

/-!
# Upper and lower case

Full case mapping of a text, character by character, with the one rule that looks around: a
capital sigma that ends a word is written `ς` in lower case.
-/

namespace FeatureFlags.Text

/-- Where a run moves a character, when the character lies on the run. -/
def onRun (n : Nat) : Nat × Nat × Nat × Int → Option Nat
  | (first, last, step, distance) =>
    if first ≤ n && n ≤ last && (n - first) % step == 0 then some (n + distance).toNat else none

/-- The upper-case form of a character. -/
def upperChar (c : Char) : List Char :=
  match upperExpansions.lookup c.toNat with
  | some form => form.map Char.ofNat
  | none => [((upperRuns.findSome? (onRun c.toNat)).map Char.ofNat).getD c]

/-- The lower-case form of a character outside any word. -/
def lowerChar (c : Char) : List Char :=
  if c.toNat == 0x130 then [Char.ofNat 0x69, Char.ofNat 0x307]
  else [((lowerRuns.findSome? (onRun c.toNat)).map Char.ofNat).getD c]

/-- Whether a character lies in one of these ranges. -/
def inRanges (ranges : List (Nat × Nat)) (c : Char) : Bool :=
  ranges.any fun (first, last) => first ≤ c.toNat && c.toNat ≤ last

/-- A mark or a point inside a word, such as an apostrophe or an accent. -/
def isIgnorable (c : Char) : Bool :=
  inRanges ignorableRanges c

def isCased (c : Char) : Bool :=
  inRanges casedRanges c

/-- Whether a word goes on at the head of this text, marks and points aside. -/
def wordGoesOn (rest : List Char) : Bool :=
  ((rest.dropWhile isIgnorable).head?.map isCased).getD false

/-- The lower-case form of a text; `inWord` says whether a cased character comes just before, marks
and points aside. -/
def lowerChars (inWord : Bool) : List Char → List Char
  | [] => []
  | c :: rest =>
    let here :=
      if c == 'Σ' then [if inWord && !wordGoesOn rest then 'ς' else 'σ']
      else lowerChar c
    here ++ lowerChars (if isIgnorable c then inWord else isCased c) rest

/-- A text in capitals (`upper`). -/
def upper (s : String) : String :=
  String.ofList (s.toList.flatMap upperChar)

/-- A text in small letters (`lower`). -/
def lower (s : String) : String :=
  String.ofList (lowerChars false s.toList)

/-- Lower case for the letters A to Z alone. -/
def lowerAscii (s : String) : String :=
  String.ofList (s.toList.map Char.toLower)

end FeatureFlags.Text
