import FeatureFlags.Http.Message
import FeatureFlags.Json.Encoding
import FeatureFlags.Validation

/-!
# Payloads

What a request brings along. A body is read as JSON when its content type says so, and is a mere
text otherwise. All issues with a payload are told under the step `body`.
-/

namespace FeatureFlags.Http

/-- What a request brings along. -/
inductive Payload where
  | absent
  | value (v : Json)
  | text (s : String)

/-- Why a body that should be JSON cannot be read. -/
inductive BodyRefusal where
  | undecodable (offset : Nat) (defect : Json.Defect)
  | unreadable
deriving DecidableEq, Repr

/-- Reads a text that should be JSON, nested to no more than a depth. -/
def readJson (depth : Nat) (s : String) : Except BodyRefusal Json :=
  match Json.sent? s with
  | none => .error .unreadable
  | some cs =>
    match Json.read depth cs with
    | .ok v => .ok v
    | .error (.defect d left) => .error (.undecodable (cs.length - left) d)
    | .error _ => .error .unreadable

/-- Does a content type mean JSON? Parameters after a semicolon do not matter. -/
def isJsonType (contentType : String) : Bool :=
  let cs := contentType.toList.takeWhile (· != ';')
  let type := Text.lower (String.ofList (Text.trimChars Text.isBlank cs))
  match Text.splitOn (· == '/') type.toList with
  | [main, sub] =>
    String.ofList main == "application" &&
      (String.ofList sub == "json" || (String.ofList sub).endsWith "+json")
  | _ => false

/-- The depth limit of a service, where nothing else is said. -/
instance usualLimit : Json.DepthLimit := ⟨Json.usualDepth, by decide⟩

/-- The payload of a request. -/
def Request.payload [limit : Json.DepthLimit] (r : Request) : Except BodyRefusal Payload :=
  if r.body.isEmpty then .ok .absent
  else if ((r.header? "content-type").map isJsonType).getD false then
    (readJson limit.depth r.body).map .value
  else .ok (.text r.body)

/-- The step to the payload. -/
def bodyStep : Step := .member "body"

/-- Reads a payload that has to be an object. -/
def Payload.read {α : Type} (read : List (String × Json) → Checked α) (p : Payload) : Checked α :=
  let checked : Checked α :=
    match p with
    | .absent => .flawed .missing .null
    | .value (.object members) => read members
    | .value v => .flawed .noFields v
    | .text s => .flawed .noFields (.string s)
  checked.under bodyStep

/-- A place where the text of a body is no JSON, as an issue. -/
def undecodable (offset : Nat) (defect : Json.Defect) : Issue :=
  ⟨.undecodable offset defect, [bodyStep, .item offset], .object []⟩

def stepJson : Step → Json
  | .member name => .string name
  | .item i => .int i

/-- An issue as clients are told of it. -/
def issueJson (i : Issue) : Json :=
  .object <|
    [("type", .string i.flaw.code), ("loc", .array (i.path.map stepJson)),
      ("msg", .string i.flaw.message), ("input", i.input)] ++
    (match i.flaw.context? with
      | some c => [("ctx", c)]
      | none => [])

/-- All issues in one answer. -/
def issuesResponse (issues : List Issue) : Response :=
  .json 422 (.object [("detail", .array (issues.map issueJson))])

end FeatureFlags.Http
