import FeatureFlags.Http.Address
import FeatureFlags.Json.Writer

/-!
# Requests and responses

A request has a method, an address, headers and a body. A response has a status, headers and a
body, which is a JSON value or plain text. Names of headers are the same in any case.
-/

namespace FeatureFlags.Http

/-- What a client asks for. -/
structure Request where
  method : String
  address : Address
  headers : List (String × String)
  body : String

namespace Request

/-- The value of a header, by its name in small letters. -/
def header? (r : Request) (name : String) : Option String :=
  (r.headers.find? fun h => Text.lowerAscii h.1 == name).map Prod.snd

/-- The path that is asked for, decoded twice: by the client, and again when it gets here. -/
def path (r : Request) : String :=
  Text.Percent.decode <| Text.Percent.decode <|
    if r.address.path.isEmpty then "/" else r.address.path

/-- The host that is asked, as the client names it. -/
def host (r : Request) : String := (r.header? "host").getD r.address.place

/-- The query with its mark; nothing for an empty one. -/
def queryText (r : Request) : String :=
  match given r.address.query with
  | some q => "?" ++ q
  | none => ""

/-- The path as the log of `flag_service_error_handler` names it: without tabs and ends of lines,
and cut at the first mark of a query or a fragment. -/
def loggedPath (r : Request) : String :=
  String.ofList <|
    (r.path.toList.filter fun c => c != '\t' && c != '\n' && c != '\r').takeWhile fun c =>
      c != '?' && c != '#'

end Request

/-- What a response carries. -/
inductive Content where
  | empty
  | text (s : String)
  | json (v : Json)

/-- The text of a content. -/
def Content.toText : Content → String
  | .empty => ""
  | .text s => s
  | .json v => v.toCompactText

/-- The answer to a request. -/
structure Response where
  status : Nat
  headers : List (String × String)
  content : Content

namespace Response

/-- A JSON value. -/
def json (status : Nat) (v : Json) : Response :=
  ⟨status, [("content-type", "application/json")], .json v⟩

/-- Plain text. -/
def text (status : Nat) (s : String) : Response :=
  ⟨status, [("content-type", "text/plain; charset=utf-8")], .text s⟩

/-- A detail in words. -/
def detail (status : Nat) (words : String) : Response :=
  json status (.object [("detail", .string words)])

/-- The answer with more headers; a header that is there already is replaced. -/
def withHeaders (r : Response) (headers : List (String × String)) : Response :=
  { r with
    headers := r.headers.filter (fun h => !(headers.map Prod.fst).contains h.1) ++ headers }

/-- The answer as the client gets it: one to `HEAD` has no body. -/
def forMethod (method : String) (r : Response) : Response :=
  if method == "HEAD" then { r with content := .empty } else r

end Response

end FeatureFlags.Http
