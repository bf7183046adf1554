import FeatureFlags.Http.Message

/-!
# Cross-origin requests

Which origins may read the answers of the service. A browser names the origin of a request in a
header; before some requests it asks whether they are allowed, by a preflight that names the method
and the headers it wants to send. Without an origin nothing is added to an answer.

When every origin is allowed the answer says so; to a request with a cookie it names the origin.
-/

namespace FeatureFlags.Http.CrossOrigin

/-- The methods that other origins may use, as `create_app` allows them. -/
def methods : List String := ["GET", "POST", "PUT", "DELETE"]

/-- The headers that other origins may send. -/
def headers : List String := ["Accept", "Accept-Language", "Content-Language", "Content-Type"]

/-- How long a browser may rely on a preflight, in seconds. -/
def maxAge : String := "600"

/-- May every origin read the answers? -/
def allowsAll (origins : List String) : Bool := origins.contains "*"

def allows (origins : List String) (origin : String) : Bool :=
  allowsAll origins || origins.contains origin

def originHeader : String := "access-control-allow-origin"

/-- What is added to the answer to a request from an origin. -/
def added (origins : List String) (r : Request) (origin : String) : List (String × String) :=
  if allowsAll origins then
    [(originHeader, if (r.header? "cookie").isSome then origin else "*")]
  else if origins.contains origin then [(originHeader, origin)]
  else []

/-- Does a list of headers hold only such as may be sent? -/
def allowsHeaders (requested : String) : Bool :=
  (Text.splitOn (· == ',') requested.toList).all fun name =>
    (headers.map Text.lowerAscii).contains
      (Text.lowerAscii (String.ofList (Text.trimChars Text.isBlank name)))

/-- What a preflight asks for that is not allowed. -/
def failures (origins : List String) (origin method : String) (requested : Option String) :
    List String :=
  (if allows origins origin then [] else ["origin"]) ++
    (if methods.contains method then [] else ["method"]) ++
    (if (requested.map allowsHeaders).getD true then [] else ["headers"])

/-- The answer to a preflight. -/
def preflight (origins : List String) (r : Request) (origin method : String) : Response :=
  let failed := failures origins origin method (r.header? "access-control-request-headers")
  let allowed :=
    if allowsAll origins then [(originHeader, "*")]
    else if origins.contains origin then [(originHeader, origin)]
    else []
  let answer :=
    if failed.isEmpty then Response.text 200 "OK"
    else Response.text 400 ("Disallowed CORS " ++ ", ".intercalate failed)
  answer.withHeaders <|
    allowed ++
      [("access-control-allow-methods", ", ".intercalate methods),
        ("access-control-max-age", maxAge),
        ("access-control-allow-headers", ", ".intercalate headers)]

/-- The method that a preflight asks for, if the request is one. -/
def preflightMethod? (r : Request) : Option String :=
  if r.method == "OPTIONS" then r.header? "access-control-request-method" else none

end FeatureFlags.Http.CrossOrigin
