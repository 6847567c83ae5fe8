import Automation.Api.Response
import Automation.Text.Blank
import Automation.Text.Split

/-!
# Calls from other origins

A browser that calls from a page of another origin tells this origin, and may ask beforehand
whether a call is allowed.  Calls are allowed from the origins that the settings list; a star
allows all of them.
-/

namespace Automation.Api

/-- The headers of a request, with names in lower case. -/
abbrev Headers := List (String × String)

/-- The value of a header. -/
def Headers.get? (hs : Headers) (name : String) : Option String :=
  (hs.find? (·.1 == name)).map (·.2)

namespace Origin

/-- The origins that a setting lists, with commas between them. -/
def read (setting : String) : List String :=
  ((Text.splitOn ',' setting.toList).map fun cs => String.ofList (Text.trimChars cs)).filter
    fun s => !s.isEmpty

/-- Whether all origins are allowed. -/
def allowsAll (allowed : List String) : Bool := allowed.contains "*"

/-- Whether an origin is allowed. -/
def allows (allowed : List String) (origin : String) : Bool :=
  allowsAll allowed || allowed.contains origin

/-- The methods that may be asked for. -/
def methods : List String :=
  ["DELETE", "GET", "HEAD", "OPTIONS", "PATCH", "POST", "PUT", "QUERY"]

/-- The headers that a response gets; `origin` is the origin that it goes to, if it tells one. -/
def responseHeaders (allowed : List String) (origin : Option String) : Headers :=
  let vary := ("vary", "Origin")
  let credentials := ("access-control-allow-credentials", "true")
  match origin with
  | none => [vary]
  | some origin =>
    if allows allowed origin then [("access-control-allow-origin", origin), credentials, vary]
    else [credentials, vary]

/-- What is wrong with a call that is asked for beforehand. -/
def refusals (allowed : List String) (origin method : String) (privateNetwork : Bool) :
    List String :=
  (if allows allowed origin then [] else ["origin"])
    ++ (if methods.contains method then [] else ["method"])
    ++ (if privateNetwork then ["private-network"] else [])

/-- The answer to the question whether a call is allowed. -/
def preflight (allowed : List String) (origin method : String) (hs : Headers) : Response :=
  let headers : Headers :=
    (if allows allowed origin then [("access-control-allow-origin", origin)] else [])
      ++ [("vary", ", ".intercalate ["Origin", "Access-Control-Request-Method",
          "Access-Control-Request-Headers", "Access-Control-Request-Private-Network"]),
        ("access-control-allow-methods", ", ".intercalate methods),
        ("access-control-max-age", "600"), ("access-control-allow-credentials", "true")]
      ++ (match hs.get? "access-control-request-headers" with
        | some names => [("access-control-allow-headers", names)]
        | none => [])
  let privateNetwork := (hs.get? "access-control-request-private-network").isSome
  let r :=
    match refusals allowed origin method privateNetwork with
    | [] => Response.plain 200 "OK"
    | what => Response.plain 400 ("Disallowed CORS " ++ ", ".intercalate what)
  { r with headers := r.headers ++ headers }

end Origin

end Automation.Api
