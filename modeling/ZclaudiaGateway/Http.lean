import Mathlib.Data.List.DropRight
import ZclaudiaGateway.Lib.PercentEncoding
import ZclaudiaGateway.Server

/-!
# Express

What stands between a request and the proxy handler of `src/server.ts`: the pathname that `parseurl` reads of the target, the
CORS and JSON middleware, and the pattern of the route. Express 4 matches paths up to case and passes what a pattern captures
through `decodeURIComponent`.
-/

namespace ZclaudiaGateway

/-- A request as the HTTP server hands it to Express, with the chunks its body comes in. -/
structure IncomingRequest where
  ip : String
  method : String
  url : String
  headers : RequestHeaders
  body : List Bytes

def IncomingRequest.authorization (r : IncomingRequest) : Option String := r.headers.values.get "authorization"

/-- What `express.json` does with a request: it leaves the body alone, reads it to its end, or fails. -/
inductive ParserOutcome where
  | untouched
  | drained
  | failed
deriving DecidableEq

/-- What is not modelled of Express and of what it calls. -/
structure Express where
  json : IncomingRequest → ParserOutcome
  /-- The pathname that `url.parse` reads of a text that names a host or a scheme. -/
  hostedPathname : List Char → List Char

/-! ## Pathnames -/

/-- White space to `url.parse`. -/
def isUrlSpace (c : Char) : Bool := decide (c.toNat < 33 ∨ c.toNat = 0xA0 ∨ c.toNat = 0xFEFF)

/-- Back slashes before the query become slashes. -/
def forwardSlashes : List Char → List Char
  | [] => []
  | c :: cs => if c = '?' ∨ c = '#' then c :: cs else (if c = '\\' then '/' else c) :: forwardSlashes cs

/-- `simplePathPattern`, for a text without a fragment and without an `@` before its query. -/
def isSimplePath (cs : List Char) : Bool :=
  !(cs.contains '#') && !((cs.takeWhile (· ≠ '?')).contains '@') && !(cs.any JsonValue.isStrWhiteSpace) &&
    match cs with
    | '/' :: '/' :: '/' :: _ => false
    | '/' :: _ => true
    | _ => false

/-- `hostPattern`, `^\/\/[^@/]+@[^@/]+`. -/
def namesHost (cs : List Char) : Bool :=
  match cs with
  | '/' :: '/' :: rest =>
    match rest.takeWhile (fun c => c ≠ '@' ∧ c ≠ '/'), rest.dropWhile (fun c => c ≠ '@' ∧ c ≠ '/') with
    | _ :: _, '@' :: c :: _ => decide (c ≠ '@' ∧ c ≠ '/')
    | _, _ => false
  | _ => false

/-- `url.parse(str).pathname`. -/
def urlPathname (X : Express) (cs : List Char) : List Char :=
  let rest := forwardSlashes ((cs.dropWhile isUrlSpace).rdropWhile isUrlSpace)
  if isSimplePath rest then rest.takeWhile (· ≠ '?')
  else if rest.head? ≠ some '/' ∨ namesHost rest then X.hostedPathname rest
  else PercentEncoding.autoEscape (rest.takeWhile (fun c => c ≠ '?' ∧ c ≠ '#'))

/-- A character for which `parseurl` leaves the target to `url.parse`. -/
def leftToUrlParse (c : Char) : Bool := decide (c.toNat ∈ [0x09, 0x0A, 0x0C, 0x0D, 0x20, 0x23, 0xA0, 0xFEFF])

/-- `parseurl(req).pathname` of a target. -/
def parseurlPathname (X : Express) (cs : List Char) : List Char :=
  if cs.head? ≠ some '/' ∨ cs.tail.any leftToUrlParse then urlPathname X cs else cs.takeWhile (· ≠ '?')

/-- `req.path`. -/
def IncomingRequest.path (X : Express) (r : IncomingRequest) : List Char := parseurlPathname X r.url.toList

/-! ## Middleware and route -/

def PROXY_PREFIX : List Char := "/api/proxy/".toList

/-- `req.path.startsWith('/api/proxy/')`: the requests that the JSON middleware hands on unread. -/
def skipsJsonParser (X : Express) (r : IncomingRequest) : Bool := PROXY_PREFIX.isPrefixOf (r.path X)

/-- `/api/proxy/:backendId/*` as a pattern, `^\/api\/proxy\/([^\/]+?)\/(.*)$` up to case: what its groups capture. -/
def matchProxyRoute (path : List Char) : Option (List Char × List Char) :=
  if (path.take PROXY_PREFIX.length).map Char.toLower = PROXY_PREFIX then
    let rest := path.drop PROXY_PREFIX.length
    match rest.takeWhile (· ≠ '/'), rest.dropWhile (· ≠ '/') with
    | c :: backendId, _ :: suffix => some (c :: backendId, suffix)
    | _, _ => none
  else none

/-- Where a request ends up. -/
inductive Dispatch where
  /-- The proxy handler, with what is left of the body. -/
  | proxy (request : ProxyRequest) (outcome : ParserOutcome)
  /-- The error handler. -/
  | failed
  | elsewhere

/-- The middleware in their order, then the route. A preflight is answered, and a parameter that does not decode is an error. -/
def dispatch (X : Express) (r : IncomingRequest) : Dispatch :=
  if r.method = "OPTIONS" then .elsewhere
  else
    let outcome := if skipsJsonParser X r then .untouched else X.json r
    if outcome = .failed then .failed
    else
      match matchProxyRoute (r.path X) with
      | none => .elsewhere
      | some (backendId, suffix) =>
        match PercentEncoding.decodeURIComponent (String.ofList backendId),
            PercentEncoding.decodeURIComponent (String.ofList suffix) with
        | some backendId, some suffix =>
          .proxy { ip := r.ip, method := r.method, headers := r.headers, backendId, suffix, url := r.url } outcome
        | _, _ => .failed

/-- An event of the stream that a request's body comes in. -/
inductive BodyPart where
  | data (chunk : Bytes)
  | ended
deriving DecidableEq

/-- The events of a body for who listens to it from its start. -/
def bodyParts (body : List Bytes) : List BodyPart := body.map .data ++ [.ended]

/-- The events that are left for the bridge: a stream that was read to its end emits nothing more. -/
def ParserOutcome.leaves (outcome : ParserOutcome) (body : List Bytes) : List BodyPart :=
  if outcome = .drained then [] else bodyParts body

end ZclaudiaGateway
