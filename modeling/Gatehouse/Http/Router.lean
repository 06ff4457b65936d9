/-
  Gatehouse — the HTTP interface.

  Eight routes lead to the operations of the service. Some are limited by client, some ask
  for an access token; both checks come before everything else on the route, a wrong
  method included. `respond` answers any request, and adds the headers that let pages of
  any origin read the answer.
-/
import Gatehouse.Http.Body
import Gatehouse.Service.Operations

namespace Gatehouse.Http

/-- A route of the interface. -/
inductive Route
  | register
  | login
  | resendVerification
  | refresh
  | logout
  | verifyEmail
  | password
  | me
deriving DecidableEq, Repr

namespace Route

def all : List Route :=
  [register, login, resendVerification, refresh, logout, verifyEmail, password, me]

def path : Route → String
  | register => "/api/auth/register"
  | login => "/api/auth/login"
  | resendVerification => "/api/auth/resend-verification"
  | refresh => "/api/auth/refresh"
  | logout => "/api/auth/logout"
  | verifyEmail => "/api/auth/verify-email"
  | password => "/api/auth/password"
  | me => "/api/auth/me"

/-- The route of a path. -/
def ofPath? (path : String) : Option Route := all.find? (·.path == path)

/-- The methods of a route, as a client is told. -/
def allowed : Route → String
  | me => "GET,HEAD"
  | _ => "POST"

/-- The route has the method. -/
def accepts (r : Route) (method : String) : Bool :=
  if r = me then method == "GET" || method == "HEAD" else method == "POST"

end Route

/-! ## Handling -/

/-- The flow of an operation as the flow of its response. -/
def respondWith {α : Type} (refuse : AuthError → Flow Empty Response) (succeed : α → Response)
    (operation : Flow AuthError α) : Flow Empty Response :=
  (operation.attempt : Flow Empty (Except AuthError α)) >>= fun
    | .ok a => .done (succeed a)
    | .error e => refuse e

/-- Refuse a failed operation, and log what the client is not told. -/
def refuse (e : AuthError) : Flow Empty Response :=
  match Refusal.event? e with
  | some event => do
    .log event
    return (Refusal.ofAuth e).response
  | none => return (Refusal.ofAuth e).response

/-- Refuse a verification token; which of its checks failed is not told. -/
def refuseVerification (e : AuthError) : Flow Empty Response :=
  match e with
  | .invalidToken | .tokenExpired | .tokenRevoked => do
    .log (.verificationRejected e)
    return (Refusal.badRequest "Invalid or expired verification token").response
  | e => refuse e

/-- The response with a notice. -/
def noticed (message : String) : Response :=
  (Success.mk 200 (Notice.mk message)).response Notice.doc

/-- Go on with the body, or reject it. -/
def withBody {α : Type} (read : Json.Reader α) (r : Request) (f : α → Flow Empty Response) :
    Flow Empty Response :=
  match readBody read r with
  | .ok a => f a
  | .error e => .done e.response

/-- The secret that is to end: from the body, or from the bearer header if the body does not
    name one. -/
def logoutSecret? (r : Request) : Option String :=
  match readBody logoutRecord.read r with
  | .ok secret => some secret
  | .error _ => bearerToken r.headers

/-- Open an account. -/
def register (s : Settings) (r : Request) : Flow Empty Response :=
  withBody formRecord.read r fun form =>
    respondWith refuse (fun p => (Success.mk 201 p).response profileDoc) (Service.register s form)

/-- Log in. -/
def login (s : Settings) (r : Request) : Flow Empty Response :=
  withBody loginRecord.read r fun (email, password) =>
    respondWith refuse (fun l => (Success.mk 200 l).response loginDoc)
      (Service.login s email password)

/-- Ask for another link. The answer does not tell whether one was sent. -/
def resendVerification (s : Settings) (r : Request) : Flow Empty Response :=
  withBody resendRecord.read r fun email =>
    respondWith refuse
      (fun _ => noticed "If the address is awaiting verification, a new link has been sent")
      (Service.resendVerification s email)

/-- Trade a refresh token for a new pair. -/
def refresh (s : Settings) (r : Request) : Flow Empty Response :=
  withBody refreshRecord.read r fun secret =>
    respondWith refuse (fun t => (Success.mk 200 t).response pairDoc) (Service.refresh s secret)

/-- Log out. -/
def logout (s : Settings) (r : Request) : Flow Empty Response :=
  match logoutSecret? r with
  | some secret => respondWith refuse (fun _ => noticed "Logged out") (Service.logout s secret)
  | none => .done (Refusal.badRequest "Missing refresh token").response

/-- Confirm an address. -/
def verifyEmail (s : Settings) (r : Request) : Flow Empty Response :=
  withBody verifyRecord.read r fun secret =>
    respondWith refuseVerification (fun p => (Success.mk 200 p).response profileDoc)
      (Service.verifyEmail s secret)

/-- Change the caller's password. -/
def changePassword (s : Settings) (r : Request) (caller : Jwt.Identity) :
    Flow Empty Response :=
  withBody passwordRecord.read r fun (old, new) =>
    respondWith refuse (fun _ => noticed "Password changed, all sessions revoked")
      (Service.changePassword s ⟨caller.userId⟩ old new)

/-- Who the caller is. -/
def me (caller : Jwt.Identity) : Flow Empty Response :=
  .done ((Success.mk 200 caller).response identityDoc)

/-! ## Guards -/

/-- Go on within the attempt budget of the client. -/
def withinBudget (r : Request) (next : Flow Empty Response) : Flow Empty Response :=
  let client := clientKey r.headers r.peer
  .ask (.permit client) fun
    | true => next
    | false => do
      .log (.limitExceeded client)
      return (Refusal.tooMany "Too many attempts, try again later").response

/-- Go on with the identity in the access token of the bearer header. -/
def authenticated (r : Request) (next : Jwt.Identity → Flow Empty Response) :
    Flow Empty Response :=
  match bearerToken r.headers with
  | none => .done (Refusal.unauthorized "Missing or invalid Authorization header").response
  | some token =>
    ((Service.validate token).attempt : Flow Empty (Except AuthError Jwt.Identity)) >>= fun
      | .ok identity => next identity
      | .error e => refuse e

/-- Pass the guard of a route, and handle the request if its method is one of the route's. -/
def guarded (s : Settings) (r : Request) (route : Route) : Flow Empty Response :=
  let onMethod (next : Flow Empty Response) : Flow Empty Response :=
    if route.accepts r.method then next else .done (emptyResponse 405)
  match route with
  | .register => withinBudget r (onMethod (register s r))
  | .login => withinBudget r (onMethod (login s r))
  | .resendVerification => withinBudget r (onMethod (resendVerification s r))
  | .refresh => onMethod (refresh s r)
  | .logout => onMethod (logout s r)
  | .verifyEmail => onMethod (verifyEmail s r)
  | .password => authenticated r fun caller => onMethod (changePassword s r caller)
  | .me => authenticated r fun caller => onMethod (me caller)

/-! ## Headers -/

/-- The length of the body, as a header. -/
def lengthHeader (body : String) : Header :=
  ⟨"content-length", Text.decimal body.utf8ByteSize⟩

/-- The headers of every response. -/
def originHeaders : List Header :=
  [⟨"access-control-allow-origin", "*"⟩,
    ⟨"vary", "origin, access-control-request-method, access-control-request-headers"⟩]

/-- State the length of the body. The answer to `HEAD` has the headers alone, and a wrong
    method is told the right ones. -/
def Response.onRoute (route : Route) (method : String) (p : Response) : Response :=
  let right := route.accepts method
  { p with
    headers := p.headers ++ lengthHeader p.body ::
      (if right then [] else [⟨"allow", route.allowed⟩])
    body := if right && method == "HEAD" then "" else p.body }

/-- Let pages of any origin read a response. -/
def Response.forAnyOrigin (p : Response) : Response :=
  { p with headers := p.headers ++ originHeaders ++ [⟨"access-control-expose-headers", "*"⟩] }

/-- The answer to `OPTIONS`: everything is allowed. -/
def preflight (route : Option Route) : Response :=
  { status := 200
    headers := originHeaders
      ++ [⟨"access-control-allow-methods", "*"⟩, ⟨"access-control-allow-headers", "*"⟩,
        lengthHeader ""]
      ++ (route.map fun route => ⟨"allow", route.allowed⟩).toList
    body := "" }

/-- The response to a request, before the headers of the route. -/
def routed (s : Settings) (r : Request) : Option Route → Flow Empty Response
  | none => .done { emptyResponse 404 with headers := [lengthHeader ""] }
  | some route => do
    let response ← guarded s r route
    return response.onRoute route r.method

/-- Answer a request. -/
def respond (s : Settings) (r : Request) : Flow Empty Response :=
  let route := Route.ofPath? r.path
  if r.method = "OPTIONS" then .done (preflight route)
  else do
    .log (.requestStarted r.method (uriOf r.target))
    let response ← routed s r route
    .log (.requestCompleted response.status)
    return response.forAnyOrigin

end Gatehouse.Http
