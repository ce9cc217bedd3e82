import MegaraidDashboard.Model.Web.Middleware

/-! # CSRF protection -/

namespace MegaraidDashboard.Web

variable [PyText] [HttpLibraries]

/-- `_PROTECTED_METHODS`, compared after `upper`. -/
def isProtectedMethod (method : String) : Bool :=
  ["POST", "PUT", "DELETE", "PATCH"].contains (Py.upper method)

/-- `_extract_cookie` -/
def extractCookie (headers : Headers) (name : String) : Option String :=
  (headers.get "cookie").bind fun header => HttpLibraries.simpleCookie header name

/-- The token of the request's CSRF cookie. -/
def csrfCookie (headers : Headers) : Option String := extractCookie headers "__Host-csrf"

/-- `hmac.compare_digest` on two `str`; the empty result is its `TypeError` on non-ASCII text. -/
def compareDigest (first second : String) : Option Bool :=
  if IsAscii first ∧ IsAscii second then some (first == second) else none

/-- `CsrfMiddleware`; the cookie it adds to a response is not part of the decision. -/
def csrfMiddleware (app : App) : App := fun scope world =>
  if isWhitelisted scope.path then app scope world
  else if isProtectedMethod scope.method then
    match csrfCookie scope.headers, scope.headers.get "X-CSRF-Token" with
    | some cookieToken, some headerToken =>
      match compareDigest cookieToken headerToken with
      | none => (.raised, world)
      | some false => (.csrfRejected, world)
      | some true => app scope world
    | _, _ => (.csrfRejected, world)
  else app scope world

end MegaraidDashboard.Web
