import MegaraidDashboard.Model.Web.RateLimit

/-! # Basic authentication -/

namespace MegaraidDashboard.Web

variable [PyText] [HttpLibraries]

/-- The alphabet of RFC 4648, by its values. -/
def base64Value (c : Char) : Option ℕ :=
  if c.isUpper then some (c.toNat - 65)
  else if c.isLower then some (c.toNat - 71)
  else if c.isDigit then some (c.toNat + 4)
  else if c == '+' then some 62
  else if c == '/' then some 63
  else none

/-- The bytes of complete quads and of a shortened last one. -/
def base64Bytes : List ℕ → List UInt8
  | a :: b :: c :: d :: rest =>
    let bits := ((a * 64 + b) * 64 + c) * 64 + d
    UInt8.ofNat (bits / 65536) :: UInt8.ofNat (bits / 256) :: UInt8.ofNat bits :: base64Bytes rest
  | [a, b, c] =>
    let bits := (a * 64 + b) * 64 + c
    [UInt8.ofNat (bits / 1024), UInt8.ofNat (bits / 4)]
  | [a, b] => [UInt8.ofNat ((a * 64 + b) / 16)]
  | _ => []

/-- `base64.b64decode(token, validate=True)` -/
def b64decode (token : String) : Option ByteArray := do
  let data := token.toList.takeWhile (· != '=')
  let padding := token.toList.dropWhile (· != '=')
  guard (padding.all (· == '='))
  guard (data.length % 4 = 0 ∧ (data ≠ [] ∨ padding = []) ∨ data.length % 4 = 2 ∧ padding.length = 2 ∨
    data.length % 4 = 3 ∧ padding.length = 1)
  let values ← data.mapM base64Value
  return ⟨(base64Bytes values).toArray⟩

/-- `_BASIC_TOKEN_RE.fullmatch` -/
def isBasicToken (token : String) : Bool :=
  token != "" && token.toList.all fun c => c.isAlphanum || c == '+' || c == '/' || c == '='

/-- What checking a credential comes to; `bcrypt` may raise something else than `ValueError`. -/
inductive Verification where
  | rejected
  | raised
  | verified (username : String)
deriving DecidableEq, Repr

/-- `_verified_username` -/
def verifiedUsername (headerValue : Option String) (settings : WebSettings) : Verification :=
  let credentials : Option (String × String) := do
    let (scheme, token) ← Py.splitOnce (← headerValue) ' '
    guard (Py.lower scheme = "basic")
    guard (isBasicToken token)
    let decoded ← String.fromUTF8? (← b64decode token)
    Py.splitOnce decoded ':'
  match credentials with
  | none => .rejected
  | some (username, password) =>
    if username ≠ settings.adminUsername then .rejected
    else match HttpLibraries.checkpw password settings.adminPasswordHash with
      | .matched => .verified username
      | .mismatched => .rejected
      | .valueError => .rejected
      | .raised => .raised

/-- `notify_auth_result` of the rate limiter that wraps the request, if any. -/
def notifyAuthResult (scope : Scope) (credentialsValid : Bool) (world : World) : World :=
  match scope.authRateLimitNotify with
  | none => world
  | some (client, slot) =>
    { world with
      authResultReceived := true
      limiter := if credentialsValid then world.limiter.releaseAttemptSlot client slot
        else world.limiter }

/-- `BasicAuthMiddleware` -/
def basicAuthMiddleware (settings : WebSettings) (app : App) : App := fun scope world =>
  if isWhitelisted scope.path then app scope world
  else match verifiedUsername (scope.headers.get "authorization") settings with
    | .raised => (.raised, world)
    | .rejected => (.unauthorized, notifyAuthResult scope false world)
    | .verified username =>
      app { scope with userUsername := some username } (notifyAuthResult scope true world)

end MegaraidDashboard.Web
