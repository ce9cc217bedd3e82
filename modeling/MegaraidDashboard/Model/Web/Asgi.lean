import Mathlib.Data.List.AList
import MegaraidDashboard.Model.Python.Text

/-! # Requests, responses and the libraries behind them

Header names and values are Latin-1 texts; the server lower-cases the names. `bcrypt.checkpw` and
`SimpleCookie` are used through the functions below, about which nothing is assumed.
-/

namespace MegaraidDashboard.Web

inductive CheckpwResult where
  | matched
  | mismatched
  | valueError
  | raised
deriving DecidableEq, Repr

class HttpLibraries where
  /-- `bcrypt.checkpw` on the UTF-8 bytes of a password and a stored hash. -/
  checkpw : String → String → CheckpwResult
  /-- The value of a cookie after `SimpleCookie.load`, empty when loading raises. -/
  simpleCookie : String → String → Option String

/-- The settings that the middlewares read. `trustedPeer` says which peers lie in a network of
`trusted_proxy_ips`. -/
structure WebSettings where
  adminUsername : String
  adminPasswordHash : String
  authRateLimitPerMinute : ℕ
  authRateLimitBurst : ℕ
  trustedPeer : String → Bool
  perMinutePositive : 0 < authRateLimitPerMinute
  burstBounded : authRateLimitBurst ≤ authRateLimitPerMinute

abbrev Headers := List (String × String)

/-- `Headers.get`: the first value of a lower-cased name. -/
def Headers.get (headers : Headers) (name : String) : Option String :=
  (headers.find? fun entry => entry.1 == asciiLower name).map Prod.snd

/-- `_AttemptSlot`, compared by identity. -/
structure AttemptSlot where
  id : ℕ
  recordedAt : ℤ
deriving DecidableEq, Repr

/-- The scope of one HTTP request. -/
structure Scope where
  path : String
  rootPath : String
  method : String
  headers : Headers
  client : Option String
  userUsername : Option String
  /-- The slot behind `auth_rate_limit_notify`. -/
  authRateLimitNotify : Option (String × AttemptSlot)
deriving DecidableEq, Repr

/-- A request as the server hands it to the application. -/
def Scope.request (path method : String) (headers : Headers) (client : Option String) : Scope where
  path := path
  rootPath := ""
  method := method
  headers := headers
  client := client
  userUsername := none
  authRateLimitNotify := none

/-- A route of the application: the methods it serves and its path template. -/
structure Route where
  methods : List String
  template : String
deriving DecidableEq, Repr

inductive Response where
  | tooManyRequests
  | unauthorized
  | csrfRejected
  /-- An exception left the stack. -/
  | raised
  /-- No route serves the path and method. -/
  | notServed
  | dispatched (route : Route) (scope : Scope)
deriving DecidableEq, Repr

/-- `AuthRateLimitMiddleware._attempts` and its prune deadline; `nextSlot` numbers the slots. -/
structure Limiter where
  attempts : AList (fun _ : String => List AttemptSlot)
  nextGlobalPruneAt : ℤ
  nextSlot : ℕ

/-- What a request reads and changes outside its scope. -/
structure World where
  limiter : Limiter
  now : ℤ
  authResultReceived : Bool

abbrev App := Scope → World → Response × World

end MegaraidDashboard.Web
