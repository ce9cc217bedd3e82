import MegaraidDashboard.Model.Web.Asgi

/-! # The forwarded prefix and the whitelist -/

namespace MegaraidDashboard.Web

/-- `_SAFE_PREFIX_RE`'s character class. -/
def isPrefixChar (c : Char) : Bool :=
  c.isAlphanum || c == '.' || c == '_' || c == '~' || c == '-'

/-- `_is_safe_forwarded_prefix` -/
def isSafeForwardedPrefix (value : String) : Bool :=
  match Py.splitChars '/' value.toList with
  | [] :: segments =>
    !segments.isEmpty && segments.all fun segment =>
      !segment.isEmpty && segment.all isPrefixChar && segment != ['.'] && segment != ['.', '.']
  | _ => false

/-- `_normalize_forwarded_prefix` -/
def normalizeForwardedPrefix (value : Option String) : Option String :=
  match value with
  | none => none
  | some value =>
    let normalized := Py.rstripChar value '/'
    if normalized == "" || !isSafeForwardedPrefix normalized then none else some normalized

/-- `ForwardedPrefixMiddleware` -/
def forwardedPrefixMiddleware (app : App) : App := fun scope world =>
  match normalizeForwardedPrefix (scope.headers.get "X-Forwarded-Prefix") with
  | none => app scope world
  | some normalized => app { scope with rootPath := normalized } world

/-- `is_whitelisted` -/
def isWhitelisted (path : String) : Bool :=
  path == "/healthz" || path == "/favicon.ico" || Py.startsWith path "/static/"

end MegaraidDashboard.Web
