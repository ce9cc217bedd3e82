import MegaraidDashboard.Model.Web.Auth
import MegaraidDashboard.Model.Web.Csrf

/-! # Routes and the application

Path templates are compiled as Starlette compiles them: a parameter is a nonempty run of characters
without a slash, a path parameter may be empty and stops at a line feed, and the end of a pattern
also matches before a final line feed.
-/

namespace MegaraidDashboard.Web

inductive Piece where
  | char (c : Char)
  | segment
  | path
deriving DecidableEq, Repr

/-- `compile_path`; the first argument collects the name of an open parameter. -/
def compilePath : Option (List Char) → List Char → List Piece
  | _, [] => []
  | none, '{' :: rest => compilePath (some []) rest
  | none, c :: rest => .char c :: compilePath none rest
  | some name, '}' :: rest =>
    (if [':', 'p', 'a', 't', 'h'].isSuffixOf name then .path else .segment) :: compilePath none rest
  | some name, c :: rest => compilePath (some (name ++ [c])) rest

/-- One or more allowed characters, then an accepted rest. -/
def spans (allowed : Char → Bool) (accept : List Char → Bool) : List Char → Bool
  | [] => false
  | c :: rest => allowed c && (accept rest || spans allowed accept rest)

/-- The anchored regular expression of a template. -/
def matchPieces : List Piece → List Char → Bool
  | [], rest => rest == [] || rest == ['\n']
  | .char _ :: _, [] => false
  | .char c :: pieces, d :: rest => c == d && matchPieces pieces rest
  | .segment :: pieces, text => spans (· != '/') (matchPieces pieces) text
  | .path :: pieces, text => matchPieces pieces text || spans (· != '\n') (matchPieces pieces) text

def Route.matchesPath (route : Route) (path : List Char) : Bool :=
  matchPieces (compilePath none route.template.toList) path

/-- A mount serves every method, a route the methods it names. -/
def Route.serves (route : Route) (method : String) : Bool :=
  route.methods.isEmpty || route.methods.contains method

/-- The health check and the static mount, which need no credentials. -/
def Route.Public (route : Route) : Prop :=
  route.template ∈ ["/healthz", "/favicon.ico", "/static/{path:path}"]

instance (route : Route) : Decidable route.Public := inferInstanceAs (Decidable (_ ∈ _))

/-- The route table in the order of registration: the documentation routes of FastAPI, the static
mount, and the decorators of `routes.py`. -/
def routes : List Route := [
  ⟨["GET", "HEAD"], "/openapi.json"⟩,
  ⟨["GET", "HEAD"], "/docs"⟩,
  ⟨["GET", "HEAD"], "/docs/oauth2-redirect"⟩,
  ⟨["GET", "HEAD"], "/redoc"⟩,
  ⟨[], "/static/{path:path}"⟩,
  ⟨["GET"], "/health"⟩,
  ⟨["POST"], "/maintenance/start"⟩,
  ⟨["POST"], "/maintenance/stop"⟩,
  ⟨["GET"], "/maintenance"⟩,
  ⟨["GET"], "/healthz"⟩,
  ⟨["GET"], "/"⟩,
  ⟨["GET"], "/partials/main-page"⟩,
  ⟨["GET"], "/drives"⟩,
  ⟨["GET"], "/controller"⟩,
  ⟨["GET"], "/drives/{enclosure_id}/{slot_id}"⟩,
  ⟨["GET"], "/drives/{slot_ref}"⟩,
  ⟨["POST"], "/drives/{enclosure}:{slot}/locate/start"⟩,
  ⟨["POST"], "/drives/{enclosure}:{slot}/locate/stop"⟩,
  ⟨["POST"], "/drives/{enclosure}:{slot}/replace/offline"⟩,
  ⟨["POST"], "/drives/{enclosure}:{slot}/replace/missing"⟩,
  ⟨["POST"], "/drives/{enclosure}:{slot}/actions/mark-ubad"⟩,
  ⟨["POST"], "/drives/{enclosure}:{slot}/actions/mark-ugood"⟩,
  ⟨["POST"], "/drives/{enclosure}:{slot}/actions/spindown"⟩,
  ⟨["POST"], "/drives/{enclosure}:{slot}/actions/hotspare"⟩,
  ⟨["GET"], "/drives/{enclosure}:{slot}/replace/topology"⟩,
  ⟨["GET"], "/drives/{enclosure}:{slot}/replace/rebuild-status"⟩,
  ⟨["POST"], "/drives/{enclosure}:{slot}/replace/insert"⟩,
  ⟨["GET"], "/controller/patrol-read"⟩,
  ⟨["POST"], "/controller/patrol-read/start"⟩,
  ⟨["POST"], "/controller/patrol-read/stop"⟩,
  ⟨["POST"], "/controller/patrol-read/mode"⟩,
  ⟨["GET"], "/controller/consistency-check"⟩,
  ⟨["POST"], "/controller/consistency-check/start"⟩,
  ⟨["POST"], "/controller/consistency-check/stop"⟩,
  ⟨["POST"], "/controller/consistency-check/mode"⟩,
  ⟨["POST"], "/controller/buzzer/silence"⟩,
  ⟨["POST"], "/controller/buzzer/disable"⟩,
  ⟨["POST"], "/controller/buzzer/enable"⟩,
  ⟨["GET"], "/controller/foreign-config"⟩,
  ⟨["POST"], "/controller/foreign-config/import"⟩,
  ⟨["POST"], "/controller/foreign-config/clear"⟩,
  ⟨["GET"], "/controller/roc-history"⟩,
  ⟨["GET"], "/drives/{enclosure_id}/{slot_id}/charts"⟩,
  ⟨["GET"], "/events"⟩,
  ⟨["GET"], "/audit"⟩,
  ⟨["GET"], "/partials/events"⟩]

/-- Starlette's route path: the path without the root path that leads it. -/
def routePath (path rootPath : String) : String :=
  if rootPath != "" && Py.startsWith path (rootPath ++ "/") then Py.dropPrefix path rootPath else path

/-- The first route that matches the path and serves the method. -/
def findRoute (path method : String) : Option Route :=
  routes.find? fun route => route.matchesPath path.toList && route.serves method

def router : App := fun scope world =>
  match findRoute (routePath scope.path scope.rootPath) scope.method with
  | none => (.notServed, world)
  | some route => (.dispatched route scope, world)

variable [PyText] [HttpLibraries]

/-- The middleware stack of `create_app` around the router. -/
def createApp (settings : WebSettings) : App :=
  forwardedPrefixMiddleware
    (authRateLimitMiddleware settings (basicAuthMiddleware settings (csrfMiddleware router)))

end MegaraidDashboard.Web
