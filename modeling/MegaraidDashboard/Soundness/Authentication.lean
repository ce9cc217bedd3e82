import MegaraidDashboard.Model.Web.Router

/-! # Which requests reach a protected route

The middlewares decide on the raw path and the router on the path without the forwarded prefix. The
two readings disagree exactly when the prefix swallows the `/static` that whitelists the request.
-/

namespace MegaraidDashboard.Web

/-- On a path under `/static/` the router itself only finds the mount. -/
private theorem matchesPath_static (rest : List Char) :
    ∀ route ∈ routes, route.matchesPath ("/static/".toList ++ rest) = true → route.Public := by
  have all : (routes.all fun route => decide route.Public ||
      !route.matchesPath ("/static/".toList ++ rest)) = true := rfl
  intro route member found
  have verdict := List.all_eq_true.mp all route member
  rw [found] at verdict
  simpa using verdict

private theorem startsWith_iff {text head : String} :
    Py.startsWith text head = true ↔ ∃ rest, text.toList = head.toList ++ rest := by
  rw [Py.startsWith, List.isPrefixOf_iff_prefix]
  constructor
  · rintro ⟨rest, eq⟩
    exact ⟨rest, eq.symm⟩
  · rintro ⟨rest, eq⟩
    exact ⟨rest, eq.symm⟩

/-- On a whitelisted raw path the router itself only finds public routes. -/
theorem findRoute_of_isWhitelisted {path method : String} {route : Route}
    (whitelisted : isWhitelisted path = true) (found : findRoute path method = some route) :
    route.Public := by
  have member := List.mem_of_find?_eq_some found
  have served := List.find?_some found
  rw [Bool.and_eq_true] at served
  simp only [isWhitelisted, Bool.or_eq_true, beq_iff_eq] at whitelisted
  rcases whitelisted with (rfl | rfl) | static
  · have all : ∀ route ∈ routes, route.matchesPath "/healthz".toList = true → route.Public := by
      decide +kernel
    exact all route member served.1
  · have all : ∀ route ∈ routes, route.matchesPath "/favicon.ico".toList = true → route.Public := by
      decide +kernel
    exact all route member served.1
  · obtain ⟨rest, split⟩ := startsWith_iff.mp static
    rw [split] at served
    exact matchesPath_static rest route member served.1

/-- Only a path with a second slash can begin with a prefix and a slash. -/
private theorem prefix_eq_nil_of_single_slash {segment root : List Char} (single : '/' ∉ segment)
    (leads : root ++ ['/'] <+: '/' :: segment) : root = [] := by
  cases root with
  | nil => rfl
  | cons c rest =>
    obtain ⟨tail, eq⟩ := leads
    simp only [List.cons_append, List.append_assoc, List.cons.injEq, List.nil_append] at eq
    exact absurd (eq.2 ▸ List.mem_append_right rest (List.mem_cons_self ..)) single

/-- A root path that is removed from a whitelisted path leads a path under `/static/`. -/
theorem startsWith_static_of_routePath_ne {path rootPath : String}
    (whitelisted : isWhitelisted path = true) (removed : routePath path rootPath ≠ path) :
    Py.startsWith path "/static/" = true ∧ Py.startsWith path (rootPath ++ "/") = true ∧
      routePath path rootPath = Py.dropPrefix path rootPath := by
  by_cases leads : rootPath != "" && Py.startsWith path (rootPath ++ "/")
  · obtain ⟨nonempty, leading⟩ := Bool.and_eq_true _ _ ▸ leads
    refine ⟨?_, leading, if_pos leads⟩
    simp only [isWhitelisted, Bool.or_eq_true, beq_iff_eq] at whitelisted
    have noSlash (segment : List Char) (single : '/' ∉ segment) (isPath : path.toList = '/' :: segment) :
        False := by
      have prefixed := List.isPrefixOf_iff_prefix.mp leading
      rw [isPath, String.toList_append] at prefixed
      have empty := prefix_eq_nil_of_single_slash single prefixed
      exact absurd (String.toList_eq_nil_iff.mp empty) (by simpa using nonempty)
    rcases whitelisted with (rfl | rfl) | static
    · exact (noSlash "healthz".toList (by decide) rfl).elim
    · exact (noSlash "favicon.ico".toList (by decide) rfl).elim
    · exact static
  · exact absurd (if_neg leads) removed

theorem routePath_of_startsWith {path rootPath : String} (nonempty : rootPath ≠ "")
    (leads : Py.startsWith path (rootPath ++ "/") = true) :
    routePath path rootPath = Py.dropPrefix path rootPath := by
  rw [routePath, leads, Bool.and_true, if_pos (by simpa using nonempty)]

theorem normalizeForwardedPrefix_ne_empty {value : Option String} {normalized : String}
    (accepted : normalizeForwardedPrefix value = some normalized) : normalized ≠ "" := by
  cases value with
  | none => cases accepted
  | some value =>
    simp only [normalizeForwardedPrefix, Option.ite_none_left_eq_some, Bool.or_eq_true, beq_iff_eq,
      not_or, Option.some.injEq] at accepted
    exact accepted.2 ▸ accepted.1.1

/-! ## One middleware at a time -/

theorem router_dispatched {scope out : Scope} {world : World} {route : Route}
    (dispatched : (router scope world).1 = .dispatched route out) :
    findRoute (routePath scope.path scope.rootPath) scope.method = some route ∧ out = scope := by
  unfold router at dispatched
  split at dispatched
  · cases dispatched
  · next found =>
    cases dispatched
    exact ⟨found, rfl⟩

theorem authRateLimitMiddleware_dispatched {settings : WebSettings} {app : App} {scope out : Scope}
    {world : World} {route : Route}
    (dispatched : (authRateLimitMiddleware settings app scope world).1 = .dispatched route out)
    (guarded : isWhitelisted scope.path = false) :
    ∃ notify world',
      (app { scope with authRateLimitNotify := some notify } world').1 = .dispatched route out := by
  simp only [authRateLimitMiddleware, guarded, Bool.false_eq_true, ↓reduceIte] at dispatched
  split at dispatched
  · cases dispatched
  · next slot limiter _ =>
    refine ⟨(clientIp settings scope, slot),
      { world with limiter := limiter, authResultReceived := false }, ?_⟩
    split at dispatched
    · exact dispatched
    · exact dispatched

variable [PyText] [HttpLibraries]

theorem csrfMiddleware_dispatched {app : App} {scope out : Scope} {world : World} {route : Route}
    (dispatched : (csrfMiddleware app scope world).1 = .dispatched route out)
    (guarded : isWhitelisted scope.path = false) :
    (isProtectedMethod scope.method = true → ∃ token, csrfCookie scope.headers = some token ∧
      scope.headers.get "X-CSRF-Token" = some token) ∧
    (app scope world).1 = .dispatched route out := by
  simp only [csrfMiddleware, guarded, Bool.false_eq_true, ↓reduceIte] at dispatched
  split at dispatched
  · split at dispatched
    · next cookieToken headerToken cookie header =>
      split at dispatched
      · cases dispatched
      · cases dispatched
      · next agree =>
        refine ⟨fun _ => ⟨cookieToken, cookie, ?_⟩, dispatched⟩
        simp only [compareDigest, Option.ite_none_right_eq_some, Option.some.injEq, beq_iff_eq] at agree
        rw [header, agree.2]
    · cases dispatched
  · next free => exact ⟨fun isProtected => absurd isProtected free, dispatched⟩

theorem basicAuthMiddleware_dispatched {settings : WebSettings} {app : App} {scope out : Scope}
    {world : World} {route : Route}
    (dispatched : (basicAuthMiddleware settings app scope world).1 = .dispatched route out)
    (guarded : isWhitelisted scope.path = false) :
    ∃ username world',
      verifiedUsername (scope.headers.get "authorization") settings = .verified username ∧
      (app { scope with userUsername := some username } world').1 = .dispatched route out := by
  simp only [basicAuthMiddleware, guarded, Bool.false_eq_true, ↓reduceIte] at dispatched
  split at dispatched
  · cases dispatched
  · cases dispatched
  · next username verified => exact ⟨username, _, verified, dispatched⟩

/-! ## The stack -/

/-- The scope that the forwarded prefix leaves to the inner middlewares. -/
def Scope.prefixed (scope : Scope) : Scope :=
  { scope with
    rootPath := (normalizeForwardedPrefix (scope.headers.get "X-Forwarded-Prefix")).getD scope.rootPath }

theorem createApp_eq (settings : WebSettings) (scope : Scope) (world : World) :
    createApp settings scope world = authRateLimitMiddleware settings
      (basicAuthMiddleware settings (csrfMiddleware router)) scope.prefixed world := by
  simp only [createApp, forwardedPrefixMiddleware, Scope.prefixed]
  cases normalizeForwardedPrefix (scope.headers.get "X-Forwarded-Prefix") <;> rfl

/-- A whitelisted raw path goes straight to the router. -/
theorem createApp_of_isWhitelisted (settings : WebSettings) {scope : Scope} (world : World)
    (whitelisted : isWhitelisted scope.path = true) :
    createApp settings scope world = router scope.prefixed world := by
  have same : isWhitelisted scope.prefixed.path = true := whitelisted
  simp only [createApp_eq, authRateLimitMiddleware, basicAuthMiddleware, csrfMiddleware, same, ↓reduceIte]

/-- The request was not dispatched to a protected route, or its credentials were verified and, for a
method that changes state, its CSRF cookie and header agree. -/
def Response.Authenticated (settings : WebSettings) (request : Scope) (response : Response) : Prop :=
  ∀ route scope, response = .dispatched route scope → ¬ route.Public →
    (∃ username, scope.userUsername = some username ∧
      verifiedUsername (request.headers.get "authorization") settings = .verified username) ∧
    (isProtectedMethod request.method = true →
      ∃ token, csrfCookie request.headers = some token ∧ request.headers.get "X-CSRF-Token" = some token)

/-- Behind the whitelist every dispatched request has passed both checks. -/
theorem createApp_authenticated_of_guarded (settings : WebSettings) {request : Scope} (world : World)
    (guarded : isWhitelisted request.path = false) :
    (createApp settings request world).1.Authenticated settings request := by
  intro route out dispatched _
  rw [createApp_eq] at dispatched
  obtain ⟨notify, limited, dispatched⟩ :=
    authRateLimitMiddleware_dispatched dispatched guarded
  obtain ⟨username, admitted, verified, dispatched⟩ := basicAuthMiddleware_dispatched dispatched guarded
  obtain ⟨tokens, dispatched⟩ := csrfMiddleware_dispatched dispatched guarded
  obtain ⟨_, rfl⟩ := router_dispatched dispatched
  exact ⟨⟨username, rfl, verified⟩, tokens⟩

/-- A static path whose forwarded prefix is removed before a protected route is chosen. -/
def StaticPrefixBypass (path method : String) (headers : Headers) : Prop :=
  Py.startsWith path "/static/" = true ∧
    ∃ normalized, normalizeForwardedPrefix (headers.get "X-Forwarded-Prefix") = some normalized ∧
      Py.startsWith path (normalized ++ "/") = true ∧
      ∃ route, findRoute (Py.dropPrefix path normalized) method = some route ∧ ¬ route.Public

/-- The bypass reaches its route with no verified user. -/
theorem StaticPrefixBypass.not_authenticated {path method : String} {headers : Headers}
    (bypass : StaticPrefixBypass path method headers) (settings : WebSettings) (client : Option String)
    (world : World) :
    ¬ (createApp settings (.request path method headers client) world).1.Authenticated settings
      (.request path method headers client) := by
  obtain ⟨static, normalized, prefixEq, leads, route, found, isProtected⟩ := bypass
  intro authenticated
  have whitelisted : isWhitelisted path = true := by
    simp only [isWhitelisted, static, Bool.or_true]
  have dispatched : (createApp settings (.request path method headers client) world).1 =
      .dispatched route (Scope.request path method headers client).prefixed := by
    rw [createApp_of_isWhitelisted settings world whitelisted]
    simp only [router, Scope.prefixed, Scope.request, prefixEq, Option.getD_some]
    rw [routePath_of_startsWith (normalizeForwardedPrefix_ne_empty prefixEq) leads, found]
  obtain ⟨⟨username, verified, _⟩, _⟩ := authenticated route _ dispatched isProtected
  cases verified

/-- A whitelisted request without the bypass is dispatched to a public route or to none. -/
theorem createApp_authenticated_of_isWhitelisted (settings : WebSettings) {path method : String}
    {headers : Headers} (client : Option String) (world : World) (whitelisted : isWhitelisted path = true)
    (noBypass : ¬ StaticPrefixBypass path method headers) :
    (createApp settings (.request path method headers client) world).1.Authenticated settings
      (.request path method headers client) := by
  intro route out dispatched isProtected
  rw [createApp_of_isWhitelisted settings world whitelisted] at dispatched
  obtain ⟨found, _⟩ := router_dispatched dispatched
  change findRoute (routePath path _) method = some route at found
  by_cases removed : routePath path (Scope.request path method headers client).prefixed.rootPath = path
  · rw [removed] at found
    exact absurd (findRoute_of_isWhitelisted whitelisted found) isProtected
  · obtain ⟨static, leads, dropped⟩ := startsWith_static_of_routePath_ne whitelisted removed
    rw [dropped] at found
    simp only [Scope.prefixed, Scope.request] at leads found removed
    cases prefixEq : normalizeForwardedPrefix (headers.get "X-Forwarded-Prefix") with
    | none =>
      rw [prefixEq] at removed
      exact absurd rfl removed
    | some normalized =>
      rw [prefixEq] at leads found
      exact absurd ⟨static, normalized, prefixEq, leads, route, found, isProtected⟩ noBypass

/-- Authentication is complete exactly for the requests that do not hide a protected route behind a
forwarded static prefix. -/
theorem createApp_authenticated_iff (settings : WebSettings) (path method : String) (headers : Headers)
    (client : Option String) (world : World) :
    (createApp settings (.request path method headers client) world).1.Authenticated settings
        (.request path method headers client) ↔
      ¬ StaticPrefixBypass path method headers := by
  constructor
  · intro authenticated bypass
    exact bypass.not_authenticated settings client world authenticated
  · intro noBypass
    cases whitelisted : isWhitelisted path with
    | false => exact createApp_authenticated_of_guarded settings world whitelisted
    | true => exact createApp_authenticated_of_isWhitelisted settings client world whitelisted noBypass

omit [PyText] [HttpLibraries] in
/-- Starting a maintenance window needs neither credentials nor a token. -/
theorem not_authenticated_static_maintenance :
    ¬ ∀ [PyText] [HttpLibraries] (settings : WebSettings) (path method : String) (headers : Headers)
      (client : Option String) (world : World),
      (createApp settings (.request path method headers client) world).1.Authenticated settings
        (.request path method headers client) := by
  intro authenticated
  let _ := PyText.ascii
  let _ : HttpLibraries := ⟨fun _ _ => .mismatched, fun _ _ => none⟩
  have bypass : StaticPrefixBypass "/static/maintenance/start" "POST"
      [("x-forwarded-prefix", "/static")] :=
    ⟨by decide, "/static", by decide, by decide, ⟨["POST"], "/maintenance/start"⟩, by decide, by decide⟩
  exact bypass.not_authenticated ⟨"admin", "", 5, 2, fun _ => false, by decide, by decide⟩ none
    ⟨⟨∅, 0, 0⟩, 0, false⟩ (authenticated _ _ _ _ _ _)

end MegaraidDashboard.Web
