import MegaraidDashboard.Model.Web.Middleware

/-! # The authentication rate limiter -/

namespace MegaraidDashboard.Web

def windowMicroseconds : ℤ := 60000000

def globalPruneInterval : ℤ := 60000000

/-- `_evict_expired` -/
def evictExpired (attempts : List AttemptSlot) (now : ℤ) : List AttemptSlot :=
  attempts.dropWhile fun slot => decide (slot.recordedAt ≤ now - windowMicroseconds)

namespace Limiter

def queue (limiter : Limiter) (client : String) : List AttemptSlot :=
  (limiter.attempts.lookup client).getD []

/-- `_prune_expired_attempts` -/
def pruneExpiredAttempts (limiter : Limiter) (now : ℤ) : Limiter :=
  if now < limiter.nextGlobalPruneAt then limiter
  else
    { limiter with
      attempts := limiter.attempts.keys.foldl (fun attempts client =>
        let kept := evictExpired ((attempts.lookup client).getD []) now
        if kept.isEmpty then attempts.erase client else attempts.insert client kept) limiter.attempts
      nextGlobalPruneAt := now + globalPruneInterval }

/-- `_reserve_attempt_slot` -/
def reserveAttemptSlot (limit : ℕ) (limiter : Limiter) (client : String) (now : ℤ) :
    Option AttemptSlot × Limiter :=
  let limiter := limiter.pruneExpiredAttempts now
  let attempts := evictExpired (limiter.queue client) now
  if limit ≤ attempts.length then
    (none, { limiter with
      attempts := if attempts.isEmpty then limiter.attempts.erase client
        else limiter.attempts.insert client attempts })
  else
    let slot := ⟨limiter.nextSlot, now⟩
    (some slot, { limiter with
      attempts := limiter.attempts.insert client (attempts ++ [slot])
      nextSlot := limiter.nextSlot + 1 })

/-- `_release_attempt_slot` -/
def releaseAttemptSlot (limiter : Limiter) (client : String) (slot : AttemptSlot) : Limiter :=
  match limiter.attempts.lookup client with
  | none => limiter
  | some attempts =>
    if attempts.contains slot then
      let kept := attempts.erase slot
      { limiter with
        attempts := if kept.isEmpty then limiter.attempts.erase client
          else limiter.attempts.insert client kept }
    else limiter

end Limiter

/-- `_client_ip` -/
def clientIp (settings : WebSettings) (scope : Scope) : String :=
  let peerIp := scope.client.getD "unknown"
  match scope.headers.get "x-forwarded-for" with
  | some forwardedFor =>
    if settings.trustedPeer peerIp then
      let entries := (Py.split forwardedFor ',').map Py.strip
      (entries.reverse.find? fun entry => entry != "").getD peerIp
    else peerIp
  | none => peerIp

/-- `AuthRateLimitMiddleware` -/
def authRateLimitMiddleware (settings : WebSettings) (app : App) : App := fun scope world =>
  if isWhitelisted scope.path then app scope world
  else
    let client := clientIp settings scope
    match world.limiter.reserveAttemptSlot
        (settings.authRateLimitPerMinute + settings.authRateLimitBurst) client world.now with
    | (none, limiter) => (.tooManyRequests, { world with limiter := limiter })
    | (some slot, limiter) =>
      let result := app { scope with authRateLimitNotify := some (client, slot) }
        { world with limiter := limiter, authResultReceived := false }
      -- A response without a verdict on the credentials gives its slot back, unless it is a 401.
      if result.2.authResultReceived || result.1 == .unauthorized then result
      else (result.1, { result.2 with limiter := result.2.limiter.releaseAttemptSlot client slot })

end MegaraidDashboard.Web
