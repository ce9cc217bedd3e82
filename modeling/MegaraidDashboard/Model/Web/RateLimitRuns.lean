import MegaraidDashboard.Model.Web.RateLimit

/-! # Requests in flight at the rate limiter

The limiter holds its lock across no suspension, so a reservation and a release are one step each. The
authentication middleware behind it gives one verdict on the credentials of a request.
-/

namespace MegaraidDashboard.Web

/-- A request that waits for the inner application; `rejected` is kept for the statements. -/
structure PendingRequest where
  client : String
  slot : AttemptSlot
  authResultReceived : Bool
  rejected : Bool
deriving DecidableEq, Repr

/-- The limiter with its requests, the latest clock reading and the admitted attempts that no step released. -/
structure LimiterRun where
  limiter : Limiter
  pending : List PendingRequest
  clock : ℤ
  unreleased : List (String × AttemptSlot)

/-- `AuthRateLimitMiddleware.__init__` -/
def LimiterRun.initial (now : ℤ) : LimiterRun where
  limiter := ⟨∅, now + globalPruneInterval, 0⟩
  pending := []
  clock := now
  unreleased := []

inductive LimiterStep where
  | request (client : String) (now : ℤ)
  /-- `notify_auth_result` -/
  | verdict (id : ℕ) (credentialsValid : Bool)
  /-- The inner application returns; no status was sent where it is `none`. -/
  | complete (id : ℕ) (statusCode : Option ℕ)
  | fail (id : ℕ)
  | cancel (id : ℕ)
deriving DecidableEq, Repr

namespace LimiterRun

def find (run : LimiterRun) (id : ℕ) : Option PendingRequest := run.pending.find? fun request => request.slot.id == id

/-- `_release_attempt_slot`; a slot that expired before is not released. -/
def release (run : LimiterRun) (request : PendingRequest) : LimiterRun :=
  { run with
    limiter := run.limiter.releaseAttemptSlot request.client request.slot
    unreleased := if (run.limiter.queue request.client).contains request.slot then
      run.unreleased.erase (request.client, request.slot) else run.unreleased }

/-- The end of a request; its slot is released unless a verdict came before. -/
def finish (run : LimiterRun) (id : ℕ) (releases : Bool) : LimiterRun :=
  match run.find id with
  | none => run
  | some request =>
    let run := { run with pending := run.pending.erase request }
    if !request.authResultReceived && releases then run.release request else run

def step (limit : ℕ) (run : LimiterRun) : LimiterStep → LimiterRun
  | .request client now =>
    match run.limiter.reserveAttemptSlot limit client now with
    | (none, limiter) => { run with limiter := limiter, clock := max run.clock now }
    | (some slot, limiter) =>
      { limiter := limiter
        pending := run.pending ++ [⟨client, slot, false, false⟩]
        clock := max run.clock now
        unreleased := run.unreleased ++ [(client, slot)] }
  | .verdict id credentialsValid =>
    match run.find id with
    | none => run
    | some request =>
      if request.authResultReceived then run
      else
        let judged := { request with authResultReceived := true, rejected := !credentialsValid }
        let run := { run with pending := run.pending.map fun other => if other = request then judged else other }
        if credentialsValid then run.release request else run
  | .complete id statusCode => run.finish id (statusCode != some 401)
  | .fail id => run.finish id true
  | .cancel id => run.finish id true

end LimiterRun

end MegaraidDashboard.Web
