import Mathlib.Data.List.DropRight
import MegaraidDashboard.Machine.Run
import MegaraidDashboard.Model.Web.RateLimitRuns

/-! # The bound on admitted attempts

The queue of a client is what is left of its unreleased attempts after a cutoff that lies a window in the
past, whatever the prune and the other clients did. An attempt is admitted when fewer than the limit of
the client's own attempts lie in the last window, so no window can hold more.
-/

namespace MegaraidDashboard.Web

open Machine

/-! ## Queues -/

def queueOf (attempts : AList (fun _ : String => List AttemptSlot)) (client : String) : List AttemptSlot :=
  (attempts.lookup client).getD []

/-- No client has an empty queue. -/
def NoEmptyQueue (attempts : AList (fun _ : String => List AttemptSlot)) : Prop :=
  ∀ client queue, attempts.lookup client = some queue → queue ≠ []

/-- Store a queue, and forget the client when it is empty. -/
def storeQueue (attempts : AList (fun _ : String => List AttemptSlot)) (client : String) (queue : List AttemptSlot) :
    AList (fun _ : String => List AttemptSlot) :=
  if queue.isEmpty then attempts.erase client else attempts.insert client queue

section Queues

variable {attempts : AList (fun _ : String => List AttemptSlot)} {client other : String} {queue : List AttemptSlot}

theorem queueOf_storeQueue_self : queueOf (storeQueue attempts client queue) client = queue := by
  unfold storeQueue queueOf
  cases queue with
  | nil => simp
  | cons slot rest => simp

theorem queueOf_storeQueue_of_ne (distinct : other ≠ client) :
    queueOf (storeQueue attempts client queue) other = queueOf attempts other := by
  unfold storeQueue queueOf
  split
  · rw [AList.lookup_erase_ne distinct]
  · rw [AList.lookup_insert_ne distinct]

theorem NoEmptyQueue.storeQueue (stored : NoEmptyQueue attempts) (client : String) (queue : List AttemptSlot) :
    NoEmptyQueue (Web.storeQueue attempts client queue) := by
  intro key kept found
  by_cases same : key = client
  · subst same
    cases queue with
    | nil => simp [Web.storeQueue] at found
    | cons slot rest =>
      simp only [Web.storeQueue, List.isEmpty_cons, Bool.false_eq_true, ↓reduceIte, AList.lookup_insert,
        Option.some.injEq] at found
      rw [← found]
      exact List.cons_ne_nil _ _
  · unfold Web.storeQueue at found
    split at found
    · rw [AList.lookup_erase_ne same] at found
      exact stored key kept found
    · rw [AList.lookup_insert_ne same] at found
      exact stored key kept found

end Queues

/-! ## The prune -/

theorem evictExpired_evictExpired (queue : List AttemptSlot) (now : ℤ) :
    evictExpired (evictExpired queue now) now = evictExpired queue now :=
  List.dropWhile_idempotent _ _

/-- In the order of their times the expired slots stand in front. -/
theorem evictExpired_eq_filter {queue : List AttemptSlot}
    (sorted : queue.Pairwise fun first second => first.recordedAt ≤ second.recordedAt) (now : ℤ) :
    evictExpired queue now = queue.filter fun slot => decide (now - windowMicroseconds < slot.recordedAt) := by
  induction queue with
  | nil => rfl
  | cons slot rest ih =>
    obtain ⟨first, tail⟩ := List.pairwise_cons.mp sorted
    have ordered := ih tail
    unfold evictExpired at ordered ⊢
    by_cases expired : slot.recordedAt ≤ now - windowMicroseconds
    · rw [List.dropWhile_cons_of_pos (by simpa using expired), ordered,
        List.filter_cons_of_neg (by simpa using expired)]
    · have kept : ∀ later ∈ slot :: rest, decide (now - windowMicroseconds < later.recordedAt) = true := by
        intro later member
        rw [decide_eq_true_eq]
        rcases List.mem_cons.mp member with rfl | behind
        · omega
        · have later := first later behind
          omega
      rw [List.dropWhile_cons_of_neg (by simpa using expired), List.filter_eq_self.mpr kept]

theorem prune_foldl (keys : List String) (now : ℤ) (attempts : AList (fun _ : String => List AttemptSlot)) :
    let pruned := keys.foldl (fun attempts client =>
      let kept := evictExpired ((attempts.lookup client).getD []) now
      if kept.isEmpty then attempts.erase client else attempts.insert client kept) attempts
    (∀ client, queueOf pruned client =
      if client ∈ keys then evictExpired (queueOf attempts client) now else queueOf attempts client) ∧
    (NoEmptyQueue attempts → NoEmptyQueue pruned) := by
  induction keys generalizing attempts with
  | nil => exact ⟨fun client => by simp, id⟩
  | cons key rest ih =>
    obtain ⟨queues, stored⟩ := ih (storeQueue attempts key (evictExpired (queueOf attempts key) now))
    refine ⟨?_, fun before => stored (before.storeQueue _ _)⟩
    intro client
    refine (queues client).trans ?_
    by_cases same : client = key
    · subst same
      rw [queueOf_storeQueue_self, if_pos List.mem_cons_self, evictExpired_evictExpired, ite_self]
    · rw [queueOf_storeQueue_of_ne same]
      simp only [List.mem_cons, same, false_or]

theorem queue_pruneExpiredAttempts (limiter : Limiter) (now : ℤ) (client : String) :
    (limiter.pruneExpiredAttempts now).queue client =
      if now < limiter.nextGlobalPruneAt then limiter.queue client else evictExpired (limiter.queue client) now := by
  unfold Limiter.pruneExpiredAttempts
  split
  · rfl
  · refine ((prune_foldl limiter.attempts.keys now limiter.attempts).1 client).trans ?_
    by_cases stored : client ∈ limiter.attempts.keys
    · rw [if_pos stored]
      rfl
    · have missing : limiter.attempts.lookup client = none := AList.lookup_eq_none.mpr stored
      rw [if_neg stored]
      unfold queueOf Limiter.queue
      rw [missing]
      rfl

theorem noEmptyQueue_pruneExpiredAttempts {limiter : Limiter} (stored : NoEmptyQueue limiter.attempts) (now : ℤ) :
    NoEmptyQueue (limiter.pruneExpiredAttempts now).attempts := by
  unfold Limiter.pruneExpiredAttempts
  split
  · exact stored
  · exact (prune_foldl limiter.attempts.keys now limiter.attempts).2 stored

theorem nextSlot_pruneExpiredAttempts (limiter : Limiter) (now : ℤ) :
    (limiter.pruneExpiredAttempts now).nextSlot = limiter.nextSlot := by
  unfold Limiter.pruneExpiredAttempts
  split
  · rfl
  · rfl

/-! ## Reservation and release -/

section Operations

variable {limit : ℕ} {limiter after : Limiter} {client : String} {now : ℤ}

/-- The attempts of the client that a reservation counts. -/
def Limiter.counted (limiter : Limiter) (client : String) (now : ℤ) : List AttemptSlot :=
  evictExpired ((limiter.pruneExpiredAttempts now).queue client) now

theorem counted_eq (limiter : Limiter) (client : String) (now : ℤ) :
    limiter.counted client now = evictExpired (limiter.queue client) now := by
  unfold Limiter.counted
  rw [queue_pruneExpiredAttempts]
  split
  · rfl
  · rw [evictExpired_evictExpired]

theorem reserveAttemptSlot_eq (limit : ℕ) (limiter : Limiter) (client : String) (now : ℤ) :
    limiter.reserveAttemptSlot limit client now =
      if limit ≤ (limiter.counted client now).length then
        (none, { limiter.pruneExpiredAttempts now with
          attempts := storeQueue (limiter.pruneExpiredAttempts now).attempts client (limiter.counted client now) })
      else
        (some ⟨limiter.nextSlot, now⟩, { limiter.pruneExpiredAttempts now with
          attempts := storeQueue (limiter.pruneExpiredAttempts now).attempts client
            (limiter.counted client now ++ [⟨limiter.nextSlot, now⟩])
          nextSlot := limiter.nextSlot + 1 }) := by
  unfold Limiter.reserveAttemptSlot
  dsimp only
  have sameSlot := nextSlot_pruneExpiredAttempts limiter now
  by_cases full : limit ≤ (limiter.counted client now).length
  · rw [if_pos full]
    exact if_pos full
  · have stored : (limiter.counted client now ++ [(⟨limiter.nextSlot, now⟩ : AttemptSlot)]).isEmpty = false := by
      simp
    rw [if_neg full, storeQueue, stored, ← sameSlot]
    exact if_neg full

/-- A release removes the slot of its client and nothing else. -/
theorem queue_releaseAttemptSlot (limiter : Limiter) (client other : String) (slot : AttemptSlot) :
    (limiter.releaseAttemptSlot client slot).queue other =
      if other = client then (limiter.queue client).erase slot else limiter.queue other := by
  unfold Limiter.releaseAttemptSlot
  cases found : limiter.attempts.lookup client with
  | none =>
    dsimp only
    split
    · next same =>
      subst same
      simp only [Limiter.queue, found, Option.getD_none, List.erase_nil]
    · rfl
  | some queue =>
    have current : limiter.queue client = queue := by rw [Limiter.queue, found, Option.getD_some]
    dsimp only
    rw [current]
    split
    · change queueOf (storeQueue limiter.attempts client (queue.erase slot)) other = _
      split
      · next same =>
        subst same
        exact queueOf_storeQueue_self
      · next distinct => exact queueOf_storeQueue_of_ne distinct
    · next absent =>
      have gone : slot ∉ queue := by simpa using absent
      split
      · next same =>
        subst same
        rw [current, List.erase_of_not_mem gone]
      · rfl

theorem noEmptyQueue_releaseAttemptSlot (stored : NoEmptyQueue limiter.attempts) (client : String)
    (slot : AttemptSlot) : NoEmptyQueue (limiter.releaseAttemptSlot client slot).attempts := by
  unfold Limiter.releaseAttemptSlot
  cases limiter.attempts.lookup client with
  | none => exact stored
  | some queue =>
    dsimp only
    split
    · exact stored.storeQueue client (queue.erase slot)
    · exact stored

theorem nextSlot_releaseAttemptSlot (limiter : Limiter) (client : String) (slot : AttemptSlot) :
    (limiter.releaseAttemptSlot client slot).nextSlot = limiter.nextSlot := by
  unfold Limiter.releaseAttemptSlot
  split
  · rfl
  · split <;> rfl

end Operations

/-! ## The contract -/

/-- The unreleased attempts of a client in their order. -/
def LimiterRun.own (run : LimiterRun) (client : String) : List AttemptSlot :=
  (run.unreleased.filter fun attempt => attempt.1 == client).map Prod.snd

/-- The clock of the requests does not go back. -/
def LimiterRun.Timely (run : LimiterRun) : LimiterStep → Prop
  | .request _ now => run.clock ≤ now
  | _ => True

instance (run : LimiterRun) : ∀ label, Decidable (run.Timely label)
  | .request _ now => inferInstanceAs (Decidable (run.clock ≤ now))
  | .verdict _ _ | .complete _ _ | .fail _ | .cancel _ => .isTrue trivial

/-- The request that a step is about, other than a new one. -/
def LimiterStep.subject? : LimiterStep → Option ℕ
  | .request _ _ => none
  | .verdict id _ | .complete id _ | .fail id | .cancel id => some id

structure LimiterRun.Contract (limit : ℕ) (run : LimiterRun) : Prop where
  /-- No window holds more than the limit, whichever of its ends it includes. -/
  window : ∀ client start,
    ((run.own client).filter fun slot =>
      decide (start < slot.recordedAt ∧ slot.recordedAt ≤ start + windowMicroseconds)).length ≤ limit ∧
    ((run.own client).filter fun slot =>
      decide (start ≤ slot.recordedAt ∧ slot.recordedAt < start + windowMicroseconds)).length ≤ limit
  /-- A step of a request takes at most its own slot out, and none after a rejection. -/
  releases : ∀ label id, label.subject? = some id →
    ((run.step limit label).limiter = run.limiter ∨ ∃ request ∈ run.pending, request.slot.id = id ∧
      ∀ client, (run.step limit label).limiter.queue client =
        if client = request.client then (run.limiter.queue request.client).erase request.slot
        else run.limiter.queue client) ∧
    ∀ request, run.find id = some request → request.rejected = true →
      (run.step limit label).limiter = run.limiter
  /-- Only the client's own attempts of the last window decide. -/
  admits : ∀ client now, run.clock ≤ now →
    ((run.limiter.reserveAttemptSlot limit client now).1.isSome = true ↔
      ((run.own client).filter fun slot => decide (now - windowMicroseconds < slot.recordedAt)).length < limit)
  stored : ∀ client queue, run.limiter.attempts.lookup client = some queue → queue ≠ []

/-! ## The invariant -/

/-- No two of the times lie a whole window apart. -/
def WithinWindow (inside : ℤ → Bool) : Prop :=
  ∀ first second, inside first = true → inside second = true → second - windowMicroseconds < first

structure LimiterRun.Sound (limit : ℕ) (run : LimiterRun) : Prop where
  sorted : run.unreleased.Pairwise fun first second => first.2.recordedAt ≤ second.2.recordedAt
  past : ∀ attempt ∈ run.unreleased, attempt.2.recordedAt ≤ run.clock
  ids : (run.unreleased.map (·.2.id)).Nodup
  fresh : ∀ attempt ∈ run.unreleased, attempt.2.id < run.limiter.nextSlot
  queues : ∀ client, ∃ cutoff ≤ run.clock - windowMicroseconds,
    run.limiter.queue client = (run.own client).filter fun slot => decide (cutoff < slot.recordedAt)
  stored : NoEmptyQueue run.limiter.attempts
  window : ∀ client inside, WithinWindow inside →
    ((run.own client).filter fun slot => inside slot.recordedAt).length ≤ limit
  rejected : ∀ request ∈ run.pending, request.rejected = true → request.authResultReceived = true

theorem LimiterRun.sound_initial (limit : ℕ) (now : ℤ) : (LimiterRun.initial now).Sound limit where
  sorted := List.Pairwise.nil
  past _ member := by cases member
  ids := List.nodup_nil
  fresh _ member := by cases member
  queues _ := ⟨now - windowMicroseconds, Int.le_refl _, rfl⟩
  stored _ _ found := by cases found
  window _ _ _ := Nat.zero_le _
  rejected _ member := by cases member

namespace LimiterRun.Sound

variable {limit : ℕ} {run : LimiterRun} (sound : run.Sound limit)

include sound

theorem own_sorted (client : String) :
    (run.own client).Pairwise fun first second => first.recordedAt ≤ second.recordedAt :=
  List.pairwise_map.mpr (sound.sorted.filter _)

/-- The attempts that a reservation counts are those of the last window. -/
theorem counted {now : ℤ} (ordered : run.clock ≤ now) (client : String) :
    run.limiter.counted client now =
      (run.own client).filter fun slot => decide (now - windowMicroseconds < slot.recordedAt) := by
  obtain ⟨cutoff, passed, queue⟩ := sound.queues client
  rw [counted_eq, queue, evictExpired_eq_filter ((sound.own_sorted client).filter _), List.filter_filter]
  apply List.filter_congr
  intro slot member
  rw [← Bool.decide_and]
  apply decide_eq_decide.mpr
  omega

/-- A prune moves the cutoffs to the start of the last window. -/
theorem pruned_queue {now : ℤ} (ordered : run.clock ≤ now) (client : String) :
    ∃ cutoff ≤ now - windowMicroseconds, (run.limiter.pruneExpiredAttempts now).queue client =
      (run.own client).filter fun slot => decide (cutoff < slot.recordedAt) := by
  rw [queue_pruneExpiredAttempts]
  split
  · obtain ⟨cutoff, passed, queue⟩ := sound.queues client
    exact ⟨cutoff, by omega, queue⟩
  · rw [← counted_eq, sound.counted ordered]
    exact ⟨_, Int.le_refl _, rfl⟩

theorem admits (client : String) (now : ℤ) (ordered : run.clock ≤ now) :
    (run.limiter.reserveAttemptSlot limit client now).1.isSome = true ↔
      ((run.own client).filter fun slot => decide (now - windowMicroseconds < slot.recordedAt)).length < limit := by
  rw [reserveAttemptSlot_eq, ← sound.counted ordered client]
  split
  · next full => simpa using full
  · next free => simpa using free

/-! ### Releases -/

omit sound in
theorem own_erase (unique : run.unreleased.Nodup) (client other : String) (slot : AttemptSlot) :
    ((run.unreleased.erase (client, slot)).filter fun attempt => attempt.1 == other).map Prod.snd =
      if other = client then (run.own client).filter (· != slot) else run.own other := by
  rw [unique.erase_eq_filter, List.filter_filter]
  split
  · next same =>
    subst same
    rw [LimiterRun.own, List.filter_map, List.filter_filter]
    congr 1
    apply List.filter_congr
    rintro ⟨owner, kept⟩ -
    rw [Bool.eq_iff_iff]
    simp only [Function.comp_apply, Bool.and_eq_true, beq_iff_eq, bne_iff_ne, ne_eq, Prod.mk.injEq]
    tauto
  · next distinct =>
    rw [LimiterRun.own]
    congr 1
    apply List.filter_congr
    rintro ⟨owner, kept⟩ -
    rw [Bool.eq_iff_iff]
    simp only [Bool.and_eq_true, beq_iff_eq, bne_iff_ne, ne_eq, Prod.mk.injEq]
    constructor
    · exact fun both => both.1
    · intro owns
      exact ⟨owns, fun both => distinct (owns.symm.trans both.1)⟩

theorem unreleased_nodup : run.unreleased.Nodup := sound.ids.of_map _

theorem own_nodup (client : String) : (run.own client).Nodup := by
  have ids : ((run.own client).map (·.id)).Nodup := by
    rw [LimiterRun.own, List.map_map]
    exact sound.ids.sublist (List.filter_sublist.map _)
  exact ids.of_map _

theorem release (request : PendingRequest) : (run.release request).Sound limit := by
  by_cases held : (run.limiter.queue request.client).contains request.slot = true
  · have own : ∀ other, (run.release request).own other = if other = request.client then
        (run.own request.client).filter (· != request.slot) else run.own other := by
      intro other
      rw [← own_erase sound.unreleased_nodup]
      simp only [LimiterRun.own, LimiterRun.release, held, ↓reduceIte]
    have fewer : (run.release request).unreleased.Sublist run.unreleased := by
      simp only [LimiterRun.release, held, ↓reduceIte]
      exact List.erase_sublist
    refine ⟨sound.sorted.sublist fewer, fun attempt member => sound.past attempt (fewer.subset member),
      sound.ids.sublist (fewer.map _), ?_, ?_, noEmptyQueue_releaseAttemptSlot sound.stored _ _, ?_, sound.rejected⟩
    · intro attempt member
      refine (sound.fresh attempt (fewer.subset member)).trans_eq ?_
      exact (nextSlot_releaseAttemptSlot _ _ _).symm
    · intro client
      obtain ⟨cutoff, passed, queue⟩ := sound.queues client
      refine ⟨cutoff, passed, ?_⟩
      rw [own]
      refine (queue_releaseAttemptSlot run.limiter request.client client request.slot).trans ?_
      split
      · next same =>
        subst same
        rw [queue, ((sound.own_nodup _).filter _).erase_eq_filter, List.filter_filter, List.filter_filter]
        apply List.filter_congr
        intro slot _
        rw [Bool.and_comm]
      · exact queue
    · intro client inside narrow
      rw [own]
      split
      · next same =>
        subst same
        exact ((List.filter_sublist.filter _).length_le).trans (sound.window _ inside narrow)
      · exact sound.window client inside narrow
  · have absent : request.slot ∉ run.limiter.queue request.client := by simpa using held
    have kept : ∀ client, (run.release request).limiter.queue client = run.limiter.queue client := by
      intro client
      refine (queue_releaseAttemptSlot run.limiter request.client client request.slot).trans ?_
      split
      · next same => rw [same, List.erase_of_not_mem absent]
      · rfl
    have same : (run.release request).unreleased = run.unreleased := by
      simp only [LimiterRun.release, held, Bool.false_eq_true, ↓reduceIte]
    have own : ∀ client, (run.release request).own client = run.own client := by
      intro client
      rw [LimiterRun.own, same]
      rfl
    refine ⟨same ▸ sound.sorted, same ▸ sound.past, same ▸ sound.ids, ?_, ?_,
      noEmptyQueue_releaseAttemptSlot sound.stored _ _, ?_, sound.rejected⟩
    · rw [same]
      intro attempt member
      exact (sound.fresh attempt member).trans_eq (nextSlot_releaseAttemptSlot _ _ _).symm
    · intro client
      obtain ⟨cutoff, passed, queue⟩ := sound.queues client
      exact ⟨cutoff, passed, (kept client).trans (own client ▸ queue)⟩
    · intro client inside narrow
      rw [own]
      exact sound.window client inside narrow

/-- The pending requests matter only for their verdicts. -/
theorem setPending {pending : List PendingRequest}
    (rejected : ∀ request ∈ pending, request.rejected = true → request.authResultReceived = true) :
    ({ run with pending := pending } : LimiterRun).Sound limit :=
  ⟨sound.sorted, sound.past, sound.ids, sound.fresh, sound.queues, sound.stored, sound.window, rejected⟩

theorem finish (id : ℕ) (releases : Bool) : (run.finish id releases).Sound limit := by
  unfold LimiterRun.finish
  split
  · exact sound
  · next request _ =>
    have ended : ({ run with pending := run.pending.erase request } : LimiterRun).Sound limit :=
      sound.setPending fun other member => sound.rejected other (List.mem_of_mem_erase member)
    dsimp only
    split
    · exact ended.release request
    · exact ended

/-! ### Requests -/

theorem request (client : String) {now : ℤ} (ordered : run.clock ≤ now) :
    (run.step limit (.request client now)).Sound limit := by
  have later : max run.clock now = now := Int.max_eq_right ordered
  have past : ∀ attempt ∈ run.unreleased, attempt.2.recordedAt ≤ now := fun attempt member =>
    Int.le_trans (sound.past attempt member) ordered
  have stored := noEmptyQueue_pruneExpiredAttempts sound.stored now
  unfold LimiterRun.step
  dsimp only
  rw [reserveAttemptSlot_eq]
  by_cases full : limit ≤ (run.limiter.counted client now).length
  · rw [if_pos full]
    dsimp only
    rw [later, sound.counted ordered client]
    have fresh : ∀ attempt ∈ run.unreleased, attempt.2.id < (run.limiter.pruneExpiredAttempts now).nextSlot := by
      rw [nextSlot_pruneExpiredAttempts]
      exact sound.fresh
    refine ⟨sound.sorted, past, sound.ids, fresh, ?_, stored.storeQueue _ _, sound.window, sound.rejected⟩
    intro other
    by_cases same : other = client
    · subst same
      exact ⟨_, Int.le_refl _, queueOf_storeQueue_self⟩
    · obtain ⟨cutoff, passed, queue⟩ := sound.pruned_queue ordered other
      exact ⟨cutoff, passed, (queueOf_storeQueue_of_ne same).trans queue⟩
  · rw [if_neg full]
    dsimp only
    rw [later, sound.counted ordered client]
    let slot : AttemptSlot := ⟨run.limiter.nextSlot, now⟩
    have own : ∀ other, ((run.unreleased ++ [(client, slot)]).filter fun attempt => attempt.1 == other).map Prod.snd =
        if other = client then run.own client ++ [slot] else run.own other := by
      intro other
      rw [List.filter_append, List.map_append]
      split
      · next same =>
        subst same
        simp [LimiterRun.own]
      · next distinct => simp [LimiterRun.own, Ne.symm distinct]
    refine ⟨?_, ?_, ?_, ?_, ?_, stored.storeQueue _ _, ?_, ?_⟩
    · rw [List.pairwise_append]
      refine ⟨sound.sorted, List.pairwise_singleton _ _, ?_⟩
      intro earlier member last new
      obtain rfl := List.mem_singleton.mp new
      exact past earlier member
    · intro attempt member
      rcases List.mem_append.mp member with old | new
      · exact past attempt old
      · obtain rfl := List.mem_singleton.mp new
        exact Int.le_refl _
    · rw [List.map_append, List.nodup_append]
      refine ⟨sound.ids, List.nodup_singleton _, ?_⟩
      rintro _ listed _ new rfl
      obtain ⟨attempt, member, same⟩ := List.mem_map.mp listed
      obtain rfl := List.mem_singleton.mp new
      exact absurd same (sound.fresh attempt member).ne
    · intro attempt member
      rcases List.mem_append.mp member with old | new
      · exact (sound.fresh attempt old).trans (Nat.lt_succ_self _)
      · obtain rfl := List.mem_singleton.mp new
        exact Nat.lt_succ_self _
    · intro other
      unfold LimiterRun.own
      rw [own]
      split
      · next same =>
        subst same
        refine ⟨now - windowMicroseconds, Int.le_refl _, queueOf_storeQueue_self.trans ?_⟩
        have inside : now - windowMicroseconds < slot.recordedAt := by
          simp only [slot, windowMicroseconds]
          omega
        rw [List.filter_append, List.filter_singleton, decide_eq_true inside]
        rfl
      · next distinct =>
        obtain ⟨cutoff, passed, queue⟩ := sound.pruned_queue ordered other
        exact ⟨cutoff, passed, (queueOf_storeQueue_of_ne distinct).trans queue⟩
    · intro other inside narrow
      unfold LimiterRun.own
      rw [own]
      split
      · next same =>
        subst same
        rw [List.filter_append, List.length_append]
        cases held : inside now with
        | true =>
          -- Every attempt of a window that holds this one is counted by the reservation.
          have counted : ((run.own other).filter fun slot => inside slot.recordedAt).length ≤
              (run.limiter.counted other now).length := by
            rw [sound.counted ordered, ← List.countP_eq_length_filter, ← List.countP_eq_length_filter]
            apply List.countP_mono_left
            intro earlier _ within
            rw [decide_eq_true_eq]
            exact narrow _ _ within held
          have single : ([slot].filter fun slot => inside slot.recordedAt).length ≤ 1 := List.length_filter_le _ _
          omega
        | false =>
          have outside : ([slot].filter fun slot => inside slot.recordedAt) = [] := by
            rw [List.filter_singleton, held]
            rfl
          rw [outside]
          exact sound.window other inside narrow
      · exact sound.window other inside narrow
    · intro request member
      rcases List.mem_append.mp member with old | new
      · exact sound.rejected request old
      · obtain rfl := List.mem_singleton.mp new
        intro wrong
        cases wrong

theorem verdict (id : ℕ) (credentialsValid : Bool) :
    (run.step limit (.verdict id credentialsValid)).Sound limit := by
  unfold LimiterRun.step
  dsimp only
  split
  · exact sound
  · next request _ =>
    split
    · exact sound
    · have judged : ({ run with
          pending := run.pending.map fun other => if other = request then
            { request with authResultReceived := true, rejected := !credentialsValid } else other } :
          LimiterRun).Sound limit := by
        apply sound.setPending
        intro other member
        obtain ⟨old, stored, rfl⟩ := List.mem_map.mp member
        split
        · exact fun _ => rfl
        · exact sound.rejected old stored
      split
      · exact judged.release request
      · exact judged

theorem step (label : LimiterStep) (timely : run.Timely label) : (run.step limit label).Sound limit := by
  cases label with
  | request client now => exact sound.request client timely
  | verdict id credentialsValid => exact sound.verdict id credentialsValid
  | complete id statusCode => exact sound.finish id (statusCode != some 401)
  | fail id => exact sound.finish id true
  | cancel id => exact sound.finish id true

end LimiterRun.Sound

/-! ## The result -/

theorem LimiterRun.mem_of_find {run : LimiterRun} {id : ℕ} {request : PendingRequest}
    (found : run.find id = some request) : request ∈ run.pending ∧ request.slot.id = id := by
  have hit := List.find?_some found
  rw [beq_iff_eq] at hit
  exact ⟨List.mem_of_find?_eq_some found, hit⟩

/-- The end of a request changes nothing, or takes its own slot out when there was no verdict. -/
theorem LimiterRun.finish_limiter (run : LimiterRun) (id : ℕ) (releases : Bool) :
    (run.finish id releases).limiter = run.limiter ∨ ∃ request, run.find id = some request ∧
      request.authResultReceived = false ∧
      (run.finish id releases).limiter = run.limiter.releaseAttemptSlot request.client request.slot := by
  unfold LimiterRun.finish
  cases found : run.find id with
  | none => exact .inl rfl
  | some request =>
    dsimp only
    split
    · next free =>
      rw [Bool.and_eq_true, Bool.not_eq_true'] at free
      exact .inr ⟨request, rfl, free.1, rfl⟩
    · exact .inl rfl

theorem LimiterRun.step_limiter {limit : ℕ} {run : LimiterRun} {label : LimiterStep} {id : ℕ}
    (about : label.subject? = some id) :
    (run.step limit label).limiter = run.limiter ∨ ∃ request, run.find id = some request ∧
      request.authResultReceived = false ∧
      (run.step limit label).limiter = run.limiter.releaseAttemptSlot request.client request.slot := by
  cases label with
  | request client now => cases about
  | verdict other credentialsValid =>
    obtain rfl := Option.some.inj about
    unfold LimiterRun.step
    dsimp only
    cases found : run.find other with
    | none => exact .inl rfl
    | some request =>
      dsimp only
      split
      · exact .inl rfl
      · next first =>
        split
        · exact .inr ⟨request, rfl, Bool.eq_false_iff.mpr first, rfl⟩
        · exact .inl rfl
  | complete other statusCode =>
    obtain rfl := Option.some.inj about
    exact run.finish_limiter other (statusCode != some 401)
  | fail other | cancel other =>
    obtain rfl := Option.some.inj about
    exact run.finish_limiter other true

theorem LimiterRun.Sound.contract {limit : ℕ} {run : LimiterRun} (sound : run.Sound limit) :
    run.Contract limit where
  window client start := by
    constructor
    · apply sound.window client fun time => decide (start < time ∧ time ≤ start + windowMicroseconds)
      intro first second low high
      rw [decide_eq_true_eq] at low high
      omega
    · apply sound.window client fun time => decide (start ≤ time ∧ time < start + windowMicroseconds)
      intro first second low high
      rw [decide_eq_true_eq] at low high
      omega
  releases label id about := by
    constructor
    · rcases run.step_limiter about with same | ⟨request, found, -, released⟩
      · exact .inl same
      · obtain ⟨member, own⟩ := LimiterRun.mem_of_find found
        refine .inr ⟨request, member, own, fun client => ?_⟩
        rw [released]
        exact queue_releaseAttemptSlot _ _ _ _
    · intro request found rejected
      rcases run.step_limiter about with same | ⟨other, again, unjudged, -⟩
      · exact same
      · obtain rfl := Option.some.inj (found.symm.trans again)
        have received := sound.rejected request (LimiterRun.mem_of_find found).1 rejected
        cases unjudged.symm.trans received
  admits := sound.admits
  stored := sound.stored

/-- Whatever requests, verdicts, ends and cancellations interleave, the limiter keeps its contract. -/
theorem auth_rate_limiter_contract (limit : ℕ) (now : ℤ) (labels : List LimiterStep)
    (guarded : Guarded (LimiterRun.step limit) LimiterRun.Timely (.initial now) labels) :
    (labels.foldl (LimiterRun.step limit) (.initial now)).Contract limit := by
  have sound := guarded.invariant (LimiterRun.sound_initial limit now) fun run label kept timely =>
    kept.step label timely
  exact sound.contract

/-- Two rejected requests fill a limit of two, and the third is turned away. -/
theorem auth_rate_limiter_contract_full :
    let labels : List LimiterStep := [.request "203.0.113.10" 5, .verdict 0 false, .request "203.0.113.10" 5,
      .complete 0 (some 401), .verdict 1 false, .request "203.0.113.10" 7, .cancel 1]
    let run := labels.foldl (LimiterRun.step 2) (.initial 0)
    run.unreleased.length = 2 ∧ run.Contract 2 := by
  exact ⟨by decide, auth_rate_limiter_contract 2 0 _ (by decide)⟩

end MegaraidDashboard.Web
