import MegaraidDashboard.Soundness.TelegramDelivery

/-! # Cooldown and backoff

A failed event is either past its deadline or waits for it in its row. A cycle touches only rows that it
loaded, so whatever it changes was due when the cycle started; the repair cannot move a deadline before
its failure's, because the delays are bounded by the hour that the repair leaves.
-/

namespace MegaraidDashboard.Services

open Db Machine

/-! ## Delays -/

theorem retryBackoff_le (attempts : ℕ) : retryBackoff attempts ≤ retryMaxSeconds := min_le_right _ _

/-- The capped exponent does not change the backoff. -/
theorem retryBackoff_eq (attempts : ℕ) : retryBackoff attempts = min (60 * 2 ^ (attempts - 1)) 3600 := by
  unfold retryBackoff retryBaseSeconds retryMaxSeconds
  by_cases small : attempts - 1 ≤ 6
  · rw [min_eq_left small]
  · have capped : min (attempts - 1) 6 = 6 := by omega
    have large : (2 : ℤ) ^ 6 ≤ 2 ^ (attempts - 1) := pow_le_pow_right₀ (by decide) (by omega)
    rw [capped]
    omega

theorem boundedRetryAfter_le (hint : Option ℤ) : (boundedRetryAfter hint).getD 0 ≤ telegramRetryAfterMaxSeconds := by
  unfold telegramRetryAfterMaxSeconds
  cases hint with
  | none => decide
  | some seconds =>
    simp only [boundedRetryAfter, Option.getD_some, telegramRetryAfterMaxSeconds]
    split
    · exact min_le_right _ _
    · decide

theorem clampDeadline_eq_min (latest deadline : ℤ) : clampDeadline latest deadline = min latest deadline := by
  unfold clampDeadline
  split
  · omega
  · omega

/-- The earliest time of the next attempt. -/
def FailureRecord.due (failure : FailureRecord) : ℤ :=
  failure.failedAt + retryDelay failure.attempt (boundedRetryAfter failure.hint) * Timestamp.second

theorem FailureRecord.due_le (failure : FailureRecord) : failure.due ≤ latestRetry failure.failedAt := by
  have first := retryBackoff_le failure.attempt
  have second := boundedRetryAfter_le failure.hint
  have delay : retryDelay failure.attempt (boundedRetryAfter failure.hint) ≤ telegramRetryAfterMaxSeconds :=
    max_le first second
  simp only [FailureRecord.due, latestRetry, Timestamp.second]
  omega

/-! ## The contract -/

/-- The clock does not go back: a cycle starts after everything before it, and reads on from there. -/
def TelegramRun.Timely (run : TelegramRun) : TelegramStep → Prop
  | .start _ now => run.clock ≤ now
  | .visit now => ∀ cycle todo, run.phase = .visiting cycle todo → cycle.nowUtc ≤ now
  | .refuse _ _ failedAt => ∀ cycle event todo, run.phase = .sending cycle event todo → cycle.nowUtc ≤ failedAt
  | _ => True

/-- The repair leaves a row alone or moves its deadline to the latest one. -/
def RowRepaired (now : ℤ) (row repaired : EventDelivery) : Prop :=
  repaired = row ∧ (attemptedRetry row = true → ∀ deadline ∈ row.nextAttemptAt, deadline ≤ latestRetry now) ∨
  attemptedRetry row = true ∧ (∃ deadline ∈ row.nextAttemptAt, latestRetry now < deadline) ∧
    repaired = { row with nextAttemptAt := some (latestRetry now) }

structure TelegramRun.BackoffContract [PyText] (run : TelegramRun) : Prop where
  /-- A cycle that starts before the cooldown it finds sends nothing. -/
  cooldown : ∀ record ∈ run.cycles, ∀ deadline ∈ record.cooldown, record.startedAt < deadline → record.sends = []
  backoff : ∀ failure ∈ run.failures, ∀ record ∈ run.cycles, ∀ send ∈ record.sends,
    send.eventId = failure.eventId → failure.attempt < send.attempt →
      failure.failedAt + min (60 * 2 ^ (failure.attempt - 1)) 3600 * Timestamp.second ≤ send.sentAt ∧
      ∀ seconds ∈ boundedRetryAfter failure.hint, failure.failedAt + seconds * Timestamp.second ≤ send.sentAt
  /-- What the repair at the start of the next cycle leaves. -/
  repaired : ∀ settings now, run.phase = .idle →
    let after := (run.step (.start settings now)).db
    after.telegramNotBefore = run.db.telegramNotBefore.map (min (latestRetry now)) ∧
      (∀ deadline ∈ after.telegramNotBefore, deadline ≤ latestRetry now) ∧
      ∀ id row, after.deliveries.lookup id = some row →
        (∃ old, run.db.deliveries.lookup id = some old ∧ RowRepaired now old row) ∧
        (row.status = .retry → 0 < row.attempts → ∀ deadline ∈ row.nextAttemptAt, deadline ≤ latestRetry now)
  /-- A deadline that the repair of an earlier cycle set is not moved again. -/
  settled : ∀ record ∈ run.cycles, ∀ settings now, run.phase = .idle → run.clock ≤ now →
    let after := (run.step (.start settings now)).db
    (run.db.telegramNotBefore = some (latestRetry record.startedAt) →
      after.telegramNotBefore = run.db.telegramNotBefore) ∧
    ∀ id row, run.db.deliveries.lookup id = some row → row.nextAttemptAt = some (latestRetry record.startedAt) →
      after.deliveries.lookup id = some row

/-! ## The repair -/

section Repair

variable {db : Database} {now : ℤ}

theorem rowRepaired_repairRow (row : EventDelivery) : RowRepaired now row
    (if attemptedRetry row then { row with nextAttemptAt := row.nextAttemptAt.map (clampDeadline (latestRetry now)) }
      else row) := by
  cases retry : attemptedRetry row with
  | false => exact .inl ⟨rfl, fun retried => by cases retry.symm.trans retried⟩
  | true =>
    cases scheduled : row.nextAttemptAt with
    | none =>
      refine .inl ⟨by rw [if_pos rfl, Option.map_none, ← scheduled], ?_⟩
      intro _ deadline found
      cases scheduled.symm.trans found
    | some deadline =>
      by_cases beyond : latestRetry now < deadline
      · refine .inr ⟨retry, ⟨deadline, scheduled, beyond⟩, ?_⟩
        rw [if_pos rfl, Option.map_some, clampDeadline, if_pos beyond]
      · refine .inl ⟨?_, ?_⟩
        · rw [if_pos rfl, Option.map_some, clampDeadline, if_neg beyond, ← scheduled]
        · rintro - other found
          rw [scheduled, Option.mem_some_iff] at found
          omega

/-- A repaired row was repaired from the row before. -/
theorem lookup_repairDeadlines {id : ℕ} {row : EventDelivery}
    (found : (repairDeadlines db now).deliveries.lookup id = some row) :
    ∃ old, db.deliveries.lookup id = some old ∧ RowRepaired now old row := by
  rw [repairDeadlines, AList.lookup_mapRows, Option.map_eq_some_iff] at found
  obtain ⟨old, stored, rfl⟩ := found
  exact ⟨old, stored, rowRepaired_repairRow old⟩

theorem lookup_repairDeadlines_of_some {id : ℕ} {row : EventDelivery} (found : db.deliveries.lookup id = some row) :
    ∃ repaired, (repairDeadlines db now).deliveries.lookup id = some repaired ∧ RowRepaired now row repaired := by
  rw [repairDeadlines, AList.lookup_mapRows, found, Option.map_some]
  exact ⟨_, rfl, rowRepaired_repairRow row⟩

theorem RowRepaired.deadline_le {row repaired : EventDelivery} (moved : RowRepaired now row repaired)
    (retry : attemptedRetry repaired = true) : ∀ deadline ∈ repaired.nextAttemptAt, deadline ≤ latestRetry now := by
  rcases moved with ⟨rfl, within⟩ | ⟨-, -, rfl⟩
  · exact within retry
  · intro deadline found
    exact (Option.mem_some_iff.mp found).ge

/-- A deadline within the hour stays. -/
theorem RowRepaired.eq_of_within {row repaired : EventDelivery} (moved : RowRepaired now row repaired)
    (within : ∀ deadline ∈ row.nextAttemptAt, deadline ≤ latestRetry now) : repaired = row := by
  rcases moved with ⟨same, -⟩ | ⟨-, ⟨deadline, found, beyond⟩, -⟩
  · exact same
  · exact absurd (within deadline found) (not_le.mpr beyond)

theorem telegramNotBefore_repairDeadlines (db : Database) (now : ℤ) :
    (repairDeadlines db now).telegramNotBefore = db.telegramNotBefore.map (min (latestRetry now)) := by
  have same : clampDeadline (latestRetry now) = min (latestRetry now) :=
    funext fun deadline => clampDeadline_eq_min _ _
  rw [repairDeadlines, same]

theorem latestRetry_mono {earlier later : ℤ} (ordered : earlier ≤ later) :
    latestRetry earlier ≤ latestRetry later := by
  unfold latestRetry
  omega

end Repair

/-! ## Failures -/

/-- The deadline of a failure has come, or its row waits for it. -/
def Served (db : Database) (clock : ℤ) (failure : FailureRecord) : Prop :=
  failure.due ≤ clock ∨ ∃ row, db.deliveries.lookup failure.eventId = some row ∧ attemptedRetry row = true ∧
    ∃ deadline ∈ row.nextAttemptAt, failure.due ≤ deadline

section Served

variable {db : Database} {clock later : ℤ} {failure : FailureRecord}

theorem Served.mono (served : Served db clock failure) (ordered : clock ≤ later) : Served db later failure := by
  rcases served with past | waiting
  · exact .inl (past.trans ordered)
  · exact .inr waiting

theorem Served.congr {other : Database} (served : Served db clock failure)
    (same : other.deliveries = db.deliveries) : Served other clock failure := by
  unfold Served
  rwa [same]

/-- A write to a row whose failures are all past disturbs no other. -/
theorem Served.write (served : Served db clock failure) {id : ℕ}
    (past : failure.eventId = id → failure.due ≤ clock) (row : EventDelivery) :
    Served (writeDelivery db id row) clock failure := by
  by_cases same : failure.eventId = id
  · exact .inl (past same)
  · rcases served with done | ⟨stored, found, waiting⟩
    · exact .inl done
    · exact .inr ⟨stored, (AList.lookup_insert_ne same).trans found, waiting⟩

/-- The repair does not bring a failed event forward. -/
theorem Served.repair {now : ℤ} (served : Served db clock failure) (failed : failure.failedAt ≤ now)
    (ordered : clock ≤ now) : Served (repairDeadlines db now) now failure := by
  rcases served with past | ⟨row, found, retry, deadline, scheduled, due⟩
  · exact .inl (past.trans ordered)
  · obtain ⟨repaired, stored, moved⟩ := @lookup_repairDeadlines_of_some db now _ _ found
    refine .inr ⟨repaired, stored, ?_⟩
    rcases moved with ⟨rfl, -⟩ | ⟨-, -, rfl⟩
    · exact ⟨retry, deadline, scheduled, due⟩
    · exact ⟨retry, _, rfl, failure.due_le.trans (latestRetry_mono failed)⟩

/-- A candidate that failed before is past the deadline of that failure. -/
theorem Served.due_of_selected {now : ℤ} (served : Served db now failure) {event : Event}
    (same : failure.eventId = event.id) (selected : selectsCandidate db now event = true) : failure.due ≤ now := by
  rcases served with past | ⟨row, found, -, deadline, scheduled, due⟩
  · exact past
  · rw [same] at found
    simp only [selectsCandidate, Bool.and_eq_true, found] at selected
    obtain ⟨-, passed⟩ := selected
    rw [Option.mem_def] at scheduled
    simp only [deliveryDue, Option.bind_some, scheduled, Option.all_some, decide_eq_true_eq] at passed
    exact due.trans passed

end Served

theorem loadCandidates_ids_nodup {db : Database} (unique : (db.events.map (·.id)).Nodup) (now : ℤ) :
    ((loadCandidates db now).map (·.id)).Nodup := by
  have selected : ((db.events.filter (selectsCandidate db now)).map (·.id)).Nodup :=
    unique.sublist (List.filter_sublist.map _)
  have sorted := (((List.perm_insertionSort (fun first second : Event =>
    candidateKey db first ≤ candidateKey db second) _).map (·.id)).nodup_iff).mpr selected
  exact sorted.sublist ((List.take_sublist _ _).map _)

/-! ## The invariant -/

/-- The running cycle, whatever its phase. -/
def CyclePhase.cycle? : CyclePhase → Option TelegramCycle
  | .idle => none
  | .visiting cycle _ | .deciding cycle _ _ | .sending cycle _ _ | .accepted cycle _ _ => some cycle

/-- What the running cycle may rely on. -/
structure OnTime (clock : ℤ) (failures : List FailureRecord) (pending : List Event) (cycle : TelegramCycle)
    (record : CycleRecord) : Prop where
  started : cycle.startedAt = record.startedAt
  reading : cycle.startedAt ≤ cycle.nowUtc
  past : cycle.nowUtc ≤ clock
  blocked : ∀ deadline ∈ record.cooldown, record.startedAt < deadline → cycle.channelBlocked = true
  distinct : (pending.map (·.id)).Nodup
  overdue : ∀ event ∈ pending, ∀ failure ∈ failures, failure.eventId = event.id → failure.due ≤ cycle.startedAt

/-- What the tables and the records say of each other. -/
structure RecordsPaced (db : Database) (clock : ℤ) (cycles : List CycleRecord) (failures : List FailureRecord) :
    Prop where
  unique : (db.events.map (·.id)).Nodup
  started : ∀ record ∈ cycles, record.startedAt ≤ clock
  failed : ∀ failure ∈ failures, failure.failedAt ≤ clock
  attempts : ∀ record ∈ cycles, ∀ send ∈ record.sends,
    ∃ row, db.deliveries.lookup send.eventId = some row ∧ send.attempt ≤ row.attempts
  served : ∀ failure ∈ failures, Served db clock failure
  cooldown : ∀ record ∈ cycles, ∀ deadline ∈ record.cooldown, record.startedAt < deadline → record.sends = []
  backoff : ∀ failure ∈ failures, ∀ record ∈ cycles, ∀ send ∈ record.sends,
    send.eventId = failure.eventId → failure.attempt < send.attempt → failure.due ≤ send.sentAt

structure TelegramRun.Paced (run : TelegramRun) : Prop where
  records : RecordsPaced run.db run.clock run.cycles run.failures
  running : ∀ cycle, run.phase.cycle? = some cycle → ∃ record older, run.cycles = record :: older ∧
    OnTime run.clock run.failures run.phase.pending cycle record
  claimed : ∀ cycle event todo, run.phase = .sending cycle event todo →
    ∃ row, run.db.deliveries.lookup event.id = some row ∧ 0 < row.attempts

theorem TelegramRun.paced_initial {db : Database} (unique : (db.events.map (·.id)).Nodup) (clock : ℤ) :
    (TelegramRun.initial db clock).Paced where
  records :=
    { unique := unique
      started := fun _ member => by cases member
      failed := fun _ member => by cases member
      attempts := fun _ member => by cases member
      served := fun _ member => by cases member
      cooldown := fun _ member => by cases member
      backoff := fun _ member => by cases member }
  running _ same := by cases same
  claimed _ _ _ same := by cases same

/-- Noting an outcome changes nothing that the pace depends on. -/
theorem mem_closeSend {outcome : SendOutcome} {cycles : List CycleRecord} {record : CycleRecord}
    (member : record ∈ closeSend outcome cycles) :
    ∃ old ∈ cycles, record.startedAt = old.startedAt ∧ record.cooldown = old.cooldown ∧
      (old.sends = [] → record.sends = []) ∧ ∀ send ∈ record.sends, ∃ before ∈ old.sends,
        send.eventId = before.eventId ∧ send.attempt = before.attempt ∧ send.sentAt = before.sentAt := by
  have still : ∀ old ∈ cycles, record = old → ∃ old ∈ cycles, record.startedAt = old.startedAt ∧
      record.cooldown = old.cooldown ∧ (old.sends = [] → record.sends = []) ∧ ∀ send ∈ record.sends,
        ∃ before ∈ old.sends, send.eventId = before.eventId ∧ send.attempt = before.attempt ∧
          send.sentAt = before.sentAt := by
    rintro old stored rfl
    exact ⟨record, stored, rfl, rfl, id, fun send sent => ⟨send, sent, rfl, rfl, rfl⟩⟩
  cases cycles with
  | nil => cases member
  | cons newest older =>
    cases sends : newest.sends with
    | nil =>
      simp only [closeSend, sends] at member
      exact still record member rfl
    | cons send earlier =>
      rw [closeSend_eq sends] at member
      rcases List.mem_cons.mp member with rfl | old
      · refine ⟨newest, List.mem_cons_self, rfl, rfl, ?_, ?_⟩
        · intro none
          cases sends.symm.trans none
        · intro other sent
          rw [sends]
          rcases List.mem_cons.mp sent with rfl | before
          · exact ⟨send, List.mem_cons_self, rfl, rfl, rfl⟩
          · exact ⟨other, List.mem_cons_of_mem _ before, rfl, rfl, rfl⟩
      · exact still record (List.mem_cons_of_mem _ old) rfl

namespace RecordsPaced

variable {db : Database} {clock later : ℤ} {cycles : List CycleRecord} {failures : List FailureRecord}
  (paced : RecordsPaced db clock cycles failures)

include paced

theorem mono (ordered : clock ≤ later) : RecordsPaced db later cycles failures where
  unique := paced.unique
  started record member := (paced.started record member).trans ordered
  failed failure member := (paced.failed failure member).trans ordered
  attempts := paced.attempts
  served failure member := (paced.served failure member).mono ordered
  cooldown := paced.cooldown
  backoff := paced.backoff

/-- Only due rows are written. -/
theorem write {id : ℕ} {row : EventDelivery}
    (past : ∀ failure ∈ failures, failure.eventId = id → failure.due ≤ clock)
    (grown : (deliveryOf db id).attempts ≤ row.attempts) :
    RecordsPaced (writeDelivery db id row) clock cycles failures where
  unique := paced.unique
  started := paced.started
  failed := paced.failed
  attempts record member send sent := by
    obtain ⟨old, found, enough⟩ := paced.attempts record member send sent
    obtain ⟨new, stored, more⟩ := attemptsKept_write grown _ old found
    exact ⟨new, stored, enough.trans more⟩
  served failure member := (paced.served failure member).write (past failure member) row
  cooldown := paced.cooldown
  backoff := paced.backoff

/-- The other tables do not matter. -/
theorem congr {other : Database} (deliveries : other.deliveries = db.deliveries)
    (unique : (other.events.map (·.id)).Nodup) : RecordsPaced other clock cycles failures where
  unique := unique
  started := paced.started
  failed := paced.failed
  attempts record member send sent := by
    rw [deliveries]
    exact paced.attempts record member send sent
  served failure member := (paced.served failure member).congr deliveries
  cooldown := paced.cooldown
  backoff := paced.backoff

theorem close (outcome : SendOutcome) : RecordsPaced db clock (closeSend outcome cycles) failures where
  unique := paced.unique
  started record member := by
    obtain ⟨old, stored, started, -⟩ := mem_closeSend member
    exact started ▸ paced.started old stored
  failed := paced.failed
  attempts record member send sent := by
    obtain ⟨old, stored, -, -, -, sends⟩ := mem_closeSend member
    obtain ⟨before, earlier, event, attempt, -⟩ := sends send sent
    rw [event, attempt]
    exact paced.attempts old stored before earlier
  served := paced.served
  cooldown record member deadline found ahead := by
    obtain ⟨old, stored, started, cooldown, none, -⟩ := mem_closeSend member
    rw [cooldown] at found
    rw [started] at ahead
    exact none (paced.cooldown old stored deadline found ahead)
  backoff failure failed record member send sent same earlier := by
    obtain ⟨old, stored, -, -, -, sends⟩ := mem_closeSend member
    obtain ⟨before, found, event, attempt, sentAt⟩ := sends send sent
    rw [sentAt]
    exact paced.backoff failure failed old stored before found (event ▸ same) (attempt ▸ earlier)

/-- A new cycle repairs the deadlines first. -/
theorem begin_ {now : ℤ} (ordered : clock ≤ now) :
    RecordsPaced (repairDeadlines db now) now (⟨now, db.telegramNotBefore, []⟩ :: cycles) failures where
  unique := paced.unique
  started record member := by
    rcases List.mem_cons.mp member with rfl | old
    · exact le_rfl
    · exact (paced.started record old).trans ordered
  failed failure member := (paced.failed failure member).trans ordered
  attempts record member send sent := by
    rcases List.mem_cons.mp member with rfl | old
    · cases sent
    · obtain ⟨row, found, enough⟩ := paced.attempts record old send sent
      obtain ⟨new, stored, more⟩ := attemptsKept_repair db now _ row found
      exact ⟨new, stored, enough.trans more⟩
  served failure member :=
    (paced.served failure member).repair ((paced.failed failure member).trans ordered) ordered
  cooldown record member := by
    rcases List.mem_cons.mp member with rfl | old
    · exact fun _ _ _ => rfl
    · exact paced.cooldown record old
  backoff failure failed record member send sent := by
    rcases List.mem_cons.mp member with rfl | old
    · cases sent
    · exact paced.backoff failure failed record old send sent

theorem claim {record : CycleRecord} {older : List CycleRecord} {event : Event} {now : ℤ}
    (current : cycles = record :: older) (ordered : now ≤ clock)
    (free : ∀ deadline ∈ record.cooldown, ¬record.startedAt < deadline)
    (overdue : ∀ failure ∈ failures, failure.eventId = event.id → failure.due ≤ now) :
    RecordsPaced (Services.claim db event now) clock
      (openSend ⟨event.id, (deliveryOf db event.id).attempts + 1, now, .pending⟩ cycles) failures := by
  subst current
  have written : RecordsPaced (Services.claim db event now) clock (record :: older) failures :=
    paced.write (fun failure member same => (overdue failure member same).trans ordered) (Nat.le_succ _)
  have newest := List.mem_cons_self (a := record) (l := older)
  refine { written with started := ?_, attempts := ?_, cooldown := ?_, backoff := ?_ }
  · intro other member
    rcases List.mem_cons.mp member with rfl | old
    · exact written.started record newest
    · exact written.started other (List.mem_cons_of_mem _ old)
  · intro other member send sent
    rcases List.mem_cons.mp member with rfl | old
    · rcases List.mem_cons.mp sent with rfl | before
      · exact ⟨_, AList.lookup_insert _, le_rfl⟩
      · exact written.attempts record newest send before
    · exact written.attempts other (List.mem_cons_of_mem _ old) send sent
  · intro other member deadline found ahead
    rcases List.mem_cons.mp member with rfl | old
    · exact absurd ahead (free deadline found)
    · exact written.cooldown other (List.mem_cons_of_mem _ old) deadline found ahead
  · intro failure failed other member send sent same earlier
    rcases List.mem_cons.mp member with rfl | old
    · rcases List.mem_cons.mp sent with rfl | before
      · exact overdue failure failed same.symm
      · exact written.backoff failure failed record newest send before same earlier
    · exact written.backoff failure failed other (List.mem_cons_of_mem _ old) send sent same earlier

/-- A refused send waits in its row for its own deadline. -/
theorem fail {event : Event} {row : EventDelivery} (reason : String) (hint : Option ℤ) (failedAt : ℤ)
    (found : db.deliveries.lookup event.id = some row) (claimed : 0 < row.attempts)
    (overdue : ∀ failure ∈ failures, failure.eventId = event.id → failure.due ≤ clock) :
    RecordsPaced (recordSendFailure db event reason (boundedRetryAfter hint) failedAt) (max clock failedAt) cycles
      (⟨event.id, (deliveryOf db event.id).attempts, failedAt, hint⟩ :: failures) := by
  have same : deliveryOf db event.id = row := by rw [deliveryOf, found, Option.getD_some]
  rw [same]
  let failed : EventDelivery := { setStatus row .retry (some reason) with
    nextAttemptAt := some (failedAt + retryDelay row.attempts (boundedRetryAfter hint) * Timestamp.second) }
  have grown : (deliveryOf db event.id).attempts ≤ failed.attempts := by
    rw [same]
    exact le_rfl
  have deliveries : (recordSendFailure db event reason (boundedRetryAfter hint) failedAt).deliveries =
      (writeDelivery db event.id failed).deliveries := by
    unfold recordSendFailure
    rw [same]
  have written := ((paced.write overdue grown).congr deliveries paced.unique).mono (le_max_left clock failedAt)
  refine { written with failed := ?_, served := ?_, backoff := ?_ }
  · intro failure member
    rcases List.mem_cons.mp member with rfl | old
    · exact le_max_right _ _
    · exact written.failed failure old
  · intro failure member
    rcases List.mem_cons.mp member with rfl | old
    · refine .inr ⟨failed, ?_, ?_, _, rfl, le_rfl⟩
      · rw [deliveries]
        exact AList.lookup_insert _
      · exact decide_eq_true claimed
    · exact written.served failure old
  · intro failure member record stored send sent agree earlier
    rcases List.mem_cons.mp member with rfl | old
    · obtain ⟨before, known, enough⟩ := paced.attempts record stored send sent
      rw [agree, found, Option.some.injEq] at known
      subst known
      exact absurd earlier (not_lt.mpr enough)
    · exact written.backoff failure old record stored send sent agree earlier

end RecordsPaced

theorem closeSend_head (outcome : SendOutcome) (record : CycleRecord) (older : List CycleRecord) :
    ∃ closed, closeSend outcome (record :: older) = closed :: older ∧ closed.startedAt = record.startedAt ∧
      closed.cooldown = record.cooldown := by
  cases sends : record.sends with
  | nil => exact ⟨record, by simp only [closeSend, sends], rfl, rfl⟩
  | cons send earlier => exact ⟨_, closeSend_eq sends outcome, rfl, rfl⟩

namespace OnTime

variable {clock later : ℤ} {failures : List FailureRecord} {event : Event} {todo : List Event}
  {cycle : TelegramCycle} {record : CycleRecord} (onTime : OnTime clock failures (event :: todo) cycle record)

include onTime

/-- The failures of the event at hand are past. -/
theorem head : ∀ failure ∈ failures, failure.eventId = event.id → failure.due ≤ cycle.startedAt :=
  onTime.overdue event List.mem_cons_self

theorem head_past : ∀ failure ∈ failures, failure.eventId = event.id → failure.due ≤ clock :=
  fun failure member same => (onTime.head failure member same).trans (onTime.reading.trans onTime.past)

theorem tail : OnTime clock failures todo cycle record :=
  { onTime with
    distinct := (List.nodup_cons.mp onTime.distinct).2
    overdue := fun other member => onTime.overdue other (List.mem_cons_of_mem _ member) }

/-- The rest of the batch is about other events. -/
theorem ne_of_mem {other : Event} (member : other ∈ todo) : event.id ≠ other.id := by
  intro same
  have listed : event.id ∈ todo.map (·.id) := by
    rw [same]
    exact List.mem_map_of_mem member
  exact (List.nodup_cons.mp onTime.distinct).1 listed

end OnTime

namespace TelegramRun.Paced

variable {run : TelegramRun} (paced : run.Paced)

include paced

theorem ended : ({ run with phase := .idle } : TelegramRun).Paced where
  records := paced.records
  running _ same := by cases same
  claimed _ _ _ same := by cases same

theorem others {db : Database} (kept : KeepsDeliveries run.db db) : ({ run with db := db } : TelegramRun).Paced where
  records := paced.records.congr kept.deliveries kept.ids
  running := paced.running
  claimed cycle event todo phase := by
    obtain ⟨row, found, positive⟩ := paced.claimed cycle event todo phase
    exact ⟨row, (congrArg (·.lookup event.id) kept.deliveries).trans found, positive⟩

variable [PyText]

theorem start (settings : Settings) {now : ℤ} (ordered : run.clock ≤ now) :
    (run.step (.start settings now)).Paced := by
  unfold TelegramRun.step
  cases phase : run.phase with
  | idle =>
    have records := paced.records.begin_ ordered
    have reading : max run.clock now = now := max_eq_right ordered
    refine ⟨?_, ?_, fun _ _ _ same => by cases same⟩
    · dsimp only
      rw [reading]
      exact records
    · rintro cycle ⟨⟩
      refine ⟨_, _, rfl, ⟨rfl, le_rfl, le_max_right _ _, ?_, ?_, ?_⟩⟩
      · intro deadline found ahead
        have latest : now < latestRetry now := by
          simp only [latestRetry, telegramRetryAfterMaxSeconds, Timestamp.second]
          omega
        rw [Option.mem_def] at found
        dsimp only at found ⊢
        rw [telegramNotBefore_repairDeadlines, found, Option.map_some, Option.any_some, decide_eq_true_eq]
        exact lt_min latest ahead
      · exact loadCandidates_ids_nodup records.unique now
      · intro event member failure failed same
        exact (records.served failure failed).due_of_selected same (mem_loadCandidates member).2
  | visiting | deciding | sending | accepted => exact paced

theorem visit {now : ℤ} (ordered : ∀ cycle todo, run.phase = .visiting cycle todo → cycle.nowUtc ≤ now) :
    (run.step (.visit now)).Paced := by
  unfold TelegramRun.step
  cases phase : run.phase with
  | visiting cycle todo =>
    cases todo with
    | nil => exact paced
    | cons event todo =>
      obtain ⟨record, older, cycles, onTime⟩ := paced.running cycle (by rw [phase]; rfl)
      rw [phase] at onTime
      have reading := ordered _ _ phase
      refine ⟨?_, ?_, fun _ _ _ same => by cases same⟩
      · refine RecordsPaced.mono ?_ (le_max_left _ _)
        dsimp only
        split
        · exact paced.records.write onTime.head_past le_rfl
        · exact paced.records
      · rintro _ ⟨⟩
        exact ⟨record, older, cycles, { onTime with
          reading := onTime.reading.trans reading
          past := le_max_right _ _ }⟩
  | idle | deciding | sending | accepted => exact paced

theorem decide : (run.step .decide).Paced := by
  unfold TelegramRun.step
  cases phase : run.phase with
  | deciding cycle event todo =>
    obtain ⟨record, older, cycles, onTime⟩ := paced.running cycle (by rw [phase]; rfl)
    rw [phase] at onTime
    dsimp only [TelegramRun.decideCandidate]
    cases decision : candidateDecision cycle.settings run.db event
        (cycle.channelBlocked || Decidable.decide (cycle.sendsLeft = 0)) cycle.nowUtc with
    | defer detail nextAttemptAt =>
      refine ⟨paced.records.write onTime.head_past le_rfl, ?_, fun _ _ _ same => by cases same⟩
      rintro _ ⟨⟩
      exact ⟨record, older, cycles, onTime.tail⟩
    | skip detail =>
      refine ⟨paced.records.write onTime.head_past le_rfl, ?_, fun _ _ _ same => by cases same⟩
      rintro _ ⟨⟩
      exact ⟨record, older, cycles, onTime.tail⟩
    | raised =>
      refine ⟨paced.records, ?_, fun _ _ _ same => by cases same⟩
      rintro _ ⟨⟩
    | send =>
      have free := candidateDecision_send decision
      rw [Bool.or_eq_false_iff] at free
      have open_ : ∀ deadline ∈ record.cooldown, ¬record.startedAt < deadline := by
        intro deadline found ahead
        cases free.1.symm.trans (onTime.blocked deadline found ahead)
      have overdue : ∀ failure ∈ run.failures, failure.eventId = event.id → failure.due ≤ cycle.nowUtc :=
        fun failure member same => (onTime.head failure member same).trans onTime.reading
      refine ⟨paced.records.claim cycles onTime.past open_ overdue, ?_, ?_⟩
      · rintro _ ⟨⟩
        refine ⟨_, older, congrArg (openSend _) cycles, ?_⟩
        exact ⟨onTime.started, onTime.reading, onTime.past, onTime.blocked, onTime.distinct, onTime.overdue⟩
      · rintro _ _ _ ⟨⟩
        exact ⟨_, AList.lookup_insert _, Nat.succ_pos _⟩
  | idle | visiting | sending | accepted => exact paced

theorem accept : (run.step .accept).Paced := by
  unfold TelegramRun.step
  cases phase : run.phase with
  | sending cycle event todo =>
    obtain ⟨record, older, cycles, onTime⟩ := paced.running cycle (by rw [phase]; rfl)
    rw [phase] at onTime
    refine ⟨paced.records.close .accepted, ?_, fun _ _ _ same => by cases same⟩
    rintro _ ⟨⟩
    obtain ⟨closed, newest, started, cooldown⟩ := closeSend_head .accepted record older
    refine ⟨closed, older, cycles ▸ newest, { onTime with started := ?_, blocked := ?_ }⟩
    · exact onTime.started.trans started.symm
    · rw [cooldown, started]
      exact onTime.blocked
  | idle | visiting | deciding | accepted => exact paced

theorem refuse (reason : String) (hint : Option ℤ) (failedAt : ℤ) :
    (run.step (.refuse reason hint failedAt)).Paced := by
  unfold TelegramRun.step
  cases phase : run.phase with
  | sending cycle event todo =>
    obtain ⟨record, older, cycles, onTime⟩ := paced.running cycle (by rw [phase]; rfl)
    rw [phase] at onTime
    obtain ⟨row, found, claimed⟩ := paced.claimed cycle event todo phase
    have records := paced.records.fail reason hint failedAt found claimed onTime.head_past
    refine ⟨records.close .refused, ?_, fun _ _ _ same => by cases same⟩
    rintro _ ⟨⟩
    obtain ⟨closed, newest, started, cooldown⟩ := closeSend_head .refused record older
    refine ⟨closed, older, cycles ▸ newest,
      ⟨onTime.started.trans started.symm, onTime.reading, onTime.past.trans (le_max_left _ _),
        fun _ _ _ => rfl, onTime.tail.distinct, ?_⟩⟩
    intro other member failure failed same
    rcases List.mem_cons.mp failed with rfl | old
    · exact absurd same (onTime.ne_of_mem member)
    · exact onTime.tail.overdue other member failure old same
  | idle | visiting | deciding | accepted => exact paced

theorem raised : (run.step .raised).Paced := by
  unfold TelegramRun.step
  cases phase : run.phase with
  | sending cycle event todo =>
    refine ⟨paced.records.close .raised, ?_, ?_⟩
    · rintro _ ⟨⟩
    · rintro _ _ _ ⟨⟩
  | idle | visiting | deciding | accepted => exact paced

theorem commitSent : (run.step .commitSent).Paced := by
  unfold TelegramRun.step
  cases phase : run.phase with
  | accepted cycle event todo =>
    obtain ⟨record, older, cycles, onTime⟩ := paced.running cycle (by rw [phase]; rfl)
    rw [phase] at onTime
    refine ⟨paced.records.write onTime.head_past le_rfl, ?_, fun _ _ _ same => by cases same⟩
    rintro _ ⟨⟩
    exact ⟨record, older, cycles, onTime.tail⟩
  | idle | visiting | deciding | sending => exact paced

theorem step (label : TelegramStep) (admitted : run.Admits label) (timely : run.Timely label) :
    (run.step label).Paced := by
  cases label with
  | start settings now => exact paced.start settings timely
  | visit now => exact paced.visit timely
  | decide => exact paced.decide
  | accept => exact paced.accept
  | refuse reason hint failedAt => exact paced.refuse reason hint failedAt
  | raised => exact paced.raised
  | commitSent => exact paced.commitSent
  | finish =>
    unfold TelegramRun.step
    cases phase : run.phase with
    | visiting cycle todo =>
      cases todo with
      | nil => exact paced.ended
      | cons event rest => exact paced
    | idle | deciding | sending | accepted => exact paced
  | crash => exact paced.ended
  | others db => exact paced.others admitted

end TelegramRun.Paced

/-! ## The result -/

variable [PyText]

theorem TelegramRun.Paced.contract {run : TelegramRun} (paced : run.Paced) : run.BackoffContract where
  cooldown := paced.records.cooldown
  backoff failure failed record member send sent same earlier := by
    have due := paced.records.backoff failure failed record member send sent same earlier
    unfold FailureRecord.due retryDelay at due
    rw [retryBackoff_eq] at due
    simp only [Timestamp.second] at due ⊢
    constructor
    · omega
    · intro seconds bounded
      rw [Option.mem_def] at bounded
      rw [bounded, Option.getD_some] at due
      omega
  repaired settings now idle := by
    have after : (run.step (.start settings now)).db = repairDeadlines run.db now := by
      simp only [TelegramRun.step, idle]
    rw [after]
    refine ⟨telegramNotBefore_repairDeadlines run.db now, ?_, ?_⟩
    · intro deadline found
      rw [telegramNotBefore_repairDeadlines, Option.mem_def, Option.map_eq_some_iff] at found
      obtain ⟨old, -, rfl⟩ := found
      exact min_le_left _ _
    · intro id row found
      obtain ⟨old, stored, moved⟩ := lookup_repairDeadlines found
      refine ⟨⟨old, stored, moved⟩, fun status attempted => moved.deadline_le ?_⟩
      simp only [attemptedRetry, status, BEq.rfl, decide_eq_true attempted, Bool.and_self]
  settled record member settings now idle ordered := by
    have after : (run.step (.start settings now)).db = repairDeadlines run.db now := by
      simp only [TelegramRun.step, idle]
    rw [after]
    have earlier := latestRetry_mono ((paced.records.started record member).trans ordered)
    constructor
    · intro stored
      rw [telegramNotBefore_repairDeadlines, stored, Option.map_some, min_eq_right earlier]
    · intro id row found scheduled
      obtain ⟨repaired, stored, moved⟩ := @lookup_repairDeadlines_of_some run.db now _ _ found
      rw [stored, moved.eq_of_within]
      intro deadline within
      rw [scheduled, Option.mem_some_iff] at within
      exact within ▸ earlier

end MegaraidDashboard.Services
