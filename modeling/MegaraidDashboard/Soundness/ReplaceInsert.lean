import MegaraidDashboard.Machine.Run
import MegaraidDashboard.Model.Web.ReplaceInsert
import MegaraidDashboard.Soundness.ReplacementAudit

/-! # At most one insert for each Missing

A row that lets an insert through is settled once a later row of the slot stands in the table. Where the
gate is read by one request at a time, and its row is written before the next request reads the gate, each
dispatched insert has a Missing of its own.
-/

namespace MegaraidDashboard.Web

open Db

/-! ## Phases -/

/-- The request is past its gate and has not ended. -/
def InsertPhase.active : InsertPhase → Bool
  | arrived => false
  | gatePassed _ => true
  | prechecking _ _ => true
  | writing _ _ => true
  | auditing _ _ _ _ => true
  | ended => false

/-- The request may still send a write for this row. -/
def InsertPhase.MaySend (missing : Event) : InsertPhase → Prop
  | arrived => False
  | gatePassed row => row = missing
  | prechecking row _ => row = missing
  | writing row _ => row = missing
  | auditing _ _ _ _ => False
  | ended => False

/-- The request has sent a write for this row and owes its audit event. -/
def InsertPhase.Owes (missing : Event) : InsertPhase → Prop
  | arrived => False
  | gatePassed _ => False
  | prechecking _ _ => False
  | writing _ _ => False
  | auditing row _ _ sent => row = missing ∧ sent = true
  | ended => False

/-- The request has sent its write and not recorded it. -/
def InsertPhase.owing : InsertPhase → Bool
  | auditing _ _ _ sent => sent
  | _ => false

/-- The audit event of a write that was sent is not older than the Missing. -/
def InsertPhase.inTime (now : ℤ) : InsertPhase → Bool
  | auditing missing _ _ sent => !sent || decide (missing.occurredAt ≤ now)
  | _ => true

theorem InsertPhase.active_of_maySend {missing : Event} {phase : InsertPhase} (send : phase.MaySend missing) :
    phase.active = true := by
  cases phase with
  | arrived => exact send.elim
  | gatePassed => rfl
  | prechecking => rfl
  | writing => rfl
  | auditing => rfl
  | ended => exact send.elim

theorem InsertPhase.active_of_owes {missing : Event} {phase : InsertPhase} (owes : phase.Owes missing) :
    phase.active = true := by
  cases phase with
  | auditing => rfl
  | _ => exact owes.elim

theorem InsertPhase.le_of_inTime {missing : Event} {now : ℤ} {phase : InsertPhase} (inTime : phase.inTime now = true)
    (owes : phase.Owes missing) : missing.occurredAt ≤ now := by
  cases phase with
  | auditing row _ _ sent =>
    obtain ⟨rfl, rfl⟩ := owes
    exact of_decide_eq_true inTime
  | _ => exact owes.elim

theorem InsertPhase.owing_of_owes {missing : Event} {phase : InsertPhase} (owes : phase.Owes missing) :
    phase.owing = true := by
  cases phase with
  | auditing => exact owes.2
  | _ => exact owes.elim

/-! ## Settled rows -/

section Settled

variable {enclosureId slotId : ℕ} {table : AuditTable} {missing : Event}

/-- A row of the slot stands behind the Missing and is not older. -/
def Settled (enclosureId slotId : ℕ) (table : AuditTable) (missing : Event) : Prop :=
  ∃ row ∈ table.rows, gateSelects true enclosureId slotId row = true ∧ missing.id < row.id ∧
    missing.occurredAt ≤ row.occurredAt

theorem AuditTable.mem_insert_of_mem {row other : Event} (member : row ∈ table.rows) :
    row ∈ (table.insert other).rows := List.mem_append_left _ member

theorem Settled.insert (settled : Settled enclosureId slotId table missing) (row : Event) :
    Settled enclosureId slotId (table.insert row) missing := by
  obtain ⟨other, member, rest⟩ := settled
  exact ⟨other, table.mem_insert_of_mem member, rest⟩

/-- The last action of the slot is not a settled row. -/
theorem not_settled_of_last
    (last : loadLastOperatorActionForSlot true table.rows enclosureId slotId = some missing) :
    ¬Settled enclosureId slotId table missing := by
  rintro ⟨row, member, selected, later, notOlder⟩
  obtain ⟨before, after, split, -, newer⟩ := List.latest?_split last
  have ordered := table.ordered.filter (gateSelects true enclosureId slotId)
  have inside := List.mem_filter.mpr ⟨member, selected⟩
  rw [split] at ordered inside
  rcases List.mem_append.mp inside with early | rest
  · have lt := (List.pairwise_append.mp ordered).2.2 row early missing List.mem_cons_self
    omega
  · rcases List.mem_cons.mp rest with rfl | behind
    · omega
    · have older := newer row behind
      omega

/-- What the gate reads when it lets a request through. -/
theorem missing_of_readGate {request : InsertRequest} {snapshotSerial : Option String}
    (send : (request.readGate snapshotSerial
      (loadLastOperatorActionForSlot true table.rows enclosureId slotId)).MaySend missing) :
    loadLastOperatorActionForSlot true table.rows enclosureId slotId = some missing ∧
      replaceStepMissingSucceeded missing.summary = true := by
  cases snapshotSerial with
  | none => exact send.elim
  | some snapshot =>
    cases found : loadLastOperatorActionForSlot true table.rows enclosureId slotId with
    | none =>
      rw [found] at send
      exact send.elim
    | some event =>
      rw [found] at send
      simp only [InsertRequest.readGate] at send
      split_ifs at send with passed
      · obtain rfl : event = missing := send
        simp only [Bool.and_eq_true] at passed
        exact ⟨rfl, passed.1.1⟩
      · exact send.elim

/-- A row of the slot that a request appends behind its Missing settles it. -/
theorem settled_of_audit {row : Event} (member : missing ∈ table.rows)
    (action : IsReplacementAction enclosureId slotId row) (notOlder : missing.occurredAt ≤ row.occurredAt) :
    Settled enclosureId slotId (table.insert row) missing := by
  refine ⟨{ row with id := table.nextId }, List.mem_append_right _ (List.mem_singleton_self _), ?_,
    table.lt_nextId member, notOlder⟩
  apply gateSelects_of_replacementAction
  exact action

end Settled

/-! ## Runs -/

section Runs

variable {n : ℕ} {enclosureId slotId : ℕ} {requests : Fin n → InsertRequest} {run : InsertRun n}

/-- A request reads the gate while no other one is past it; a request that has sent its write ends with its
audit event, and that event is not older than the Missing. -/
def Separate (run : InsertRun n) : InsertStep n → Prop
  | .gate _ _ => ∀ index, (run.phase index).active = false
  | .audit index now => (run.phase index).inTime now = true
  | .crash index => (run.phase index).owing = false
  | _ => True

instance (run : InsertRun n) : ∀ label, Decidable (Separate run label)
  | .gate _ _ => inferInstanceAs (Decidable (∀ _, _ = _))
  | .audit _ _ => inferInstanceAs (Decidable (_ = _))
  | .crash _ => inferInstanceAs (Decidable (_ = _))
  | .record _ => .isTrue trivial
  | .topology _ _ _ _ => .isTrue trivial
  | .live _ _ _ => .isTrue trivial
  | .refuse _ _ => .isTrue trivial
  | .dispatch _ _ => .isTrue trivial

/-- A successful Missing of the slot in the table. -/
def IsMissing (enclosureId slotId : ℕ) (table : AuditTable) (row : Event) : Prop :=
  row ∈ table.rows ∧ ∃ serial, row.summary = replaceMessage .missing enclosureId slotId serial "succeeded"

theorem IsMissing.insert {table : AuditTable} {row : Event} (missing : IsMissing enclosureId slotId table row)
    (other : Event) : IsMissing enclosureId slotId (table.insert other) row :=
  ⟨table.mem_insert_of_mem missing.1, missing.2⟩

/-- What every step of separate requests keeps. -/
structure InsertInvariant (enclosureId slotId : ℕ) (run : InsertRun n) : Prop where
  single : ∀ first second, (run.phase first).active = true → (run.phase second).active = true → first = second
  fresh : ∀ index missing, (run.phase index).MaySend missing →
    IsMissing enclosureId slotId run.table missing ∧ missing ∉ run.dispatched
  sent : ∀ missing ∈ run.dispatched, IsMissing enclosureId slotId run.table missing ∧
    ((∃ index, (run.phase index).Owes missing) ∨ Settled enclosureId slotId run.table missing)
  nodup : run.dispatched.Nodup

theorem setPhase_apply (run : InsertRun n) (index other : Fin n) (phase : InsertPhase) :
    (run.setPhase index phase).phase other = if other = index then phase else run.phase other :=
  Function.update_apply ..

theorem setPhase_self (run : InsertRun n) (index : Fin n) (phase : InsertPhase) :
    (run.setPhase index phase).phase index = phase := Function.update_self ..

namespace InsertInvariant

theorem record (inv : InsertInvariant enclosureId slotId run) (row : Event) :
    InsertInvariant enclosureId slotId (run.record row) where
  single := inv.single
  fresh index missing send := ⟨(inv.fresh index missing send).1.insert row, (inv.fresh index missing send).2⟩
  sent missing member := by
    obtain ⟨known, owes | settled⟩ := inv.sent missing member
    · exact ⟨known.insert row, .inl owes⟩
    · exact ⟨known.insert row, .inr (settled.insert row)⟩
  nodup := inv.nodup

/-- A request that moves on without a write of its own and forgets no write keeps the invariant. -/
theorem setPhase (inv : InsertInvariant enclosureId slotId run) {index : Fin n} {phase : InsertPhase}
    (active : phase.active = true → (run.phase index).active = true)
    (send : ∀ missing, phase.MaySend missing → (run.phase index).MaySend missing)
    (owes : ∀ missing ∈ run.dispatched, (run.phase index).Owes missing →
      phase.Owes missing ∨ Settled enclosureId slotId run.table missing) :
    InsertInvariant enclosureId slotId (run.setPhase index phase) where
  single first second firstActive secondActive := by
    apply inv.single
    · rw [setPhase_apply] at firstActive
      split_ifs at firstActive with same
      · exact same ▸ active firstActive
      · exact firstActive
    · rw [setPhase_apply] at secondActive
      split_ifs at secondActive with same
      · exact same ▸ active secondActive
      · exact secondActive
  fresh other missing sends := by
    rw [setPhase_apply] at sends
    split_ifs at sends with same
    · exact inv.fresh index missing (send missing sends)
    · exact inv.fresh other missing sends
  sent missing member := by
    obtain ⟨known, ⟨other, owed⟩ | settled⟩ := inv.sent missing member
    · refine ⟨known, ?_⟩
      by_cases same : other = index
      · rcases owes missing member (same ▸ owed) with still | settled
        · exact .inl ⟨index, by rwa [setPhase_self]⟩
        · exact .inr settled
      · exact .inl ⟨other, by rwa [setPhase_apply, if_neg same]⟩
    · exact ⟨known, .inr settled⟩
  nodup := inv.nodup

/-- The gate lets a request through on a row that no dispatched insert has used. -/
theorem gate (inv : InsertInvariant enclosureId slotId run) (idle : ∀ index, (run.phase index).active = false)
    (request : InsertRequest) (index : Fin n) (snapshotSerial : Option String) :
    InsertInvariant enclosureId slotId (run.setPhase index (request.readGate snapshotSerial
      (loadLastOperatorActionForSlot true run.table.rows enclosureId slotId))) where
  single first second firstActive secondActive := by
    have only (other : Fin n) (active : ((run.setPhase index (request.readGate snapshotSerial
        (loadLastOperatorActionForSlot true run.table.rows enclosureId slotId))).phase other).active = true) :
        other = index := by
      rw [setPhase_apply] at active
      split_ifs at active with same
      · exact same
      · rw [idle other] at active
        cases active
    exact (only first firstActive).trans (only second secondActive).symm
  fresh other missing sends := by
    rw [setPhase_apply] at sends
    split_ifs at sends with same
    · obtain ⟨last, succeeded⟩ := missing_of_readGate sends
      have selected := List.mem_filter.mp (List.latest?_mem last)
      refine ⟨⟨selected.1, missing_of_gateSelects selected.2 succeeded⟩, ?_⟩
      intro used
      obtain ⟨-, ⟨owner, owed⟩ | settled⟩ := inv.sent missing used
      · have active := InsertPhase.active_of_owes owed
        rw [idle owner] at active
        cases active
      · exact not_settled_of_last last settled
    · have active := InsertPhase.active_of_maySend sends
      rw [idle other] at active
      cases active
  sent missing member := by
    obtain ⟨known, ⟨owner, owed⟩ | settled⟩ := inv.sent missing member
    · have active := InsertPhase.active_of_owes owed
      rw [idle owner] at active
      cases active
    · exact ⟨known, .inr settled⟩
  nodup := inv.nodup

/-- A write uses up the row that its request holds. -/
theorem dispatch (inv : InsertInvariant enclosureId slotId run) {index : Fin n} {missing : Event}
    {topology : SlotTopology} (writing : run.phase index = .writing missing topology) (outcome : String) :
    InsertInvariant enclosureId slotId { run.setPhase index (.auditing missing topology outcome true) with
      dispatched := run.dispatched ++ [missing] } := by
  have active : (run.phase index).active = true := by rw [writing]; rfl
  have holds : (run.phase index).MaySend missing := by rw [writing]; rfl
  obtain ⟨known, unused⟩ := inv.fresh index missing holds
  have moved : InsertInvariant enclosureId slotId (run.setPhase index (.auditing missing topology outcome true)) := by
    apply inv.setPhase (fun _ => active)
    · exact fun _ send => send.elim
    · rw [writing]
      exact fun _ _ owes => owes.elim
  refine ⟨moved.single, ?_, ?_, ?_⟩
  · intro other row sends
    have only : other = index := moved.single other index (InsertPhase.active_of_maySend sends) (by rw [setPhase_self]; rfl)
    subst only
    change ((run.setPhase other _).phase other).MaySend row at sends
    rw [setPhase_self] at sends
    exact sends.elim
  · intro row member
    rcases List.mem_append.mp member with old | new
    · exact moved.sent row old
    · rw [List.mem_singleton.mp new]
      refine ⟨known, .inl ⟨index, ?_⟩⟩
      change ((run.setPhase index _).phase index).Owes missing
      rw [setPhase_self]
      exact ⟨rfl, rfl⟩
  · exact List.nodup_append.mpr ⟨inv.nodup, List.nodup_singleton _, fun row member other new =>
      fun same => unused (List.mem_singleton.mp new ▸ same ▸ member)⟩

theorem initial (table : AuditTable) : InsertInvariant enclosureId slotId (InsertRun.initial n table) where
  single _ _ active := nomatch active
  fresh _ _ sends := sends.elim
  sent _ member := nomatch member
  nodup := List.nodup_nil

/-- The end of a request that owes no audit event. -/
theorem ended (inv : InsertInvariant enclosureId slotId run) (index : Fin n)
    (settles : ∀ missing ∈ run.dispatched, (run.phase index).Owes missing →
      Settled enclosureId slotId run.table missing) :
    InsertInvariant enclosureId slotId (run.setPhase index .ended) :=
  inv.setPhase (fun active => nomatch active) (fun _ send => send.elim) fun missing member owes =>
    .inr (settles missing member owes)

/-- A request that has sent nothing goes on to the next read or ends. -/
theorem advance (inv : InsertInvariant enclosureId slotId run) {index : Fin n} {phase : InsertPhase}
    (waiting : ∃ missing, (run.phase index).MaySend missing)
    (send : ∀ missing, phase.MaySend missing → (run.phase index).MaySend missing) :
    InsertInvariant enclosureId slotId (run.setPhase index phase) := by
  obtain ⟨held, waiting⟩ := waiting
  apply inv.setPhase (fun _ => InsertPhase.active_of_maySend waiting) send
  intro missing _ owes
  cases phase : run.phase index with
  | auditing _ _ _ _ =>
    rw [phase] at waiting
    exact waiting.elim
  | _ =>
    rw [phase] at owes
    exact owes.elim

theorem step (inv : InsertInvariant enclosureId slotId run) {label : InsertStep n} (separate : Separate run label) :
    InsertInvariant enclosureId slotId (run.step enclosureId slotId requests label) := by
  cases label with
  | record row => exact inv.record row
  | gate index snapshotSerial =>
    cases phase : run.phase index with
    | arrived =>
      simp only [InsertRun.step, phase]
      exact inv.gate separate (requests index) index snapshotSerial
    | _ => simpa only [InsertRun.step, phase] using inv
  | topology index topology maintenanceMode destructiveMode =>
    cases phase : run.phase index with
    | gatePassed missing =>
      simp only [InsertRun.step, phase]
      apply inv.advance ⟨missing, by rw [phase]; rfl⟩
      intro row send
      rw [phase]
      cases topology with
      | none => exact send.elim
      | some topology =>
        simp only [InsertRequest.readTopology] at send
        split_ifs at send
        · exact send
        · exact send.elim
    | _ => simpa only [InsertRun.step, phase] using inv
  | live index answer now =>
    cases phase : run.phase index with
    | prechecking missing topology =>
      cases answer with
      | ok live =>
        simp only [InsertRun.step, phase]
        apply inv.advance ⟨missing, by rw [phase]; rfl⟩
        intro row send
        rw [phase]
        simp only [InsertRequest.readLive] at send
        split_ifs at send
        · exact send
        · exact send.elim
      | error detail =>
        simp only [InsertRun.step, phase]
        apply (inv.record _).ended
        intro row _ owes
        change (run.phase index).Owes row at owes
        rw [phase] at owes
        exact owes.elim
    | _ => simpa only [InsertRun.step, phase] using inv
  | refuse index error =>
    cases phase : run.phase index with
    | writing missing topology =>
      simp only [InsertRun.step, phase]
      exact inv.advance ⟨missing, by rw [phase]; rfl⟩ fun _ send => send.elim
    | _ => simpa only [InsertRun.step, phase] using inv
  | dispatch index answer =>
    cases phase : run.phase index with
    | writing missing topology =>
      simp only [InsertRun.step, phase]
      exact inv.dispatch phase _
    | _ => simpa only [InsertRun.step, phase] using inv
  | audit index now =>
    cases phase : run.phase index with
    | auditing missing topology outcome sent =>
      simp only [InsertRun.step, phase]
      apply (inv.record _).ended
      intro row member owes
      obtain ⟨⟨known, -⟩, -⟩ := inv.sent row member
      exact settled_of_audit known ⟨rfl, rfl, .inr ⟨_, _, _, _, _, rfl⟩⟩ (InsertPhase.le_of_inTime separate owes)
    | _ => simpa only [InsertRun.step, phase] using inv
  | crash index =>
    simp only [InsertRun.step]
    apply inv.ended
    intro missing _ owes
    have owing := InsertPhase.owing_of_owes owes
    rw [show (run.phase index).owing = false from separate] at owing
    cases owing

end InsertInvariant

end Runs

/-- Each successful Missing of the slot lets at most one insert be dispatched, in every run of any number of
requests in which no request reads the gate while another one is between its gate and its audit event, no
request that has sent its write ends without the event, and the event is not stamped before the Missing. -/
theorem at_most_one_insert_per_missing {n : ℕ} (enclosureId slotId : ℕ) (requests : Fin n → InsertRequest)
    (table : AuditTable) (labels : List (InsertStep n))
    (separate : Machine.Guarded (InsertRun.step enclosureId slotId requests) Separate (InsertRun.initial n table) labels) :
    let run := labels.foldl (InsertRun.step enclosureId slotId requests) (InsertRun.initial n table)
    run.dispatched.Nodup ∧ ∀ missing ∈ run.dispatched, missing ∈ run.table.rows ∧
      ∃ serial, missing.summary = replaceMessage .missing enclosureId slotId serial "succeeded" := by
  have start : InsertInvariant enclosureId slotId (InsertRun.initial n table) := .initial table
  have inv := separate.invariant start fun _ _ inv ok => inv.step ok
  exact ⟨inv.nodup, fun missing member => (inv.sent missing member).1⟩

section Clicks

/-- The replacement drive of slot 252:4 as the operator typed it. -/
def typedReplacement : InsertRequest := ⟨"B", false, "admin"⟩

/-- The steps of one request from its gate to its write. -/
def toWrite (index : Fin 2) : List (InsertStep 2) :=
  [.gate index (some "0"), .topology index (some ⟨0, 0, 4⟩) true true, .live index (.ok ⟨"B", "UGood"⟩) 5]

def fromWrite (index : Fin 2) (now : ℤ) : List (InsertStep 2) := [.dispatch index (.ok ()), .audit index now]

def missingTable : AuditTable := ⟨[missingRow 252 4 0], List.pairwise_singleton _ _⟩

/-- One request after the other: the second one finds the gate closed. -/
theorem at_most_one_insert_per_missing_sequential :
    let run := (toWrite 0 ++ fromWrite 0 6 ++ toWrite 1 ++ fromWrite 1 8).foldl
      (InsertRun.step 252 4 fun _ => typedReplacement) (InsertRun.initial 2 missingTable)
    run.dispatched.Nodup ∧ ∀ missing ∈ run.dispatched, missing ∈ run.table.rows ∧
      ∃ serial, missing.summary = replaceMessage .missing 252 4 serial "succeeded" :=
  at_most_one_insert_per_missing 252 4 (fun _ => typedReplacement) missingTable _ (by decide +kernel)

/-- Two clicks: both requests read the open gate before either of them writes. -/
theorem two_inserts_for_one_missing :
    let run := (toWrite 0 ++ toWrite 1 ++ fromWrite 0 6 ++ fromWrite 1 7).foldl
      (InsertRun.step 252 4 fun _ => typedReplacement) (InsertRun.initial 2 missingTable)
    run.dispatched = [missingRow 252 4 0, missingRow 252 4 0] ∧
      run.table.rows.filter (fun row => replaceStepMissingSucceeded row.summary) = [missingRow 252 4 0] := by
  decide +kernel

end Clicks

end MegaraidDashboard.Web
