import Mathlib.Tactic.ByContra
import Mathlib.Tactic.SplitIfs
import MegaraidDashboard.Model.Scripts.LocateActivity

/-! # No write over an unknown outcome

Between two runs the receipt tells whether the last write is settled. A run dispatches only after a receipt that says
so was overwritten by one that does not, so that wherever it stops the next run finds its own doubt in the file.
-/

namespace MegaraidDashboard.Scripts.LocateActivity

/-! ## The invariant -/

/-- The receipts that block a later run. -/
def ReceiptState.Blocks (state : ReceiptState) : Prop :=
  state = .prepared ∨ state = .dispatching ∨ state = .uncertain ∨ state = .verifiedPendingAudit

/-- The change from off to on that a dispatch made, verified and confirmed. -/
def Dispatch.TurnedOn (dispatch : Dispatch) : Prop :=
  dispatch.before = .off ∧ dispatch.target = .on ∧ dispatch.confirmed = true ∧ dispatch.verified = true

section Invariant

variable (history : History)

/-- The outcome of every write is settled. -/
def History.Quiet : Prop := ∀ dispatch ∈ history.dispatches, dispatch.run ∈ history.settled

/-- The newest write turned the setting on. -/
def History.Undoable : Prop := ∃ dispatch ∈ history.dispatches.head?, dispatch.TurnedOn

/-- The run has sent nothing. -/
def History.SentNothing (run : ℕ) : Prop := ∀ dispatch ∈ history.dispatches, dispatch.run ≠ run

/-- What a receipt says about the writes. -/
structure History.Tells (stored : StoredReceipt) : Prop where
  verified : stored.receipt.state = .verified → history.Quiet ∧
    ∃ dispatch ∈ history.dispatches.head?, dispatch.before = stored.receipt.before ∧
      dispatch.target = stored.receipt.target ∧ dispatch.confirmed = true ∧ dispatch.verified = true
  restored : stored.receipt.state = .restored → history.Quiet
  notSent : stored.receipt.state = .notSent → stored.receipt.writeDispatched = false →
    history.Quiet ∧ history.SentNothing stored.run ∧
      ∀ original ∈ stored.receipt.restoreOf, ∀ controllerSha256, restorable controllerSha256 original = true →
        history.Undoable

/-- What the file says about the writes; without a file nothing was sent. -/
def History.FileTells : Option StoredReceipt → Prop
  | none => history.dispatches = []
  | some stored => history.Tells stored

/-- The file is a receipt that blocks. -/
def FileBlocks (file : Option StoredReceipt) : Prop := ∃ stored, file = some stored ∧ stored.receipt.state.Blocks

/-- An intent that may be dispatched. -/
structure History.Clear (operation : Operation) : Prop where
  quiet : history.Quiet
  sentNothing : history.SentNothing history.run
  turnsOn : operation.action = .apply → operation.intent.target = .on ∧ operation.intent.restoreOf = none
  undoes : operation.action ≠ .apply → history.Undoable

/-- The write of the running call is the newest one, and all before it are settled. -/
def History.InFlight (operation : Operation) (confirmed verified : Prop) : Prop :=
  ∃ dispatch older, history.dispatches = dispatch :: older ∧ dispatch.run = history.run ∧
    dispatch.before = operation.intent.before ∧ dispatch.target = operation.intent.target ∧
    (confirmed → dispatch.confirmed = true) ∧ (verified → dispatch.verified = true) ∧
    ∀ earlier ∈ older, earlier.run ∈ history.settled

/-- The invariant of a phase. -/
def History.Fits (file : Option StoredReceipt) : OperatePhase → Prop
  | .idle => history.FileTells file
  | .auditing operation => history.FileTells file ∧ history.Clear operation ∧ operation.intent.writeDispatched = false
  | .preparing operation => history.FileTells file ∧ history.Clear operation ∧ operation.intent.writeDispatched = false
  | .executing operation => FileBlocks file ∧ history.Clear operation ∧ operation.intent.writeDispatched = false
  | .guarding operation => FileBlocks file ∧ history.Clear operation ∧ operation.intent.writeDispatched = false
  | .dispatching operation => FileBlocks file ∧ history.Clear operation ∧ operation.intent.writeDispatched = true ∧
      operation.intent.state = .dispatching
  | .spawning operation => FileBlocks file ∧ history.Clear operation ∧ operation.intent.writeDispatched = true
  | .sent operation =>
    FileBlocks file ∧ history.InFlight operation False False ∧ operation.intent.writeDispatched = true
  | .reading operation =>
    FileBlocks file ∧ history.InFlight operation True False ∧ operation.intent.writeDispatched = true
  | .failing operation _ => FileBlocks file ∧ (operation.intent.writeDispatched = false → history.Clear operation)
  | .failed => history.FileTells file
  | .settling operation => FileBlocks file ∧ history.InFlight operation True True
  | .succeeding operation => FileBlocks file ∧ history.InFlight operation True True
  | .finishing operation => FileBlocks file ∧ history.InFlight operation True True

/-- The invariant. -/
structure LocateRun.Sound (run : LocateRun) : Prop where
  bound : ∀ dispatch ∈ run.history.dispatches, dispatch.run ≤ run.history.run
  fits : run.history.Fits run.file run.phase

end Invariant

/-! ## The checks before the intent -/

/-- A check that refuses has not refused. -/
theorem else_of_ok {ε α : Type} {c : Prop} [Decidable c] {error : ε} {rest : Except ε α} {value : α}
    (passed : (if c then .error error else rest) = .ok value) : ¬ c ∧ rest = .ok value := by
  by_cases refused : c
  · rw [if_pos refused] at passed
    cases passed
  · rw [if_neg refused] at passed
    exact ⟨refused, passed⟩

theorem operateEntry_eq_ok {file : Option Receipt} {reads : OperateReads} {action : OperateAction} {operation : Operation}
    (entered : operateEntry file reads action = .ok operation) :
    receiptFree file = true ∧ operation.intent.writeDispatched = false ∧
      (operation.action = .apply → operation.intent.target = .on ∧ operation.intent.restoreOf = none) ∧
      (operation.action ≠ .apply →
        ∃ original ∈ restoreOriginal file, ∃ controllerSha256, restorable controllerSha256 original = true) := by
  obtain ⟨-, entered⟩ := else_of_ok entered
  cases approvals : reads.approval with
  | none =>
    rw [approvals] at entered
    cases entered
  | some approval =>
    rw [approvals] at entered
    obtain ⟨-, entered⟩ := else_of_ok entered
    cases observation : reads.observation with
    | none =>
      rw [observation] at entered
      cases entered
    | some observed =>
      rw [observation] at entered
      obtain ⟨-, entered⟩ := else_of_ok entered
      obtain ⟨-, entered⟩ := else_of_ok entered
      obtain ⟨status, entered⟩ := else_of_ok entered
      obtain ⟨plan, entered⟩ := else_of_ok entered
      obtain ⟨-, entered⟩ := else_of_ok entered
      obtain ⟨free, entered⟩ := else_of_ok entered
      obtain ⟨refused, entered⟩ := else_of_ok entered
      obtain ⟨-, entered⟩ := else_of_ok entered
      cases entered
      refine ⟨by simpa using free, rfl, ?_, ?_⟩
      · rintro rfl
        exact ⟨rfl, rfl⟩
      · intro other
        have restore : action = .restore := by
          cases action with
          | plan => exact absurd rfl plan
          | apply => exact absurd rfl other
          | status => exact absurd rfl status
          | restore => rfl
        have found : (restoreOriginal file).any (restorable approval.controllerSha256) = true := by
          by_contra missing
          exact refused ⟨restore, by simpa using missing⟩
        rw [Option.any_eq_true] at found
        obtain ⟨original, some_, passes⟩ := found
        exact ⟨original, some_, _, passes⟩

theorem ReceiptState.Blocks.ne {state : ReceiptState} (blocks : state.Blocks) :
    state ≠ .verified ∧ state ≠ .restored ∧ state ≠ .notSent := by
  rcases blocks with rfl | rfl | rfl | rfl <;> decide

/-- A receipt in one of the blocking states lets no write through. -/
theorem receiptFree_of_blocks {receipt : Receipt} (blocks : receipt.state.Blocks) : receiptFree (some receipt) = false := by
  rcases blocks with same | same | same | same <;> simp [receiptFree, same]

section Reading

variable {history : History} {file : Option StoredReceipt}

theorem tells_of_blocks {stored : StoredReceipt} (blocks : stored.receipt.state.Blocks) : history.Tells stored where
  verified state := absurd state blocks.ne.1
  restored state := absurd state blocks.ne.2.1
  notSent state := absurd state blocks.ne.2.2

theorem FileBlocks.tells (blocks : FileBlocks file) : history.FileTells file := by
  obtain ⟨stored, rfl, blocked⟩ := blocks
  exact tells_of_blocks blocked

/-- A file that lets a write through says that all writes are settled. -/
theorem History.FileTells.quiet (tells : history.FileTells file) (free : receiptFree (file.map (·.receipt)) = true) :
    history.Quiet := by
  cases file with
  | none =>
    intro dispatch member
    rw [show history.dispatches = [] from tells] at member
    cases member
  | some stored =>
    simp only [Option.map_some, receiptFree, Bool.or_eq_true, Bool.and_eq_true, beq_iff_eq, Bool.not_eq_true'] at free
    rcases free with (verified | restored) | ⟨notSent, nothing⟩
    · exact (tells.verified verified).1
    · exact tells.restored restored
    · exact (tells.notSent notSent nothing).1

/-- The change that a restore may undo is the newest write. -/
theorem History.FileTells.undoable (tells : history.FileTells file) (free : receiptFree (file.map (·.receipt)) = true)
    {original : ReceiptCore} (some_ : original ∈ restoreOriginal (file.map (·.receipt))) {controllerSha256 : String}
    (passes : restorable controllerSha256 original = true) : history.Undoable := by
  cases file with
  | none => cases some_
  | some stored =>
    rw [Option.map_some, restoreOriginal] at some_
    split_ifs at some_ with notSent
    · simp only [Option.map_some, receiptFree, notSent, Bool.or_eq_true, Bool.and_eq_true, beq_iff_eq, reduceCtorEq,
        false_or, true_and, Bool.not_eq_true'] at free
      exact (tells.notSent notSent free).2.2 original some_ controllerSha256 passes
    · obtain rfl := Option.some.inj some_
      simp only [restorable, Bool.and_eq_true, beq_iff_eq] at passes
      obtain ⟨⟨⟨⟨⟨verified, before⟩, target⟩, -⟩, -⟩, -⟩ := passes
      obtain ⟨-, dispatch, newest, sameBefore, sameTarget, confirmed, readBack⟩ := tells.verified verified
      exact ⟨dispatch, newest, sameBefore.trans before, sameTarget.trans target, confirmed, readBack⟩

/-- The receipt of a run that sent nothing. -/
theorem tells_notSent {operation : Operation} (clear : history.Clear operation) (confirmed : Bool) :
    history.Tells ⟨{ operation.intent with state := .notSent, commandConfirmed := confirmed }, history.run⟩ where
  verified state := by cases state
  restored state := by cases state
  notSent _ _ := by
    refine ⟨clear.quiet, clear.sentNothing, ?_⟩
    intro original some_ controllerSha256 passes
    by_cases apply : operation.action = .apply
    · have none_ : operation.intent.restoreOf = none := (clear.turnsOn apply).2
      have missing : original ∈ (none : Option ReceiptCore) := none_ ▸ some_
      cases missing
    · exact clear.undoes apply

end Reading

/-! ## Steps -/

namespace LocateRun

variable {run : LocateRun} {operation : Operation}

/-- A call that ends the run with an exception, ends it for good or goes on. -/
theorem sound_proceed (sound : run.Sound) {α : Type} {answer : Answer α} {next : α → LocateRun} {failure : OperatePhase}
    (raised : run.history.Fits run.file failure) (killed : run.history.FileTells run.file)
    (ok : ∀ value, (next value).Sound) : (run.proceed answer next failure).Sound := by
  cases answer with
  | ok value => exact ok value
  | raised => exact ⟨sound.bound, raised⟩
  | killed => exact ⟨sound.bound, killed⟩

/-- A receipt that does not settle the run is written, or not. -/
theorem sound_persist (sound : run.Sound) {receipt : Receipt} {answer : PersistAnswer} {next failure : OperatePhase}
    (raised : run.history.Fits run.file failure) (killed : run.history.FileTells run.file)
    (storedNext : run.history.Fits (some ⟨receipt, run.history.run⟩) next)
    (storedRaised : run.history.Fits (some ⟨receipt, run.history.run⟩) failure)
    (storedKilled : run.history.FileTells (some ⟨receipt, run.history.run⟩)) :
    (run.persist receipt false answer next failure).Sound := by
  cases answer with
  | done => exact ⟨sound.bound, storedNext⟩
  | raised stored =>
    cases stored with
    | true => exact ⟨sound.bound, storedRaised⟩
    | false => exact ⟨sound.bound, raised⟩
  | killed stored =>
    cases stored with
    | true => exact ⟨sound.bound, storedKilled⟩
    | false => exact ⟨sound.bound, killed⟩

theorem step_begin (idle : run.phase = .idle) (action : OperateAction) (reads : OperateReads) :
    run.step (.begin action reads) =
      let begun := { run with history := { run.history with run := run.history.run + 1 }, outcome := none }
      match operateEntry (run.file.map (·.receipt)) reads action with
      | .error outcome => begun.stop outcome
      | .ok operation => { begun with phase := .auditing operation } := by
  obtain ⟨file, _, outcome, history⟩ := run
  cases idle
  rfl

theorem sound_begin (sound : run.Sound) (idle : run.phase = .idle) (action : OperateAction) (reads : OperateReads) :
    (run.step (.begin action reads)).Sound := by
  have tells : run.history.FileTells run.file := by
    have fits := sound.fits
    rwa [idle] at fits
  have later : ∀ dispatch ∈ run.history.dispatches, dispatch.run ≤ run.history.run + 1 := fun dispatch member =>
    Nat.le_succ_of_le (sound.bound dispatch member)
  have same : ∀ file, run.history.FileTells file →
      History.FileTells { run.history with run := run.history.run + 1 } file := by
    rintro (_ | stored) tells
    · exact tells
    · exact ⟨tells.verified, tells.restored, tells.notSent⟩
  cases entered : operateEntry (run.file.map (·.receipt)) reads action with
  | error outcome =>
    rw [step_begin idle, entered]
    exact ⟨later, same _ tells⟩
  | ok operation =>
    obtain ⟨free, unsent, turnsOn, undoes⟩ := operateEntry_eq_ok entered
    rw [step_begin idle, entered]
    refine ⟨later, same _ tells, ⟨tells.quiet free, ?_, turnsOn, ?_⟩, unsent⟩
    · intro dispatch member same
      have past := sound.bound dispatch member
      have now : dispatch.run = run.history.run + 1 := same
      omega
    · intro other
      obtain ⟨original, some_, controllerSha256, passes⟩ := undoes other
      exact tells.undoable free some_ passes

/-- The receipt of an exception. -/
theorem sound_failing {confirmed : Bool} (sound : run.Sound) (failing : run.phase = .failing operation confirmed)
    (answer : PersistAnswer) : (run.step (.persist answer)).Sound := by
  obtain ⟨file, _, outcome, history⟩ := run
  cases failing
  obtain ⟨blocks, clear⟩ := sound.fits
  have tells : history.FileTells (some ⟨{ operation.intent with
      state := if operation.intent.writeDispatched then ReceiptState.uncertain else .notSent,
      commandConfirmed := confirmed }, history.run⟩) := by
    by_cases sent : operation.intent.writeDispatched = true
    · rw [if_pos sent]
      exact tells_of_blocks (.inr (.inr (.inl rfl)))
    · rw [if_neg sent]
      exact tells_notSent (clear (Bool.not_eq_true _ ▸ sent)) confirmed
  exact sound_persist sound blocks.tells blocks.tells tells tells tells

/-- The last receipt settles the run. -/
theorem sound_finishing (sound : run.Sound) (finishing : run.phase = .finishing operation) (answer : PersistAnswer) :
    (run.step (.persist answer)).Sound := by
  obtain ⟨file, _, outcome, history⟩ := run
  cases finishing
  obtain ⟨blocks, dispatch, older, dispatches, own, before, target, confirmed, verified, settled⟩ := sound.fits
  have quiet : History.Quiet { history with settled := history.run :: history.settled } := by
    intro other member
    have listed : other ∈ dispatch :: older := dispatches ▸ member
    rcases List.mem_cons.mp listed with rfl | earlier
    · exact own ▸ List.mem_cons_self
    · exact List.mem_cons_of_mem _ (settled other earlier)
  have tells : History.Tells { history with settled := history.run :: history.settled }
      ⟨{ operation.intent with state := if operation.action = .apply then ReceiptState.verified else .restored },
        history.run⟩ := by
    refine ⟨fun _ => ⟨quiet, dispatch, ?_, before, target, confirmed trivial, verified trivial⟩, fun _ => quiet, ?_⟩
    · exact congrArg List.head? dispatches
    · intro state
      dsimp only at state
      split_ifs at state
  cases answer with
  | done => exact ⟨sound.bound, tells⟩
  | raised stored | killed stored =>
    cases stored with
    | true => exact ⟨sound.bound, tells⟩
    | false => exact ⟨sound.bound, blocks.tells⟩

/-- The process starts. -/
theorem sound_spawn (sound : run.Sound) (spawning : run.phase = .spawning operation) (answer : Answer Unit) :
    (run.step (.spawn answer)).Sound := by
  obtain ⟨file, _, outcome, history⟩ := run
  cases spawning
  obtain ⟨blocks, clear, dispatched⟩ := sound.fits
  have unsent : operation.intent.writeDispatched = false → history.Clear operation := fun _ => clear
  refine sound_proceed sound ⟨blocks, unsent⟩ blocks.tells fun _ => ⟨?_, blocks, ?_, dispatched⟩
  · intro dispatch member
    rcases List.mem_cons.mp member with rfl | older
    · exact Nat.le_refl _
    · exact sound.bound dispatch older
  · exact ⟨_, _, rfl, rfl, rfl, rfl, False.elim, False.elim, clear.quiet⟩

/-- What the run learns of its write concerns the newest one. -/
theorem inFlight_note {history : History} {confirmed verified confirmed' verified' : Prop}
    (flight : history.InFlight operation confirmed verified) {update : Dispatch → Dispatch}
    (kept : ∀ dispatch, (update dispatch).run = dispatch.run ∧ (update dispatch).before = dispatch.before ∧
      (update dispatch).target = dispatch.target)
    (learns : ∀ dispatch, (confirmed → dispatch.confirmed = true) → (verified → dispatch.verified = true) →
      (confirmed' → (update dispatch).confirmed = true) ∧ (verified' → (update dispatch).verified = true)) :
    (history.note update).InFlight operation confirmed' verified' := by
  obtain ⟨dispatch, older, dispatches, own, before, target, sure, read, settled⟩ := flight
  obtain ⟨sameRun, sameBefore, sameTarget⟩ := kept dispatch
  obtain ⟨sure', read'⟩ := learns dispatch sure read
  refine ⟨update dispatch, older, ?_, sameRun.trans own, sameBefore.trans before, sameTarget.trans target, sure', read',
    settled⟩
  rw [History.note, dispatches]

theorem bound_note {history : History} (bound : ∀ dispatch ∈ history.dispatches, dispatch.run ≤ history.run)
    {update : Dispatch → Dispatch} (kept : ∀ dispatch, (update dispatch).run = dispatch.run) :
    ∀ dispatch ∈ (history.note update).dispatches, dispatch.run ≤ (history.note update).run := by
  intro dispatch member
  rw [History.note] at member ⊢
  cases dispatches : history.dispatches with
  | nil =>
    rw [dispatches] at member
    cases member
  | cons newest older =>
    rw [dispatches] at member bound
    rcases List.mem_cons.mp member with rfl | earlier
    · exact (kept newest).symm ▸ bound newest List.mem_cons_self
    · exact bound dispatch (List.mem_cons_of_mem _ earlier)

theorem sound_result (sound : run.Sound) (sent : run.phase = .sent operation) (answer : Answer Unit) :
    (run.step (.result answer)).Sound := by
  obtain ⟨file, _, outcome, history⟩ := run
  cases sent
  obtain ⟨blocks, flight, dispatched⟩ := sound.fits
  have failing : ∀ confirmed, history.Fits file (.failing operation confirmed) := fun confirmed =>
    ⟨blocks, fun unsent => by rw [dispatched] at unsent; cases unsent⟩
  refine sound_proceed sound (failing false) blocks.tells fun _ => ⟨?_, blocks, ?_, dispatched⟩
  · exact bound_note sound.bound fun _ => rfl
  · exact inFlight_note flight (fun _ => ⟨rfl, rfl, rfl⟩) fun _ _ _ => ⟨fun _ => rfl, False.elim⟩

theorem sound_observe (sound : run.Sound) (reading : run.phase = .reading operation)
    (answer : Answer (LocateMode × String)) : (run.step (.observe answer)).Sound := by
  obtain ⟨file, _, outcome, history⟩ := run
  cases reading
  obtain ⟨blocks, flight, dispatched⟩ := sound.fits
  have failing : history.Fits file (.failing operation true) :=
    ⟨blocks, fun unsent => by rw [dispatched] at unsent; cases unsent⟩
  refine sound_proceed sound failing blocks.tells ?_
  rintro ⟨observed, topology⟩
  dsimp only
  split
  · exact ⟨sound.bound, failing⟩
  · refine ⟨bound_note sound.bound fun _ => rfl, blocks, ?_⟩
    exact inFlight_note flight (fun _ => ⟨rfl, rfl, rfl⟩) fun _ sure _ => ⟨sure, fun _ => rfl⟩

/-- The receipts on the way to a settled outcome. -/
theorem sound_settling (sound : run.Sound) (settling : run.phase = .settling operation) (answer : PersistAnswer) :
    (run.step (.persist answer)).Sound := by
  obtain ⟨file, _, outcome, history⟩ := run
  cases settling
  obtain ⟨blocks, flight⟩ := sound.fits
  have blocked : ReceiptState.Blocks .verifiedPendingAudit := .inr (.inr (.inr rfl))
  exact sound_persist sound blocks.tells blocks.tells ⟨⟨_, rfl, blocked⟩, flight⟩ (tells_of_blocks blocked)
    (tells_of_blocks blocked)

theorem sound_preparing (sound : run.Sound) (preparing : run.phase = .preparing operation) (answer : PersistAnswer) :
    (run.step (.persist answer)).Sound := by
  obtain ⟨file, _, outcome, history⟩ := run
  cases preparing
  obtain ⟨tells, clear, unsent⟩ := sound.fits
  have blocked : ReceiptState.Blocks .prepared := .inl rfl
  refine sound_persist sound tells tells ⟨⟨_, rfl, blocked⟩, ?_, unsent⟩ (tells_of_blocks blocked) (tells_of_blocks blocked)
  exact ⟨clear.quiet, clear.sentNothing, clear.turnsOn, clear.undoes⟩

theorem sound_dispatching (sound : run.Sound) (dispatching : run.phase = .dispatching operation) (answer : PersistAnswer) :
    (run.step (.persist answer)).Sound := by
  obtain ⟨file, _, outcome, history⟩ := run
  cases dispatching
  obtain ⟨blocks, clear, dispatched, state⟩ := sound.fits
  have blocked : operation.intent.state.Blocks := .inr (.inl state)
  have unsent : operation.intent.writeDispatched = false → history.Clear operation := fun _ => clear
  exact sound_persist sound ⟨blocks, unsent⟩ blocks.tells ⟨⟨_, rfl, blocked⟩, clear, dispatched⟩ ⟨⟨_, rfl, blocked⟩, unsent⟩
    (tells_of_blocks blocked)

theorem sound_auditing (sound : run.Sound) (auditing : run.phase = .auditing operation) (answer : Answer ℕ) :
    (run.step (.audit answer)).Sound := by
  obtain ⟨file, _, outcome, history⟩ := run
  cases auditing
  obtain ⟨tells, clear, unsent⟩ := sound.fits
  exact sound_proceed sound tells tells fun _ =>
    ⟨sound.bound, tells, ⟨clear.quiet, clear.sentNothing, clear.turnsOn, clear.undoes⟩, unsent⟩

theorem sound_executing (sound : run.Sound) (executing : run.phase = .executing operation) (answer : Answer Unit) :
    (run.step (.execute answer)).Sound := by
  obtain ⟨file, _, outcome, history⟩ := run
  cases executing
  obtain ⟨blocks, clear, unsent⟩ := sound.fits
  exact sound_proceed sound ⟨blocks, fun _ => clear⟩ blocks.tells fun _ => ⟨sound.bound, blocks, clear, unsent⟩

theorem sound_guarding (sound : run.Sound) (guarding : run.phase = .guarding operation) (answer : Answer Unit) :
    (run.step (.guard answer)).Sound := by
  obtain ⟨file, _, outcome, history⟩ := run
  cases guarding
  obtain ⟨blocks, clear, unsent⟩ := sound.fits
  exact sound_proceed sound ⟨blocks, fun _ => clear⟩ blocks.tells fun _ =>
    ⟨sound.bound, blocks, ⟨clear.quiet, clear.sentNothing, clear.turnsOn, clear.undoes⟩, rfl, rfl⟩

theorem sound_failed (sound : run.Sound) (failed : run.phase = .failed) (answer : Answer ℕ) :
    (run.step (.audit answer)).Sound := by
  obtain ⟨file, _, outcome, history⟩ := run
  cases failed
  have tells : history.FileTells file := sound.fits
  exact sound_proceed sound tells tells fun _ => ⟨sound.bound, tells⟩

theorem sound_succeeding (sound : run.Sound) (succeeding : run.phase = .succeeding operation) (answer : Answer ℕ) :
    (run.step (.audit answer)).Sound := by
  obtain ⟨file, _, outcome, history⟩ := run
  cases succeeding
  obtain ⟨blocks, flight⟩ := sound.fits
  exact sound_proceed sound blocks.tells blocks.tells fun _ => ⟨sound.bound, blocks, flight⟩

theorem sound_step (sound : run.Sound) (label : OperateStep) : (run.step label).Sound := by
  obtain ⟨file, phase, outcome, history⟩ := run
  -- a label that the phase does not expect leaves the run as it is
  cases phase with
  | idle =>
    cases label with
    | begin action reads => exact sound_begin sound rfl action reads
    | audit | persist | execute | guard | spawn | result | observe => exact sound
  | auditing operation =>
    cases label with
    | audit answer => exact sound_auditing sound rfl answer
    | begin | persist | execute | guard | spawn | result | observe => exact sound
  | preparing operation =>
    cases label with
    | persist answer => exact sound_preparing sound rfl answer
    | begin | audit | execute | guard | spawn | result | observe => exact sound
  | executing operation =>
    cases label with
    | execute answer => exact sound_executing sound rfl answer
    | begin | audit | persist | guard | spawn | result | observe => exact sound
  | guarding operation =>
    cases label with
    | guard answer => exact sound_guarding sound rfl answer
    | begin | audit | persist | execute | spawn | result | observe => exact sound
  | dispatching operation =>
    cases label with
    | persist answer => exact sound_dispatching sound rfl answer
    | begin | audit | execute | guard | spawn | result | observe => exact sound
  | spawning operation =>
    cases label with
    | spawn answer => exact sound_spawn sound rfl answer
    | begin | audit | persist | execute | guard | result | observe => exact sound
  | sent operation =>
    cases label with
    | result answer => exact sound_result sound rfl answer
    | begin | audit | persist | execute | guard | spawn | observe => exact sound
  | reading operation =>
    cases label with
    | observe answer => exact sound_observe sound rfl answer
    | begin | audit | persist | execute | guard | spawn | result => exact sound
  | failing operation confirmed =>
    cases label with
    | persist answer => exact sound_failing sound rfl answer
    | begin | audit | execute | guard | spawn | result | observe => exact sound
  | failed =>
    cases label with
    | audit answer => exact sound_failed sound rfl answer
    | begin | persist | execute | guard | spawn | result | observe => exact sound
  | settling operation =>
    cases label with
    | persist answer => exact sound_settling sound rfl answer
    | begin | audit | execute | guard | spawn | result | observe => exact sound
  | succeeding operation =>
    cases label with
    | audit answer => exact sound_succeeding sound rfl answer
    | begin | persist | execute | guard | spawn | result | observe => exact sound
  | finishing operation =>
    cases label with
    | persist answer => exact sound_finishing sound rfl answer
    | begin | audit | execute | guard | spawn | result | observe => exact sound

/-! ## Histories -/

theorem sound_initial : LocateRun.initial.Sound where
  bound dispatch member := by cases member
  fits := rfl

theorem sound_foldl (labels : List OperateStep) (sound : run.Sound) : (labels.foldl step run).Sound := by
  induction labels generalizing run with
  | nil => exact sound
  | cons label labels ih => exact ih (sound_step sound label)

/-- In every phase the file tells the truth. -/
theorem Sound.tells (sound : run.Sound) : run.history.FileTells run.file := by
  have fits := sound.fits
  cases phase : run.phase with
  | idle | failed =>
    rw [phase] at fits
    exact fits
  | auditing operation | preparing operation =>
    rw [phase] at fits
    exact fits.1
  | executing operation | guarding operation | dispatching operation | spawning operation | sent operation
  | reading operation | settling operation | succeeding operation | finishing operation =>
    rw [phase] at fits
    exact fits.1.tells
  | failing operation confirmed =>
    rw [phase] at fits
    exact fits.1.tells

/-- A blocking receipt stops a run before its intent. -/
theorem begin_of_blocks {stored : StoredReceipt} (file : run.file = some stored) (blocks : stored.receipt.state.Blocks)
    (idle : run.phase = .idle) (action : OperateAction) (reads : OperateReads) :
    (run.step (.begin action reads)).phase = .idle := by
  cases entered : operateEntry (run.file.map (·.receipt)) reads action with
  | error outcome =>
    rw [step_begin idle, entered]
    rfl
  | ok operation =>
    have free := (operateEntry_eq_ok entered).1
    rw [file, Option.map_some, receiptFree_of_blocks blocks] at free
    cases free

/-- The writes that were sent, without what was learned of them. -/
def sent (run : LocateRun) : List ℕ := run.history.dispatches.map (·.run)

theorem sent_proceed {α : Type} {answer : Answer α} {next : α → LocateRun} {failure : OperatePhase}
    (kept : ∀ value, (next value).sent = run.sent) : (run.proceed answer next failure).sent = run.sent := by
  cases answer with
  | ok value => exact kept value
  | raised | killed => rfl

theorem sent_persist (receipt : Receipt) (settles : Bool) (answer : PersistAnswer) (next failure : OperatePhase) :
    (run.persist receipt settles answer next failure).sent = run.sent := by
  cases answer with
  | done => cases settles <;> rfl
  | raised stored | killed stored => cases stored <;> cases settles <;> rfl

theorem sent_note (run : LocateRun) (phase : OperatePhase) {update : Dispatch → Dispatch}
    (kept : ∀ dispatch, (update dispatch).run = dispatch.run) :
    sent { run with phase := phase, history := run.history.note update } = run.sent := by
  rw [sent, sent, History.note]
  cases run.history.dispatches with
  | nil => rfl
  | cons newest older => exact congrArg (· :: _) (kept newest)

/-- A step starts the process, or it sends nothing. -/
theorem sent_step (run : LocateRun) (label : OperateStep) :
    (∃ operation, run.phase = .spawning operation ∧ label = .spawn (.ok ())) ∨ (run.step label).sent = run.sent := by
  unfold step
  split
  · dsimp only
    split <;> exact .inr rfl
  · exact .inr (sent_proceed fun _ => rfl)
  · exact .inr (sent_persist ..)
  · exact .inr (sent_proceed fun _ => rfl)
  · exact .inr (sent_proceed fun _ => rfl)
  · exact .inr (sent_persist ..)
  case h_7 operation answer phase =>
    cases answer with
    | ok => exact .inl ⟨operation, phase, rfl⟩
    | raised | killed => exact .inr rfl
  · exact .inr (sent_proceed fun _ => sent_note run _ fun _ => rfl)
  · refine .inr (sent_proceed ?_)
    rintro ⟨observed, topology⟩
    dsimp only
    split
    · rfl
    · exact sent_note run _ fun _ => rfl
  · exact .inr (sent_persist ..)
  · exact .inr (sent_proceed fun _ => rfl)
  · exact .inr (sent_persist ..)
  · exact .inr (sent_proceed fun _ => rfl)
  · refine .inr ?_
    dsimp only
    split <;> exact sent_persist ..
  · exact .inr rfl

/-- The newest write of a step that sends one is sent over settled outcomes, and turns off only what was turned on. -/
theorem clear_of_sent (sound : run.Sound) {label : OperateStep} {new : Dispatch}
    (sends : (run.step label).history.dispatches = new :: run.history.dispatches) :
    run.history.Quiet ∧ (new.target = .off → run.history.Undoable) := by
  rcases sent_step run label with ⟨operation, spawning, rfl⟩ | kept
  · obtain ⟨file, _, outcome, history⟩ := run
    cases spawning
    obtain ⟨-, clear, -⟩ := sound.fits
    obtain ⟨rfl, -⟩ := List.cons.inj sends
    refine ⟨clear.quiet, fun off => clear.undoes fun apply => ?_⟩
    rw [(clear.turnsOn apply).1] at off
    cases off
  · have lengths := congrArg List.length kept
    rw [sent, sent, sends] at lengths
    simp at lengths

end LocateRun

open LocateRun

/-- In every history a write is sent only over settled outcomes, a receipt that blocks lets no run past its checks, a
receipt `not_sent` without a dispatch is of a run that sent nothing, and the setting is turned off only right after a
change from off to on that was confirmed and verified. -/
theorem locate_never_over_unknown (labels : List OperateStep) :
    let run := labels.foldl step LocateRun.initial
    (∀ label new, (run.step label).history.dispatches = new :: run.history.dispatches →
      run.history.Quiet ∧ (new.target = .off → run.history.Undoable)) ∧
    (∀ stored, run.file = some stored → stored.receipt.state.Blocks → run.phase = .idle →
      ∀ action reads, (run.step (.begin action reads)).phase = .idle) ∧
    ∀ stored, run.file = some stored → stored.receipt.state = .notSent → stored.receipt.writeDispatched = false →
      run.history.SentNothing stored.run := by
  intro run
  have sound : run.Sound := sound_foldl labels sound_initial
  refine ⟨?_, ?_, ?_⟩
  · intro label new sends
    exact clear_of_sent sound sends
  · intro stored file blocks idle action reads
    exact begin_of_blocks file blocks idle action reads
  · intro stored file notSent nothing
    have tells := sound.tells
    rw [file] at tells
    exact (tells.notSent notSent nothing).2.1

/-- An apply and the restore of it send both writes. -/
example :
    let reads (mode : LocateMode) : OperateReads := ⟨true, some ⟨locateCommands, true, "c"⟩, some (mode, "t"), true, true⟩
    let call (mode target : LocateMode) (action : OperateAction) : List OperateStep :=
      [.begin action (reads mode), .audit (.ok 1), .persist .done, .execute (.ok ()), .guard (.ok ()), .persist .done,
        .spawn (.ok ()), .result (.ok ()), .observe (.ok (target, "t")), .persist .done, .audit (.ok 2), .persist .done]
    ((call .off .on .apply ++ call .on .off .restore).foldl step LocateRun.initial).history =
      ⟨2, [⟨2, .on, .off, true, true⟩, ⟨1, .off, .on, true, true⟩], [2, 1]⟩ := by
  decide +kernel

end MegaraidDashboard.Scripts.LocateActivity
