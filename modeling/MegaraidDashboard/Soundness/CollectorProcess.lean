import MegaraidDashboard.Model.Services.CollectorProcess
import Mathlib.Tactic.SplitIfs

/-! # One collector at a time

However the processes interleave, fail and crash, collector jobs run in one process at most, and every lock belongs
to an open descriptor. A process that could not write its pid keeps the lock without running anything: nobody
collects until it ends. Once the holder has gone, the next attempt of any process succeeds.
-/

namespace MegaraidDashboard.Services

open FileLocks

variable {P : Type} [DecidableEq P]

/-- What every reachable state satisfies while the lock file stays in place. -/
structure CollectorSystem.Exclusive (system : CollectorSystem P) : Prop where
  alone : ∀ p, (system.process p).held.length ≤ 1
  holds : ∀ p, ∀ fd ∈ (system.process p).held, system.kernel.holder fd.inode = some fd.id
  live : ∀ inode id, system.kernel.holder inode = some id →
    ∃ p, ∃ fd ∈ (system.process p).held, fd.inode = inode ∧ fd.id = id
  path : ∀ p, ∀ fd ∈ (system.process p).opened, system.kernel.path = some fd.inode
  fresh : ∀ p, ∀ fd ∈ (system.process p).opened, fd.id < system.kernel.next
  apart : ∀ p q, ∀ fd ∈ (system.process p).opened, ∀ fd' ∈ (system.process q).opened, fd.id = fd'.id → p = q
  distinct : ∀ p, ((system.process p).opened.map (·.id)).Nodup
  calm : ∀ p, (system.process p).orphans = 0
  drained : ∀ p fd jobs, (system.process p).phase = .collecting fd jobs → jobs.stage = .draining → jobs.submitted = 0

namespace CollectorProcess

theorem held_subset_opened {process : CollectorProcess} {fd : Descriptor} (member : fd ∈ process.held) :
    fd ∈ process.opened := by
  obtain ⟨phase, leaked, orphans⟩ := process
  cases phase with
  | opened other => exact List.mem_cons_of_mem _ member
  | waiting => exact member
  | locked other => exact member
  | collecting other jobs => exact member

end CollectorProcess

namespace CollectorSystem

omit [DecidableEq P] in
theorem exclusive_initial : (initial : CollectorSystem P).Exclusive where
  alone _ := Nat.zero_le _
  holds := by
    intro p fd member
    cases member
  live := by
    intro inode id held
    cases held
  path := by
    intro p fd member
    cases member
  fresh := by
    intro p fd member
    cases member
  apart := by
    intro p q fd member
    cases member
  distinct _ := List.nodup_nil
  calm _ := rfl
  drained := by
    intro p fd jobs phase
    cases phase

variable {system : CollectorSystem P}

/-- The state after a step of one process. -/
def after (system : CollectorSystem P) (p : P) (kernel : Kernel) (process : CollectorProcess) : CollectorSystem P :=
  ⟨kernel, Function.update system.process p process⟩

theorem process_after_self (p : P) (kernel : Kernel) (process : CollectorProcess) :
    (system.after p kernel process).process p = process := Function.update_self ..

theorem process_after_of_ne {p q : P} (ne : q ≠ p) (kernel : Kernel) (process : CollectorProcess) :
    (system.after p kernel process).process q = system.process q := Function.update_of_ne ne ..

/-- What a step of one process has to show: its own part of the invariant, and that it leaves the others theirs. -/
structure Kept (system : CollectorSystem P) (p : P) (kernel : Kernel) (process : CollectorProcess) : Prop where
  alone : process.held.length ≤ 1
  holds : ∀ fd ∈ process.held, kernel.holder fd.inode = some fd.id
  others : ∀ q, q ≠ p → ∀ fd ∈ (system.process q).held, kernel.holder fd.inode = some fd.id
  live : ∀ inode id, kernel.holder inode = some id → (∃ fd ∈ process.held, fd.inode = inode ∧ fd.id = id) ∨
    ∃ q, q ≠ p ∧ ∃ fd ∈ (system.process q).held, fd.inode = inode ∧ fd.id = id
  path : ∀ inode, system.kernel.path = some inode → kernel.path = some inode
  next : system.kernel.next ≤ kernel.next
  opened : ∀ fd ∈ process.opened, fd ∈ (system.process p).opened ∨
    kernel.path = some fd.inode ∧ fd.id = system.kernel.next ∧ fd.id < kernel.next
  distinct : (process.opened.map (·.id)).Nodup
  calm : process.orphans = 0
  drained : ∀ fd jobs, process.phase = .collecting fd jobs → jobs.stage = .draining → jobs.submitted = 0

theorem Exclusive.after (exclusive : system.Exclusive) {p : P} {kernel : Kernel} {process : CollectorProcess}
    (kept : system.Kept p kernel process) : (system.after p kernel process).Exclusive := by
  have each (motive : P → CollectorProcess → Prop) (own : motive p process)
      (other : ∀ q, q ≠ p → motive q (system.process q)) (q : P) :
      motive q ((system.after p kernel process).process q) := by
    by_cases same : q = p
    · rw [same, process_after_self]
      exact own
    · rw [process_after_of_ne same]
      exact other q same
  have owned : ∀ q, ∀ fd ∈ ((system.after p kernel process).process q).opened,
      fd ∈ (system.process q).opened ∨ q = p ∧ kernel.path = some fd.inode ∧ fd.id = system.kernel.next ∧
        fd.id < kernel.next := by
    refine each (fun q process => ∀ fd ∈ process.opened, fd ∈ (system.process q).opened ∨ q = p ∧
      kernel.path = some fd.inode ∧ fd.id = system.kernel.next ∧ fd.id < kernel.next) ?_ fun q _ fd member => .inl member
    intro fd member
    exact (kept.opened fd member).imp_right fun new => ⟨rfl, new⟩
  constructor
  · exact each (fun _ process => process.held.length ≤ 1) kept.alone fun q _ => exclusive.alone q
  · exact each (fun _ process => ∀ fd ∈ process.held, kernel.holder fd.inode = some fd.id) kept.holds kept.others
  · intro inode id held
    rcases kept.live inode id held with ⟨fd, member, same⟩ | ⟨q, ne, fd, member, same⟩
    · exact ⟨p, fd, by rwa [process_after_self], same⟩
    · exact ⟨q, fd, by rwa [process_after_of_ne ne], same⟩
  · intro q fd member
    rcases owned q fd member with old | ⟨-, path, -⟩
    · exact kept.path _ (exclusive.path q fd old)
    · exact path
  · intro q fd member
    rcases owned q fd member with old | ⟨-, -, -, below⟩
    · exact Nat.lt_of_lt_of_le (exclusive.fresh q fd old) kept.next
    · exact below
  · intro q r fd member fd' member' same
    rcases owned q fd member with old | ⟨rfl, -, new, -⟩ <;> rcases owned r fd' member' with old' | ⟨rfl, -, new', -⟩
    · exact exclusive.apart q r fd old fd' old' same
    · exact absurd (same.trans new') (Nat.ne_of_lt (exclusive.fresh q fd old))
    · exact absurd (same.symm.trans new) (Nat.ne_of_lt (exclusive.fresh r fd' old'))
    · rfl
  · exact each (fun _ process => (process.opened.map (·.id)).Nodup) kept.distinct fun q _ => exclusive.distinct q
  · exact each (fun _ process => process.orphans = 0) kept.calm fun q _ => exclusive.calm q
  · exact each (fun _ process => ∀ fd jobs, process.phase = .collecting fd jobs → jobs.stage = .draining →
      jobs.submitted = 0) kept.drained fun q _ => exclusive.drained q

/-- A step that leaves the lock file and the held descriptors as they are. -/
theorem Exclusive.kept_same (exclusive : system.Exclusive) {p : P} {process : CollectorProcess}
    (held : process.held = (system.process p).held)
    (opened : process.opened.Sublist (system.process p).opened) (calm : process.orphans = 0)
    (drained : ∀ fd jobs, process.phase = .collecting fd jobs → jobs.stage = .draining → jobs.submitted = 0) :
    system.Kept p system.kernel process where
  alone := held ▸ exclusive.alone p
  holds := held ▸ exclusive.holds p
  others q _ := exclusive.holds q
  live := by
    intro inode id holder
    obtain ⟨q, fd, member, same⟩ := exclusive.live inode id holder
    by_cases own : q = p
    · exact .inl ⟨fd, held ▸ own ▸ member, same⟩
    · exact .inr ⟨q, own, fd, member, same⟩
  path _ same := same
  next := Nat.le_refl _
  opened fd member := .inl (opened.subset member)
  distinct := (exclusive.distinct p).sublist (opened.map _)
  calm := calm
  drained := drained

omit [DecidableEq P] in
/-- A step that closes all descriptors of the process that hold the lock. -/
theorem Exclusive.kept_close (exclusive : system.Exclusive) {p : P} {process : CollectorProcess}
    {closed : List Descriptor} (own : ∀ fd ∈ closed, fd ∈ (system.process p).opened)
    (all : ∀ fd ∈ (system.process p).held, fd ∈ closed) (held : process.held = []) (opened : process.opened = [])
    (calm : process.orphans = 0)
    (drained : ∀ fd jobs, process.phase = .collecting fd jobs → jobs.stage = .draining → jobs.submitted = 0) :
    system.Kept p (system.kernel.close closed) process where
  alone := by rw [held]; exact Nat.zero_le _
  holds := by
    rw [held]
    intro fd member
    cases member
  others := by
    intro q ne fd member
    refine Kernel.close_holder_eq_some.mpr ⟨exclusive.holds q fd member, ?_⟩
    intro other inside same
    exact ne (exclusive.apart q p fd (CollectorProcess.held_subset_opened member) other (own other inside) same.symm)
  live := by
    intro inode id holder
    obtain ⟨holder, open_⟩ := Kernel.close_holder_eq_some.mp holder
    obtain ⟨q, fd, member, same⟩ := exclusive.live inode id holder
    refine .inr ⟨q, ?_, fd, member, same⟩
    rintro rfl
    exact open_ fd (all fd member) same.2
  path _ same := same
  next := Nat.le_refl _
  opened := by
    rw [opened]
    intro fd member
    cases member
  distinct := by rw [opened]; exact List.nodup_nil
  calm := calm
  drained := drained

/-- Opening the lock file makes a fresh descriptor of the file that everybody has open. -/
theorem Exclusive.kept_open (exclusive : system.Exclusive) {p : P} (waiting : (system.process p).phase = .waiting) :
    system.Kept p system.kernel.openLock.1 { system.process p with phase := .opened system.kernel.openLock.2 } := by
  have held : (system.process p).held = (system.process p).leaked := by rw [CollectorProcess.held, waiting]
  have opened : (system.process p).opened = (system.process p).leaked := by
    rw [CollectorProcess.opened, waiting, ← held]
  have same : CollectorProcess.held { system.process p with phase := .opened system.kernel.openLock.2 } =
      (system.process p).held := held.symm
  have kept : system.Kept p system.kernel { system.process p with phase := .waiting } := exclusive.kept_same held.symm
    (opened ▸ List.Sublist.refl _) (exclusive.calm p) nofun
  refine ⟨same ▸ kept.alone, same ▸ kept.holds, kept.others, same ▸ kept.live, ?_, Nat.le_succ _, ?_, ?_, kept.calm, nofun⟩
  · intro inode path
    rw [Kernel.openLock, path]
    rfl
  · intro fd member
    rcases List.mem_cons.mp member with rfl | old
    · exact .inr ⟨rfl, rfl, Nat.lt_succ_self _⟩
    · exact .inl (opened ▸ old)
  · refine List.nodup_cons.mpr ⟨?_, opened ▸ exclusive.distinct p⟩
    intro used
    obtain ⟨fd, member, same⟩ := List.mem_map.mp used
    exact absurd same (Nat.ne_of_lt (exclusive.fresh p fd (opened ▸ member)))

omit [DecidableEq P] in
/-- The holder of a lock is the only one: every descriptor is of the one file. -/
theorem Exclusive.held_eq (exclusive : system.Exclusive) {p q : P} {fd fd' : Descriptor}
    (held : fd ∈ (system.process p).held) (other : fd' ∈ (system.process q).held) : p = q := by
  have path := exclusive.path p fd (CollectorProcess.held_subset_opened held)
  have path' := exclusive.path q fd' (CollectorProcess.held_subset_opened other)
  have inodes : fd.inode = fd'.inode := Option.some.inj (path.symm.trans path')
  have ids : fd.id = fd'.id :=
    Option.some.inj ((exclusive.holds p fd held).symm.trans (inodes ▸ exclusive.holds q fd' other))
  exact exclusive.apart p q fd (CollectorProcess.held_subset_opened held) fd'
    (CollectorProcess.held_subset_opened other) ids

omit [DecidableEq P] in
/-- A lock is granted only while nobody holds it. -/
theorem Exclusive.held_of_granted (exclusive : system.Exclusive) {p : P} {fd : Descriptor}
    (opened : (system.process p).phase = .opened fd) (free : ∀ id, system.kernel.holder fd.inode = some id → id = fd.id)
    (q : P) : (system.process q).held = [] := by
  rw [List.eq_nil_iff_forall_not_mem]
  intro fd' member
  have all : (system.process p).opened = fd :: (system.process p).leaked := by rw [CollectorProcess.opened, opened]
  have own : fd ∈ (system.process p).opened := all ▸ List.mem_cons_self
  have inside := CollectorProcess.held_subset_opened member
  have inodes : fd'.inode = fd.inode :=
    Option.some.inj ((exclusive.path q fd' inside).symm.trans (exclusive.path p fd own))
  have ids : fd'.id = fd.id := free _ (inodes ▸ exclusive.holds q fd' member)
  obtain rfl := exclusive.apart q p fd' inside fd own ids
  have leaked : fd' ∈ (system.process q).leaked := by rwa [CollectorProcess.held, opened] at member
  have distinct := exclusive.distinct q
  rw [all, List.map_cons, List.nodup_cons] at distinct
  exact distinct.1 (ids ▸ List.mem_map_of_mem leaked)

omit [DecidableEq P] in
theorem Exclusive.kept_lock (exclusive : system.Exclusive) {p : P} {fd : Descriptor}
    (opened : (system.process p).phase = .opened fd) {kernel : Kernel} (granted : system.kernel.flock fd = some kernel) :
    system.Kept p kernel { system.process p with phase := .locked fd } := by
  obtain ⟨free, rfl⟩ := Kernel.flock_eq_some granted
  have nobody := exclusive.held_of_granted opened free
  have all : (system.process p).opened = fd :: (system.process p).leaked := by rw [CollectorProcess.opened, opened]
  have leaked : (system.process p).leaked = [] := by
    have own := nobody p
    rwa [CollectorProcess.held, opened] at own
  have held : CollectorProcess.held { system.process p with phase := .locked fd } = [fd] := by
    rw [← leaked]
    rfl
  refine ⟨?_, ?_, ?_, ?_, fun _ same => same, Nat.le_refl _, ?_, ?_, exclusive.calm p, nofun⟩
  · rw [held]
    exact Nat.le_refl 1
  · rw [held]
    intro other member
    rw [List.mem_singleton.mp member]
    exact Function.update_self ..
  · intro q _ other member
    rw [nobody q] at member
    cases member
  · intro inode id holder
    change Function.update system.kernel.holder fd.inode (some fd.id) inode = some id at holder
    rw [Function.update_apply] at holder
    split_ifs at holder with same
    · exact .inl ⟨fd, held ▸ List.mem_cons_self, same.symm, Option.some.inj holder⟩
    · obtain ⟨q, other, member, -⟩ := exclusive.live inode id holder
      rw [nobody q] at member
      cases member
  · intro other member
    rw [all]
    exact .inl member
  · have distinct := exclusive.distinct p
    rwa [all] at distinct

omit [DecidableEq P] in
/-- A process that holds the lock by the descriptor of its attempt has leaked none. -/
theorem Exclusive.leaked_eq_nil (exclusive : system.Exclusive) {p : P} {fd : Descriptor}
    (held : (system.process p).held = fd :: (system.process p).leaked) : (system.process p).leaked = [] := by
  have alone := exclusive.alone p
  rw [held, List.length_cons] at alone
  exact List.eq_nil_of_length_eq_zero (Nat.le_zero.mp (Nat.le_of_succ_le_succ alone))

omit [DecidableEq P] in
/-- Giving the lock back, with no job left. -/
theorem Exclusive.kept_release (exclusive : system.Exclusive) {p : P} {fd : Descriptor}
    (held : (system.process p).held = fd :: (system.process p).leaked) :
    system.Kept p (system.kernel.close [fd]) { system.process p with phase := .waiting } := by
  have leaked := exclusive.leaked_eq_nil held
  refine exclusive.kept_close ?_ ?_ leaked leaked (exclusive.calm p) nofun
  · intro other member
    rw [List.mem_singleton.mp member]
    exact CollectorProcess.held_subset_opened (held ▸ List.mem_cons_self)
  · intro other member
    rwa [held, leaked] at member

/-- The jobs change under a lock that stays. -/
theorem Exclusive.kept_jobs (exclusive : system.Exclusive) {p : P} {fd : Descriptor}
    (locked : (system.process p).phase = .locked fd ∨ ∃ jobs, (system.process p).phase = .collecting fd jobs)
    {jobs : CollectorJobs} (drained : jobs.stage = .draining → jobs.submitted = 0) :
    system.Kept p system.kernel { system.process p with phase := .collecting fd jobs } := by
  have held : (system.process p).held = fd :: (system.process p).leaked := by
    rcases locked with phase | ⟨_, phase⟩ <;> rw [CollectorProcess.held, phase]
  have opened : (system.process p).opened = fd :: (system.process p).leaked := by
    rcases locked with phase | ⟨_, phase⟩ <;> rw [CollectorProcess.opened, phase, ← held]
  refine exclusive.kept_same held.symm (opened ▸ List.Sublist.refl _) (exclusive.calm p) ?_
  rintro _ _ ⟨⟩
  exact drained

/-- Every step of a process keeps the invariant, unless its shutdown is cancelled. -/
theorem Exclusive.step (exclusive : system.Exclusive) {p : P} {step : CollectorProcessStep}
    (ordinary : step ≠ .cancelled) {kernel : Kernel} {process : CollectorProcess}
    (stepped : (system.process p).step system.kernel step = some (kernel, process)) :
    system.Kept p kernel process := by
  have calm := exclusive.calm p
  cases step with
  | openFile =>
    simp only [CollectorProcess.step] at stepped
    split at stepped
    · next waiting =>
      cases stepped
      exact exclusive.kept_open waiting
    · cases stepped
  | refuse =>
    simp only [CollectorProcess.step] at stepped
    split at stepped
    · next fd opened =>
      cases stepped
      refine exclusive.kept_same ?_ ?_ calm nofun
      · rw [CollectorProcess.held, CollectorProcess.held, opened]
      · rw [CollectorProcess.opened.eq_def (system.process p), opened]
        exact List.sublist_cons_self ..
    · cases stepped
  | lock =>
    simp only [CollectorProcess.step] at stepped
    split at stepped
    · next fd opened =>
      obtain ⟨after, granted, same⟩ := Option.map_eq_some_iff.mp stepped
      cases same
      exact exclusive.kept_lock opened granted
    · cases stepped
  | writeFails =>
    simp only [CollectorProcess.step] at stepped
    split at stepped
    · next fd locked =>
      cases stepped
      refine exclusive.kept_same ?_ ?_ calm nofun
      · rw [CollectorProcess.held, CollectorProcess.held, locked]
      · simp only [CollectorProcess.opened, CollectorProcess.held, locked]
        exact List.Sublist.refl _
    · cases stepped
  | startFails =>
    simp only [CollectorProcess.step] at stepped
    split at stepped
    · next fd locked =>
      cases stepped
      exact exclusive.kept_release (by rw [CollectorProcess.held, locked])
    · cases stepped
  | crash =>
    cases stepped
    exact exclusive.kept_close (fun _ member => member) (fun _ => CollectorProcess.held_subset_opened) rfl rfl rfl nofun
  | cancelled => exact absurd rfl ordinary
  | orphanFinishes =>
    simp only [CollectorProcess.step, calm] at stepped
    cases stepped
  | release =>
    simp only [CollectorProcess.step] at stepped
    split at stepped
    · next fd submitted collecting =>
      cases stepped
      obtain rfl : submitted = 0 := exclusive.drained p fd _ collecting rfl
      exact exclusive.kept_release (by rw [CollectorProcess.held, collecting])
    · cases stepped
  | start =>
    simp only [CollectorProcess.step] at stepped
    split at stepped
    · next fd locked =>
      cases stepped
      exact exclusive.kept_jobs (.inl locked) nofun
    · cases stepped
  | submit =>
    simp only [CollectorProcess.step] at stepped
    split at stepped
    · next fd submitted active collecting =>
      cases stepped
      exact exclusive.kept_jobs (.inr ⟨_, collecting⟩) nofun
    · cases stepped
  | begin =>
    simp only [CollectorProcess.step] at stepped
    split at stepped
    · next fd stage submitted active collecting =>
      cases stepped
      refine exclusive.kept_jobs (.inr ⟨_, collecting⟩) ?_
      intro draining
      cases exclusive.drained p fd _ collecting draining
    · cases stepped
  | finish =>
    simp only [CollectorProcess.step] at stepped
    split at stepped
    · next fd stage submitted active collecting =>
      cases stepped
      have drained := exclusive.drained p fd _ collecting
      exact exclusive.kept_jobs (.inr ⟨_, collecting⟩) drained
    · cases stepped
  | pause =>
    simp only [CollectorProcess.step] at stepped
    split at stepped
    · next fd submitted active collecting =>
      cases stepped
      exact exclusive.kept_jobs (.inr ⟨_, collecting⟩) nofun
    · cases stepped
  | settle =>
    simp only [CollectorProcess.step] at stepped
    split at stepped
    · next fd submitted active collecting =>
      cases stepped
      exact exclusive.kept_jobs (.inr ⟨_, collecting⟩) fun _ => rfl
    · cases stepped

theorem Exclusive.run (exclusive : system.Exclusive) {actions : List (CollectorAction P)}
    (undisturbed : Undisturbed actions) {final : CollectorSystem P} (ran : system.run actions = some final) :
    final.Exclusive := by
  induction actions generalizing system with
  | nil =>
    cases ran
    exact exclusive
  | cons action rest ih =>
    rw [CollectorSystem.run, List.foldlM_cons, Option.bind_eq_bind, Option.bind_eq_some_iff] at ran
    obtain ⟨next, stepped, ran⟩ := ran
    have ordinary := undisturbed action List.mem_cons_self
    refine ih ?_ (fun later member => undisturbed later (List.mem_cons_of_mem _ member)) ran
    cases action with
    | unlink => cases ordinary
    | step p step =>
      obtain ⟨⟨kernel, process⟩, taken, rfl⟩ := Option.map_eq_some_iff.mp stepped
      refine exclusive.after (exclusive.step ?_ taken)
      rintro rfl
      cases ordinary

omit [DecidableEq P] in
theorem Exclusive.held_of_collects (exclusive : system.Exclusive) {p : P} (collects : (system.process p).Collects) :
    ∃ fd, fd ∈ (system.process p).held := by
  rcases collects with ⟨fd, jobs, phase⟩ | orphans
  · exact ⟨fd, by rw [CollectorProcess.held, phase]; exact List.mem_cons_self⟩
  · rw [exclusive.calm p] at orphans
    cases orphans

/-- In every interleaving of any number of processes, with failed starts and crashes, collector jobs run in one
process at most. -/
theorem one_collector (actions : List (CollectorAction P)) (final : CollectorSystem P)
    (undisturbed : Undisturbed actions) (ran : initial.run actions = some final) (p q : P)
    (collects : (final.process p).Collects) (other : (final.process q).Collects) : p = q := by
  have exclusive := exclusive_initial.run undisturbed ran
  obtain ⟨fd, held⟩ := exclusive.held_of_collects collects
  obtain ⟨fd', held'⟩ := exclusive.held_of_collects other
  exact exclusive.held_eq held held'

/-- The first process collects, and the second is refused. -/
theorem one_collector_refused : ∃ final : CollectorSystem Bool,
    initial.run [.step false .openFile, .step true .openFile, .step false .lock, .step false .start, .step false .submit,
      .step true .refuse] = some final ∧ ∀ p, (final.process p).Collects → p = false := by
  refine ⟨_, rfl, ?_⟩
  intro p collects
  exact one_collector [.step false .openFile, .step true .openFile, .step false .lock, .step false .start,
    .step false .submit, .step true .refuse] _ (by decide) rfl p false collects (.inl ⟨_, _, rfl⟩)

/-! ## A leaked lock -/

/-- Only a crash closes a leaked descriptor. -/
theorem leaked_step {kernel after : Kernel} {process next : CollectorProcess} {step : CollectorProcessStep}
    (alive : step ≠ .crash) (stepped : process.step kernel step = some (after, next)) :
    ∀ fd ∈ process.leaked, fd ∈ next.leaked := by
  intro fd member
  cases step with
  | crash => exact absurd rfl alive
  | lock =>
    simp only [CollectorProcess.step] at stepped
    split at stepped
    · obtain ⟨granted, _, same⟩ := Option.map_eq_some_iff.mp stepped
      cases same
      exact member
    · cases stepped
  | writeFails =>
    simp only [CollectorProcess.step] at stepped
    split at stepped <;> cases stepped
    exact List.mem_cons_of_mem _ member
  | _ =>
    simp only [CollectorProcess.step] at stepped
    split at stepped <;> cases stepped <;> exact member

theorem leaked_run {actions : List (CollectorAction P)} {p : P} (alive : .step p .crash ∉ actions)
    {final : CollectorSystem P} (ran : system.run actions = some final) {fd : Descriptor}
    (leaked : fd ∈ (system.process p).leaked) : fd ∈ (final.process p).leaked := by
  induction actions generalizing system with
  | nil =>
    cases ran
    exact leaked
  | cons action rest ih =>
    rw [CollectorSystem.run, List.foldlM_cons, Option.bind_eq_bind, Option.bind_eq_some_iff] at ran
    obtain ⟨next, stepped, ran⟩ := ran
    refine ih (fun later => alive (List.mem_cons_of_mem _ later)) ran ?_
    cases action with
    | unlink =>
      cases stepped
      exact leaked
    | step q step =>
      obtain ⟨⟨kernel, process⟩, taken, rfl⟩ := Option.map_eq_some_iff.mp stepped
      change fd ∈ (Function.update system.process q process p).leaked
      rw [Function.update_apply]
      split_ifs with same
      · subst same
        exact leaked_step (fun crashed => alive (crashed ▸ List.mem_cons_self)) taken fd leaked
      · exact leaked

/-- A process that could not write its pid after the lock was granted keeps the lock: until that process ends, no
process runs a collector job, whatever all of them do. -/
theorem nobody_collects_after_failed_write (earlier later : List (CollectorAction P)) (middle final : CollectorSystem P)
    (p : P) (fd : Descriptor) (undisturbed : Undisturbed (earlier ++ later)) (ran : initial.run earlier = some middle)
    (leaked : fd ∈ (middle.process p).leaked) (alive : .step p .crash ∉ later) (goes : middle.run later = some final)
    (q : P) : ¬ (final.process q).Collects := by
  have before : Undisturbed earlier := fun action member => undisturbed action (List.mem_append_left _ member)
  have after : Undisturbed later := fun action member => undisturbed action (List.mem_append_right _ member)
  have exclusive := (exclusive_initial.run before ran).run after goes
  have still := leaked_run alive goes leaked
  rintro (⟨fd', jobs, phase⟩ | orphans)
  · have held : (final.process q).held = fd' :: (final.process q).leaked := by rw [CollectorProcess.held, phase]
    have own : fd ∈ (final.process p).held := by
      rw [CollectorProcess.held]
      split
      · exact List.mem_cons_of_mem _ still
      · exact List.mem_cons_of_mem _ still
      · exact still
    obtain rfl := exclusive.held_eq own (held ▸ List.mem_cons_self)
    rw [exclusive.leaked_eq_nil held] at still
    cases still
  · rw [exclusive.calm q] at orphans
    cases orphans

/-- The first process cannot write its pid; its own next attempt and that of the second process are refused. -/
theorem nobody_collects_full_disk : ∃ final : CollectorSystem Bool,
    initial.run ([.step false .openFile, .step false .lock, .step false .writeFails] ++
      [.step false .openFile, .step true .openFile, .step false .refuse, .step true .refuse]) = some final ∧
      ∀ q, ¬ (final.process q).Collects := by
  refine ⟨_, rfl, ?_⟩
  exact nobody_collects_after_failed_write [.step false .openFile, .step false .lock, .step false .writeFails]
    [.step false .openFile, .step true .openFile, .step false .refuse, .step true .refuse] _ _ false ⟨0, 0⟩ (by decide)
    rfl List.mem_cons_self (by decide) rfl

/-! ## Takeover -/

omit [DecidableEq P] in
theorem Exclusive.free (exclusive : system.Exclusive) (nobody : ∀ p, (system.process p).held = []) (inode : ℕ) :
    system.kernel.holder inode = none := by
  rw [Option.eq_none_iff_forall_ne_some]
  intro id held
  obtain ⟨p, fd, member, -⟩ := exclusive.live inode id held
  rw [nobody p] at member
  cases member

/-- An attempt succeeds when nobody holds the lock. -/
theorem attempt_succeeds {q : P} (waiting : (system.process q).phase = .waiting)
    (free : ∀ inode, system.kernel.holder inode = none) :
    ∃ final fd jobs, system.run [.step q .openFile, .step q .lock, .step q .start] = some final ∧
      (final.process q).phase = .collecting fd jobs := by
  have opens : system.step (.step q .openFile) = some (system.after q system.kernel.openLock.1
      { system.process q with phase := .opened system.kernel.openLock.2 }) := by
    simp only [CollectorSystem.step, CollectorProcess.step, waiting]
    rfl
  have granted : ∃ kernel, system.kernel.openLock.1.flock system.kernel.openLock.2 = some kernel := by
    refine ⟨_, if_pos ?_⟩
    rw [show system.kernel.openLock.1.holder system.kernel.openLock.2.inode = none from free _]
    rfl
  obtain ⟨kernel, granted⟩ := granted
  let opened := system.after q system.kernel.openLock.1
    { system.process q with phase := .opened system.kernel.openLock.2 }
  have locks : opened.step (.step q .lock) = some (opened.after q kernel
      { opened.process q with phase := .locked system.kernel.openLock.2 }) := by
    have phase : (opened.process q).phase = .opened system.kernel.openLock.2 := by rw [process_after_self]
    simp only [CollectorSystem.step, CollectorProcess.step, phase]
    rw [show opened.kernel.flock system.kernel.openLock.2 = some kernel from granted]
    rfl
  let locked := opened.after q kernel { opened.process q with phase := .locked system.kernel.openLock.2 }
  have starts : locked.step (.step q .start) = some (locked.after q kernel
      { locked.process q with phase := .collecting system.kernel.openLock.2 .started }) := by
    have phase : (locked.process q).phase = .locked system.kernel.openLock.2 := by rw [process_after_self]
    simp only [CollectorSystem.step, CollectorProcess.step, phase]
    rfl
  refine ⟨locked.after q kernel { locked.process q with phase := .collecting system.kernel.openLock.2 .started },
    system.kernel.openLock.2, .started, ?_, ?_⟩
  · rw [CollectorSystem.run, List.foldlM_cons, opens]
    change List.foldlM CollectorSystem.step opened [.step q .lock, .step q .start] = _
    rw [List.foldlM_cons, locks]
    change List.foldlM CollectorSystem.step locked [.step q .start] = _
    rw [List.foldlM_cons, starts]
    rfl
  · rw [process_after_self]

/-- When the process that holds the lock ends, whether it collected or only kept a leaked lock, the next attempt of
any waiting process starts the collector. -/
theorem takeover (actions : List (CollectorAction P)) (middle : CollectorSystem P) (undisturbed : Undisturbed actions)
    (ran : initial.run actions = some middle) (p q : P) (fd : Descriptor) (held : fd ∈ (middle.process p).held)
    (ready : q = p ∨ (middle.process q).phase = .waiting) :
    ∃ final fd' jobs, middle.run [.step p .crash, .step q .openFile, .step q .lock, .step q .start] = some final ∧
      (final.process q).phase = .collecting fd' jobs := by
  have exclusive := exclusive_initial.run undisturbed ran
  let crashed := middle.after p (middle.kernel.close (middle.process p).opened) .initial
  have crash : middle.step (.step p .crash) = some crashed := rfl
  have ordinary : CollectorProcessStep.crash ≠ .cancelled := nofun
  have ended : crashed.Exclusive := exclusive.after (exclusive.step ordinary rfl)
  have nobody (r : P) : (crashed.process r).held = [] := by
    by_cases same : r = p
    · rw [same, process_after_self]
      rfl
    · rw [process_after_of_ne same, List.eq_nil_iff_forall_not_mem]
      exact fun other member => same (exclusive.held_eq member held)
  have waiting : (crashed.process q).phase = .waiting := by
    by_cases same : q = p
    · rw [same, process_after_self]
      rfl
    · rw [process_after_of_ne same]
      exact ready.resolve_left same
  obtain ⟨final, fd', jobs, goes, phase⟩ := attempt_succeeds waiting (ended.free nobody)
  refine ⟨final, fd', jobs, ?_, phase⟩
  rw [CollectorSystem.run, List.foldlM_cons, crash]
  exact goes

/-- The second process takes over from the first one, which could not write its pid. -/
theorem takeover_full_disk : ∃ middle final : CollectorSystem Bool,
    initial.run [.step false .openFile, .step false .lock, .step false .writeFails] = some middle ∧
    middle.run [.step false .crash, .step true .openFile, .step true .lock, .step true .start] = some final := by
  obtain ⟨final, _, _, goes, -⟩ := takeover [.step false .openFile, .step false .lock, .step false .writeFails] _
    (by decide) rfl false true ⟨0, 0⟩ List.mem_cons_self (.inr rfl)
  exact ⟨_, final, rfl, goes⟩

end CollectorSystem

end MegaraidDashboard.Services
