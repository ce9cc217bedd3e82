import MegaraidDashboard.Model.Python.DateTime
import MegaraidDashboard.Model.Storcli.Authorization
import MegaraidDashboard.Soundness.CapabilityGate
import MegaraidDashboard.ToMathlib.Raises

/-! # Authorisation of a write over three loads of the policy

The preflight asks the policy of the second load; the last load is only compared with the first. A policy that
changes in between and changes back is therefore asked about nothing.
-/

namespace MegaraidDashboard.Storcli

/-! ## Tokens that the runner accepts -/

section Tokens

variable [PyDigits]

theorem space_notMem_of_validateCommand {args : List String} (valid : validateCommand args = .ok ()) :
    ∀ arg ∈ args, ' ' ∉ arg.toList := by
  intro arg member space
  have blank : (args.any fun arg => arg == "" || arg.toList.any Py.isSpace) = true := by
    refine List.any_eq_true.mpr ⟨arg, member, ?_⟩
    rw [Bool.or_eq_true]
    exact .inr (List.any_eq_true.mpr ⟨' ', space, by decide⟩)
  rw [validateCommand, if_pos blank] at valid
  cases valid

/-- A vector that the runner accepts is listed by its tokens. -/
theorem permits_iff_tokens {policy : PolicyContent} {args : List String}
    (valid : validateCommand (withJsonFlag args) = .ok ()) :
    policy.permits (withJsonFlag args) = true ↔ ∃ entry ∈ policy.commands, commandTokens entry.command = withJsonFlag args := by
  have flagged : withJsonFlag args ≠ [] := by
    intro empty
    have last := Web.getLast?_withJsonFlag args
    rw [empty] at last
    cases last
  have tokens := commandTokens_joinArgs (space_notMem_of_validateCommand valid) flagged
  rw [Web.permits_iff, Web.withJsonFlag_flagged, PolicyContent.Lists, List.mem_map]
  constructor
  · rintro ⟨entry, member, same⟩
    exact ⟨entry, member, by rw [same, tokens]⟩
  · rintro ⟨entry, member, same⟩
    exact ⟨entry, member, by rw [← same, joinArgs_commandTokens]⟩

/-! ## Steps of a replacement -/

/-- Offline, missing and insert. -/
def IsReplacementStep (args : List String) : Prop :=
  (args.drop 1).take 2 ∈ [["set", "offline"], ["set", "missing"]] ∨ args[1]? = some "insert"

omit [PyDigits] in
/-- A replacement step of approved tokens names a drive of the approved enclosure. -/
theorem NamesApproved.selector {policy : PolicyContent} {args : List String} (approved : NamesApproved policy args)
    (step : IsReplacementStep args) : ∃ slot ≤ 7, ∃ rest, args = Web.WriteRoute.driveSelector 252 slot :: rest := by
  cases approved with
  | controller fixed =>
    have none_ : ∀ tokens ∈ controllerWrites,
        ¬((tokens.drop 1).take 2 ∈ [["set", "offline"], ["set", "missing"]] ∨ tokens[1]? = some "insert") := by decide
    exact absurd step (none_ _ fixed)
  | virtualDrive => exact absurd step (by simp [IsReplacementStep])
  | @drive slot tail low fixed => exact ⟨slot, low, tail, rfl⟩
  | @hotSpare slot low => exact ⟨slot, low, _, rfl⟩
  | @insert_ slot topology low listed own group => exact ⟨slot, low, _, rfl⟩

/-- For a permitted vector the runner asks for every step of the replacement of its slot. -/
theorem replacementCommandRefusal_none_iff {policy : CommandPolicy} {args : List String}
    (listed : ∃ entry ∈ policy.commands, commandTokens entry.command = args) :
    policy.replacementCommandRefusal args = none ↔ (IsReplacementStep args → ∃ slot ≤ 7,
      args.head? = some (Web.WriteRoute.driveSelector 252 slot) ∧
        Web.ReplacementApproved policy.toPolicyContent 252 slot) := by
  by_cases step : IsReplacementStep args
  · obtain ⟨entry, member, rfl⟩ := listed
    have approved := (policy.itemValid (List.mem_map_of_mem member)).namesApproved
    obtain ⟨slot, low, rest, tokens⟩ := approved.selector step
    rw [tokens] at step ⊢
    rw [Web.replacementCommandRefusal_iff rest step]
    constructor
    · exact fun all _ => ⟨slot, low, rfl, all⟩
    · intro all
      obtain ⟨other, -, same, every⟩ := all step
      obtain ⟨-, rfl⟩ := Web.driveSelector_injective (Option.some.inj same)
      exact every
  · exact iff_of_true (if_neg step) fun is => absurd is step

end Tokens

/-! ## What the phases of a call establish -/

section Phases

variable [PyText] [PyDigits] {parsers : PrewriteParsers} {call : AuthorizedCall}

/-- The controller that the preflight read names the serial. -/
def NamesSerial (parsers : PrewriteParsers) (call : AuthorizedCall) (serial : String) : Prop :=
  ∃ identity controller, (runStorcli call.useSudo false (.ok ()) call.identity).1 = .ok identity ∧
    parsers.parseControllerShowAll identity = .ok controller ∧ controller.serialNumber = serial

/-- The policy approves the command: it lists exactly these tokens, and for a step of a replacement all three steps of
that slot. -/
structure Approves (args : List String) (policy : PolicyContent) : Prop where
  permits : ∃ entry ∈ policy.commands, commandTokens entry.command = withJsonFlag args
  replacement : IsReplacementStep (withJsonFlag args) → ∃ slot ≤ 7,
    (withJsonFlag args).head? = some (Web.WriteRoute.driveSelector 252 slot) ∧ Web.ReplacementApproved policy 252 slot

/-- The policy authorises the call: it approves the command, and the controller that the preflight read has its serial. -/
structure Authorises (parsers : PrewriteParsers) (call : AuthorizedCall) (policy : PolicyContent) : Prop where
  approves : Approves call.args policy
  serial : NamesSerial parsers call policy.controllerSerial

/-- The runner's own questions about the command. -/
def Grants (args : List String) (policy : PolicyContent) : Prop :=
  policy.permits (withJsonFlag args) = true ∧ policy.replacementCommandRefusal (withJsonFlag args) = none

omit [PyText] in
theorem approves_iff {args : List String} {policy : CommandPolicy} (valid : validateCommand (withJsonFlag args) = .ok ()) :
    Approves args policy.toPolicyContent ↔ Grants args policy.toPolicyContent := by
  have tokens : policy.permits (withJsonFlag args) = true ↔
      ∃ entry ∈ policy.commands, commandTokens entry.command = withJsonFlag args := permits_iff_tokens valid
  constructor
  · rintro ⟨permits, replacement⟩
    exact ⟨tokens.mpr permits, (replacementCommandRefusal_none_iff permits).mpr replacement⟩
  · rintro ⟨permits, free⟩
    have listed := tokens.mp permits
    exact ⟨listed, (replacementCommandRefusal_none_iff listed).mp free⟩

/-- The preflight reads one controller only. -/
theorem NamesSerial.unique {serial other : String} (names : NamesSerial parsers call serial)
    (names' : NamesSerial parsers call other) : serial = other := by
  obtain ⟨identity, controller, read, parsed, rfl⟩ := names
  obtain ⟨identity', controller', read', parsed', rfl⟩ := names'
  obtain rfl := Except.ok.inj (read.symm.trans read')
  obtain rfl := Except.ok.inj (parsed.symm.trans parsed')
  rfl

theorem namesSerial_of_checkIdentity {policy : PolicyContent} {identity : Json}
    (read : (runStorcli call.useSudo false (.ok ()) call.identity).1 = .ok identity)
    (passed : call.checkIdentity parsers policy identity = .ok ()) : NamesSerial parsers call policy.controllerSerial := by
  rw [AuthorizedCall.checkIdentity] at passed
  obtain ⟨controller, parsed, passed⟩ := Except.bind_eq_ok passed
  by_cases other : controller.serialNumber ≠ policy.controllerSerial ∨
      controller.modelName ≠ "LSI MegaRAID SAS 9270CV-8i"
  · have refused : (raise .commandFailed : Except PyError Unit) = .ok () := (if_pos other).symm.trans passed
    cases refused
  · exact ⟨identity, controller, read, parsed, not_not.mp fun differs => other (.inl differs)⟩

/-- What the preflight establishes: the checked policy grants the command and names the controller. -/
theorem granted_of_checkStorcliPrewrite (passed : call.checkStorcliPrewrite parsers = .ok ()) :
    ∃ checked, call.checked = some checked ∧ Grants call.args checked.toPolicyContent ∧
      NamesSerial parsers call checked.controllerSerial := by
  rw [AuthorizedCall.checkStorcliPrewrite] at passed
  obtain ⟨_, -, passed⟩ := Except.bind_eq_ok passed
  split at passed
  · next checked pinned loaded =>
    split_ifs at passed with refused permits
    · cases passed
    · cases passed
    · obtain ⟨identity, read, passed⟩ := Except.bind_eq_ok passed
      exact ⟨checked, loaded, ⟨Bool.of_not_eq_false permits, not_not.mp refused⟩,
        namesSerial_of_checkIdentity read passed⟩
  · cases passed

/-- A write goes out exactly after a passed preflight between two loads of one content. -/
theorem authorize_eq_ok_iff : call.authorize parsers = .ok () ↔
    ∃ approved latest, call.approved = some approved ∧ call.checkStorcliPrewrite parsers = .ok () ∧
      call.latest = some latest ∧ latest.toPolicyContent = approved.toPolicyContent ∧ call.pinnedAtDispatch = true ∧
      ∀ answer ∈ call.beforeWrite, answer = .ok () := by
  have callback : call.beforeWrite.getD (.ok ()) = .ok () ↔ ∀ answer ∈ call.beforeWrite, answer = .ok () := by
    cases call.beforeWrite <;> simp
  constructor
  · intro passed
    rw [AuthorizedCall.authorize] at passed
    split at passed
    · cases passed
    · next approved first =>
      obtain ⟨_, preflight, passed⟩ := Except.bind_eq_ok passed
      split at passed
      · cases passed
      · next latest last =>
        split_ifs at passed with changed
        · cases passed
        · obtain ⟨same, pinned⟩ := not_or.mp changed
          exact ⟨approved, latest, first, preflight, last, not_not.mp same, Bool.of_not_eq_false pinned,
            callback.mp passed⟩
  · rintro ⟨approved, latest, first, preflight, last, same, pinned, returned⟩
    have steady : ¬(latest.toPolicyContent ≠ approved.toPolicyContent ∨ call.pinnedAtDispatch = false) := by
      rw [not_or, not_not, Bool.not_eq_false]
      exact ⟨same, pinned⟩
    rw [AuthorizedCall.authorize, first]
    dsimp only
    rw [preflight, last]
    exact (if_neg steady).trans (callback.mpr returned)

theorem run_spawned_iff (write : "show" ∉ call.commandArgs) : (call.run parsers).2 = true ↔
    validateCommand call.commandArgs = .ok () ∧ call.authorize parsers = .ok () ∧ call.process.spawned = true := by
  rw [AuthorizedCall.run]
  cases validateCommand call.commandArgs with
  | error error => simp
  | ok _ =>
    dsimp only
    rw [if_neg write]
    cases call.authorize parsers with
    | error error => simp [runStorcli]
    | ok _ => simp [runStorcli]

theorem run_refused (valid : validateCommand call.commandArgs = .ok ()) (write : "show" ∉ call.commandArgs)
    {error : PyError} (refused : call.authorize parsers = .error error) :
    call.run parsers = (.error (notSent error), false) := by
  rw [AuthorizedCall.run, valid]
  dsimp only
  rw [if_neg write, refused]
  rfl

omit [PyText] [PyDigits] in
theorem writeSent_of_notSent {error : PyError} {raised : StorcliError} (same : notSent error = .storcli raised) :
    raised.writeSent = some false := by
  cases error <;> cases same
  rfl

/-! ## The contract -/

/-- Whatever goes out is authorised by the policy of the last load, and whatever is refused says that nothing went
out. -/
structure DispatchAuthorized (parsers : PrewriteParsers) (call : AuthorizedCall) : Prop where
  dispatched : "show" ∉ call.commandArgs → (call.run parsers).2 = true →
    (∃ latest, call.latest = some latest ∧ Authorises parsers call latest.toPolicyContent) ∧
      ∀ answer ∈ call.beforeWrite, answer = .ok ()
  refused : "show" ∉ call.commandArgs → validateCommand call.commandArgs = .ok () →
    ∀ error, call.authorize parsers = .error error → (call.run parsers).2 = false ∧
      ∀ raised, (call.run parsers).1 = .error (.storcli raised) → raised.writeSent = some false

/-- After a passed preflight the last content authorises the call when it approves the command and names the same
serial. -/
theorem authorises_latest_iff {checked latest : CommandPolicy} (loaded : call.checked = some checked)
    (preflight : call.checkStorcliPrewrite parsers = .ok ()) :
    Authorises parsers call latest.toPolicyContent ↔
      Approves call.args latest.toPolicyContent ∧ latest.controllerSerial = checked.controllerSerial := by
  obtain ⟨other, loaded', -, names⟩ := granted_of_checkStorcliPrewrite preflight
  obtain rfl := Option.some.inj (loaded.symm.trans loaded')
  constructor
  · rintro ⟨approves, own⟩
    exact ⟨approves, own.unique names⟩
  · rintro ⟨approves, same⟩
    refine ⟨approves, ?_⟩
    rw [same]
    exact names

/-- The policy changed for the preflight and back: the content in between approves the command, while the content of
the first and the last load does not approve it, or names another controller. -/
def ChangedBack (args : List String) (approved checked latest : Option CommandPolicy) : Prop :=
  ∃ first between last, approved = some first ∧ checked = some between ∧ latest = some last ∧
    last.toPolicyContent = first.toPolicyContent ∧ Approves args between.toPolicyContent ∧
    ¬(Approves args first.toPolicyContent ∧ first.controllerSerial = between.controllerSerial)

/-- Whatever the controller, the callback and the process do, the contract holds unless the policy changed back. -/
theorem dispatchAuthorized_of_not_changedBack
    (steady : ¬ChangedBack call.args call.approved call.checked call.latest) : DispatchAuthorized parsers call := by
  refine ⟨fun write spawned => ?_, fun write valid error refused => ?_⟩
  · obtain ⟨valid, passed, -⟩ := (run_spawned_iff write).mp spawned
    obtain ⟨approved, latest, first, preflight, last, back, -, callback⟩ := authorize_eq_ok_iff.mp passed
    obtain ⟨checked, second, grants, -⟩ := granted_of_checkStorcliPrewrite preflight
    refine ⟨⟨latest, last, (authorises_latest_iff second preflight).mpr ?_⟩, callback⟩
    by_contra foreign
    rw [back] at foreign
    exact steady ⟨approved, checked, latest, first, second, last, back, (approves_iff valid).mpr grants, foreign⟩
  · have answer := run_refused valid write refused
    rw [answer]
    exact ⟨rfl, fun raised same => writeSent_of_notSent (Except.error.inj same)⟩

end Phases

/-! ## A preflight that passes

Every command of a policy can go out: there are answers of the controller on which the preflight passes.
-/

/-- The payload of a successful command. -/
def successPayload (data : Json) : Json := .obj [("Controllers", .arr [.obj [
  ("Command Status", .obj [("Controller", .int 0), ("Status", .str "Success")]), ("Response Data", data)]])]

/-- A controller with one virtual drive, one disk group and one physical drive. -/
def controllerData (serial alarm activity : String) (virtualDrive diskGroup : ℕ) : List (String × Json) := [
  ("Basics", .obj [("Controller", .int 0), ("Model", .str "LSI MegaRAID SAS 9270CV-8i"), ("Serial Number", .str serial),
    ("Current System Date/time", .str "01/01/1970, 00:00:00"), ("PCI Address", .str "00:01:00:00")]),
  ("Version", .obj [("Firmware Version", .str "3.460.115-6465"), ("Bios Version", .str "5.50.03.0_4.17.08.00_0x06110200"),
    ("Driver Name", .str "megaraid_sas"), ("Driver Version", .str "07.727.03.00-rc1")]),
  ("HwCfg", .obj [("Alarm", .str alarm), ("BBU", .str "Absent")]),
  ("Policies", .obj [("Use drive activity for locate", .str activity)]),
  ("Drive Groups", .int 1),
  ("TOPOLOGY", .arr [.obj [("DG", .int diskGroup), ("Arr", .str "-"), ("Row", .str "-")]]),
  ("Virtual Drives", .int 1),
  ("VD LIST", .arr [.obj [("DG/VD", .str (toString diskGroup ++ "/" ++ toString virtualDrive))]]),
  ("Physical Drives", .int 1),
  ("PD LIST", .arr [.obj [("EID:Slt", .str "252:0"), ("DID", .int 0), ("State", .str "Onln")]])]

/-- `/c0 show all J` of that controller. -/
def controllerPayload (serial alarm activity : String) (virtualDrive diskGroup : ℕ) : Json :=
  successPayload (.obj (controllerData serial alarm activity virtualDrive diskGroup))

def idleRebuildRow : List (String × Json) :=
  [("Drive-ID", .str "/c0/e252/s0"), ("Progress%", .str "-"), ("Status", .str "Not in progress")]

/-- `/c0/e252/s0 show rebuild J` of an idle drive. -/
def idlePayload : Json := successPayload (.arr [.obj idleRebuildRow])

/-- What the parsers make of a controller's payload, of some foreign configuration and of an absent time. -/
structure PrewriteParsers.ReadsLive (parsers : PrewriteParsers) : Prop where
  controller : ∀ serial alarm activity virtualDrive diskGroup, ∃ controller,
    parsers.parseControllerShowAll (controllerPayload serial alarm activity virtualDrive diskGroup) = .ok controller ∧
      controller.serialNumber = serial ∧ controller.modelName = "LSI MegaRAID SAS 9270CV-8i" ∧
      controller.alarmState = alarm
  foreign : ∃ data config, parsers.parseForeignConfig (successPayload data) = .ok config ∧ config.present = true ∧
    config.digest ≠ ""
  minutes : parsers.parseMinutes none = .ok none

/-- The alarm that the command can leave. -/
def alarmBefore (args : List String) : String := if args[2]? = some "alarm=on" then "Off" else "On"

/-- The locate activity that the command leaves. -/
def activityBefore (args : List String) : String := if args[2]? = some "activityforlocate=on" then "off" else "on"

section Passing

variable [PyText]

theorem normalizeAlarmState_on : normalizeAlarmState (some "On") = "On" := by
  have folded : Py.casefold (Py.strip "On") = "on" :=
    (PyText.casefold_ascii _ (by decide)).trans (by decide)
  rw [normalizeAlarmState, Option.getD_some, folded]
  rfl

theorem normalizeAlarmState_off : normalizeAlarmState (some "Off") = "Off" := by
  have folded : Py.casefold (Py.strip "Off") = "off" :=
    (PyText.casefold_ascii _ (by decide)).trans (by decide)
  rw [normalizeAlarmState, Option.getD_some, folded]
  rfl

omit [PyText] in
/-- Only the command that switches the buzzer on wants it to be off. -/
theorem on_mem_alarmStates {token : String} {states : List String} (found : alarmStates token = some states)
    (other : token ≠ "alarm=on") : states.contains "On" = true := by
  unfold alarmStates at found
  split at found
  · exact absurd rfl other
  · exact Option.some.inj found ▸ rfl
  · exact Option.some.inj found ▸ rfl
  · cases found

theorem alarmAllows_before {args : List String} {controller : ControllerInfo}
    (alarm : controller.alarmState = alarmBefore args) : alarmAllows args controller = true := by
  rw [alarmAllows, alarm, alarmBefore]
  by_cases sounding : args[2]? = some "alarm=on"
  · rw [if_pos sounding, sounding, normalizeAlarmState_off]
    rfl
  · rw [if_neg sounding, normalizeAlarmState_on]
    cases token : args[2]? with
    | none => rfl
    | some token_ =>
      rw [Option.bind_some]
      cases found : alarmStates token_ with
      | none => rfl
      | some states => exact on_mem_alarmStates found fun same => sounding (token.trans (congrArg some same))

omit [PyText] in
/-- Only the command that switches the activity on wants it to be off. -/
theorem activityStates_eq {token expected : String} (found : activityStates token = some expected) :
    expected = if token = "activityforlocate=on" then "off" else "on" := by
  unfold activityStates at found
  split at found
  · exact (Option.some.inj found).symm
  · exact (Option.some.inj found).symm
  · cases found

omit [PyText] in
theorem identityData_controllerPayload (serial alarm activity : String) (virtualDrive diskGroup : ℕ) :
    identityData (controllerPayload serial alarm activity virtualDrive diskGroup) =
      .ok (controllerData serial alarm activity virtualDrive diskGroup) := rfl

theorem casefold_strip_off : Py.casefold (Py.strip "off") = "off" := (PyText.casefold_ascii _ (by decide)).trans (by decide)

theorem casefold_strip_on : Py.casefold (Py.strip "on") = "on" := (PyText.casefold_ascii _ (by decide)).trans (by decide)

theorem activityAllows_before (args : List String) (serial alarm : String) (virtualDrive diskGroup : ℕ) :
    activityAllows args (controllerData serial alarm (activityBefore args) virtualDrive diskGroup) = true := by
  have policies : getField (controllerData serial alarm (activityBefore args) virtualDrive diskGroup) "Policies" =
      some (.obj [("Use drive activity for locate", .str (activityBefore args))]) := rfl
  have setting : getField [("Use drive activity for locate", Json.str (activityBefore args))]
      "Use drive activity for locate" = some (.str (activityBefore args)) := rfl
  rw [activityAllows]
  cases token : args[2]? with
  | none => rfl
  | some token_ =>
    rw [Option.bind_some]
    cases found : activityStates token_ with
    | none => rfl
    | some expected =>
      rw [policies]
      dsimp only
      rw [setting]
      dsimp only
      rw [activityStates_eq found, activityBefore, token]
      by_cases lighting : token_ = "activityforlocate=on"
      · rw [if_pos lighting, if_pos (congrArg some lighting), casefold_strip_off]
        rfl
      · rw [if_neg lighting, if_neg fun same => lighting (Option.some.inj same), casefold_strip_on]
        rfl

section Topology

variable [PyDigits]

omit [PyText] in
theorem isDecimal_of_isDigit {c : Char} (digit : c.isDigit = true) : Py.isDecimal c = true := by
  have small : c.toNat < 128 := by
    simp only [Char.isDigit, ge_iff_le, Bool.and_eq_true, decide_eq_true_eq, UInt32.le_iff_toNat_le] at digit
    exact Nat.lt_of_le_of_lt digit.2 (by decide)
  rw [Py.isDecimal, PyDigits.decimal_ascii c small, if_pos digit]
  rfl

omit [PyText] in
theorem allDecimal_of_isDigit {chars : List Char} (some_ : chars ≠ []) (digits : ∀ c ∈ chars, c.isDigit = true) :
    Py.allDecimal chars = true := by
  rw [Py.allDecimal, Bool.and_eq_true, Bool.not_eq_true', List.isEmpty_eq_false_iff, List.all_eq_true]
  exact ⟨some_, fun c member => isDecimal_of_isDigit (digits c member)⟩

omit [PyText] in
theorem allDecimal_toString (n : ℕ) : Py.allDecimal (toString n).toList = true :=
  allDecimal_of_isDigit (Nat.toString_toList_ne_nil n) fun _ member => Nat.isDigit_of_mem_toString member

omit [PyText] in
theorem isVdIdentity_toString (diskGroup virtualDrive : ℕ) :
    isVdIdentity (toString diskGroup ++ "/" ++ toString virtualDrive) = true := by
  have slash : ∀ n : ℕ, '/' ∉ (toString n).toList := Nat.notMem_toString (by decide)
  have sides : Py.splitChars '/' (toString diskGroup ++ "/" ++ toString virtualDrive).toList =
      [(toString diskGroup).toList, (toString virtualDrive).toList] := by
    rw [String.toList_append, String.toList_append, List.append_assoc]
    exact (Py.splitChars_append_cons (slash diskGroup) _).trans
      (congrArg _ (Py.splitChars_eq_singleton (slash virtualDrive)))
  rw [isVdIdentity, sides]
  dsimp only
  rw [allDecimal_toString, allDecimal_toString]
  rfl

variable (policy : PolicyContent) (serial alarm activity : String)

omit [PyText] in
theorem virtualDriveApproved_controllerData (args : List String) : virtualDriveApproved args
    (controllerData serial alarm activity policy.virtualDrive policy.diskGroup) policy = true := by
  have row : vdIdentity (.obj [("DG/VD", .str (toString policy.diskGroup ++ "/" ++ toString policy.virtualDrive))]) =
      some (toString policy.diskGroup ++ "/" ++ toString policy.virtualDrive) := by
    have field : getField [("DG/VD", Json.str (toString policy.diskGroup ++ "/" ++ toString policy.virtualDrive))]
        "DG/VD" = some (.str (toString policy.diskGroup ++ "/" ++ toString policy.virtualDrive)) := rfl
    rw [vdIdentity, field]
    exact if_pos (isVdIdentity_toString _ _)
  have inventory : vdInventory (controllerData serial alarm activity policy.virtualDrive policy.diskGroup) =
      some (1, [toString policy.diskGroup ++ "/" ++ toString policy.virtualDrive]) := by
    have count : getField (controllerData serial alarm activity policy.virtualDrive policy.diskGroup) "Virtual Drives" =
        some (.int 1) := rfl
    have rows : getField (controllerData serial alarm activity policy.virtualDrive policy.diskGroup) "VD LIST" =
        some (.arr [.obj [("DG/VD", .str (toString policy.diskGroup ++ "/" ++ toString policy.virtualDrive))]]) := rfl
    rw [vdInventory, count, rows]
    dsimp only
    rw [if_neg (by decide), List.mapM_cons, row]
    rfl
  rw [virtualDriveApproved, inventory]
  simp

omit [PyText] [PyDigits] in
theorem diskGroupApproved_controllerData :
    diskGroupApproved (controllerData serial alarm activity policy.virtualDrive policy.diskGroup) policy = true := by
  have inventory : groupInventory (controllerData serial alarm activity policy.virtualDrive policy.diskGroup) =
      some (1, [⟨some policy.diskGroup, none, none⟩]) := rfl
  rw [diskGroupApproved, inventory]
  simp

omit [PyText] in
theorem checkActionTopology_controllerData (args : List String) : checkActionTopology args
    (controllerData serial alarm activity policy.virtualDrive policy.diskGroup) policy = .ok () := by
  rw [checkActionTopology, virtualDriveApproved_controllerData, diskGroupApproved_controllerData]
  simp

end Topology

theorem ensureCommandSucceeded_successPayload (data : Json) : ensureCommandSucceeded (successPayload data) = .ok () := by
  have word : Py.casefold (Py.strip "Success") = "success" := (PyText.casefold_ascii _ (by decide)).trans (by decide)
  change (if Py.casefold (Py.strip "Success") = "failure" then _ else
    if Py.casefold (Py.strip "Success") = "success" then _ else _) = _
  rw [word]
  rfl

section Foreign

variable [PyDigits] {parsers : PrewriteParsers}

omit [PyText] [PyDigits] in
theorem physicalInventory_controllerPayload (serial alarm activity : String) (virtualDrive diskGroup : ℕ) :
    physicalInventory (controllerPayload serial alarm activity virtualDrive diskGroup) = .ok [⟨0, 0, "Onln"⟩] := rfl

omit [PyText] in
theorem isDrivePath_first : isDrivePath "/c0/e252/s0" = true := by
  have sides : Py.splitChars '/' "/c0/e252/s0".toList = [[], ['c', '0'], ['e', '2', '5', '2'], ['s', '0']] := by decide
  have enclosure : Py.allDecimal ['2', '5', '2'] = true := allDecimal_of_isDigit (by decide) (by decide)
  have slot : Py.allDecimal ['0'] = true := allDecimal_of_isDigit (by decide) (by decide)
  rw [isDrivePath, sides]
  simp only [enclosure, slot]
  rfl

omit [PyText] in
theorem rebuildDriveId_idleRebuildRow : rebuildDriveId idleRebuildRow none = .ok (some "/c0/e252/s0") := by
  change (if isDrivePath "/c0/e252/s0" = false then _ else _) = _
  rw [isDrivePath_first]
  rfl

omit [PyDigits] in
theorem normalizeRebuildState_idle : normalizeRebuildState "Not in progress" none = "Not in progress" := by
  have word : Py.lower (Py.strip "Not in progress") = "not in progress" :=
    (PyText.lower_ascii _ (by decide)).trans (by decide)
  rw [normalizeRebuildState, word]
  rfl

omit [PyDigits] in
theorem singleControllerResponseData_idlePayload :
    (mapping idlePayload >>= singleControllerResponseData) = .ok (.arr [.obj idleRebuildRow]) := by
  have lowered : Py.lower "Success" = "success" := (PyText.lower_ascii _ (by decide)).trans (by decide)
  change (if (Py.lower "Success" == "failure") = true then _ else _) = _
  rw [lowered]
  rfl

theorem parseRebuildStatus_idlePayload (minutes : parsers.parseMinutes none = .ok none) :
    parseRebuildStatus parsers idlePayload (some "/c0/e252/s0") = .ok ⟨none, "Not in progress", none⟩ := by
  obtain ⟨fields, mapped, response⟩ := Except.bind_eq_ok singleControllerResponseData_idlePayload
  rw [parseRebuildStatus, mapped]
  change (singleControllerResponseData fields >>= fun _ => _) = _
  rw [response]
  change (ensureCommandSucceeded idlePayload >>= fun _ => _) = _
  rw [idlePayload, ensureCommandSucceeded_successPayload]
  change (rebuildDriveId idleRebuildRow none >>= fun _ => _) = _
  rw [rebuildDriveId_idleRebuildRow]
  change (parsers.parseMinutes none >>= fun _ => pure _) = _
  rw [minutes, normalizeRebuildState_idle]
  rfl

omit [PyDigits] in
theorem idleRebuildProof_idleRebuildRow : idleRebuildProof idleRebuildRow = .ok () := by
  have word : Py.casefold (Py.strip "Not in progress") = "not in progress" :=
    (PyText.casefold_ascii _ (by decide)).trans (by decide)
  change (if decide (Py.casefold (Py.strip "Not in progress") ∈ idleValues) = true then _ else _) = _
  rw [word]
  rfl

/-- The reads of the safety check: the foreign configuration, the controller and an idle drive. -/
def liveRead (identity foreign : Json) (args : List String) : Json :=
  if args = ["/c0/fall", "show", "all", "J"] then foreign
  else if args = ["/c0", "show", "all", "J"] then identity
  else idlePayload

omit [PyText] [PyDigits] in
theorem foreignEvidence_eq_ok {data : Json} {config : ForeignConfig}
    (parsed : parsers.parseForeignConfig (successPayload data) = .ok config) (present : config.present = true) :
    foreignEvidence parsers (successPayload data) config.digest = .ok () := by
  change (python (parsers.parseForeignConfig (successPayload data)) >>= fun _ => _) = _
  rw [parsed]
  change (if config.present = false ∨ config.digest ≠ config.digest then _ else _) = _
  rw [present]
  exact if_neg (by simp)

theorem checkForeignSafety_eq_ok (live : parsers.ReadsLive) {data : Json} {config : ForeignConfig}
    (parsed : parsers.parseForeignConfig (successPayload data) = .ok config) (present : config.present = true)
    (some_ : config.digest ≠ "") (serial alarm activity : String) (virtualDrive diskGroup : ℕ) :
    checkForeignSafety parsers (controllerPayload serial alarm activity virtualDrive diskGroup) ⟨serial⟩
      (fun _ args => .ok (liveRead (controllerPayload serial alarm activity virtualDrive diskGroup)
        (successPayload data) args)) (some config.digest) = .ok () := by
  obtain ⟨controller, controllerParsed, named, modelled, -⟩ :=
    live.controller serial alarm activity virtualDrive diskGroup
  have evidence := foreignEvidence_eq_ok parsed present
  rw [checkForeignSafety, if_neg some_]
  have passed : foreignSafetyBody parsers (controllerPayload serial alarm activity virtualDrive diskGroup) ⟨serial⟩
      (fun _ args => .ok (liveRead (controllerPayload serial alarm activity virtualDrive diskGroup)
        (successPayload data) args)) config.digest = .ok () := by
    rw [foreignSafetyBody, physicalInventory_controllerPayload]
    change (foreignEvidence parsers (successPayload data) config.digest >>= fun _ => _) = _
    rw [evidence]
    change ((python (parseRebuildStatus parsers idlePayload (some "/c0/e252/s0")) >>= fun _ => _) >>= fun _ => _) = _
    rw [parseRebuildStatus_idlePayload live.minutes]
    change ((python (idleRebuildProof idleRebuildRow) >>= fun _ => _) >>= fun _ => _) = _
    rw [idleRebuildProof_idleRebuildRow]
    change (python (parsers.parseControllerShowAll
      (controllerPayload serial alarm activity virtualDrive diskGroup)) >>= fun _ => _) = _
    rw [controllerParsed]
    change (if controller.serialNumber ≠ serial ∨ controller.modelName ≠ "LSI MegaRAID SAS 9270CV-8i" then _ else _) = _
    rw [if_neg (by simp [named, modelled])]
    change (python (physicalInventory (controllerPayload serial alarm activity virtualDrive diskGroup)) >>= fun _ => _) = _
    rw [physicalInventory_controllerPayload]
    change foreignEvidence parsers (successPayload data) config.digest = _
    exact evidence
  rw [passed]
  rfl

end Foreign

end Passing

section Dispatch

variable [PyText] [PyDigits] {parsers : PrewriteParsers}

/-- A call whose answers let everything through that the policy of the second load approves. -/
def liveCall (args : List String) (approved latest : Option CommandPolicy) (checked : CommandPolicy) (foreign : Json)
    (digest : String) : AuthorizedCall where
  args := args
  useSudo := false
  approved := approved
  checked := some checked
  latest := latest
  pinnedAtCheck := true
  pinnedAtDispatch := true
  identity := .exited 0 (.json (controllerPayload checked.controllerSerial (alarmBefore (withJsonFlag args))
    (activityBefore (withJsonFlag args)) checked.virtualDrive checked.diskGroup)) ""
  reads := fun _ read => .exited 0 (.json (liveRead (controllerPayload checked.controllerSerial
    (alarmBefore (withJsonFlag args)) (activityBefore (withJsonFlag args)) checked.virtualDrive checked.diskGroup)
    foreign read)) ""
  expectedForeignDigest := some digest
  beforeWrite := none
  process := .exited 0 (.json (successPayload (.obj []))) ""

omit [PyText] in
theorem Approves.write {args : List String} {policy : CommandPolicy} (approves : Approves args policy.toPolicyContent) :
    validateCommand (withJsonFlag args) = .ok () ∧ "show" ∉ withJsonFlag args := by
  obtain ⟨entry, member, tokens⟩ := approves.permits
  have item := policy.itemValid (List.mem_map_of_mem member)
  exact ⟨tokens ▸ item.accepted, tokens ▸ item.write⟩

/-- The preflight passes for every command that the checked policy approves. -/
theorem checkStorcliPrewrite_liveCall (live : parsers.ReadsLive) {args : List String} {approved latest : Option CommandPolicy}
    {checked : CommandPolicy} (approves : Approves args checked.toPolicyContent) {data : Json} {config : ForeignConfig}
    (parsed : parsers.parseForeignConfig (successPayload data) = .ok config) (present : config.present = true)
    (some_ : config.digest ≠ "") : (liveCall args approved latest checked (successPayload data)
      config.digest).checkStorcliPrewrite parsers = .ok () := by
  obtain ⟨valid, -⟩ := approves.write
  obtain ⟨permits, free⟩ := (approves_iff valid).mp approves
  obtain ⟨controller, controllerParsed, named, modelled, alarm⟩ := live.controller checked.controllerSerial
    (alarmBefore (withJsonFlag args)) (activityBefore (withJsonFlag args)) checked.virtualDrive checked.diskGroup
  have identity : (liveCall args approved latest checked (successPayload data) config.digest).checkIdentity parsers
      checked.toPolicyContent (controllerPayload checked.controllerSerial (alarmBefore (withJsonFlag args))
        (activityBefore (withJsonFlag args)) checked.virtualDrive checked.diskGroup) = .ok () := by
    rw [AuthorizedCall.checkIdentity, controllerParsed]
    change (if controller.serialNumber ≠ checked.controllerSerial ∨
      controller.modelName ≠ "LSI MegaRAID SAS 9270CV-8i" then _ else _) = _
    rw [if_neg (by simp [named, modelled])]
    change (if alarmAllows (withJsonFlag args) controller = false then _ else _) = _
    rw [alarmAllows_before alarm, if_neg (by decide), identityData_controllerPayload]
    change (if activityAllows (withJsonFlag args) _ = false then _ else _) = _
    rw [activityAllows_before, if_neg (by decide)]
    change (checkActionTopology _ _ _ >>= fun _ => _) = _
    rw [checkActionTopology_controllerData]
    change (if (withJsonFlag args).head? = some "/c0/fall" then checkForeignSafety _ _ _ _ _ else _) = _
    split
    · exact checkForeignSafety_eq_ok live parsed present some_ _ _ _ _ _
    · rfl
  rw [AuthorizedCall.checkStorcliPrewrite]
  change (validateCommand (withJsonFlag args) >>= fun _ => _) = _
  rw [valid]
  change (if checked.replacementCommandRefusal (withJsonFlag args) ≠ none then _ else
    if checked.permits (withJsonFlag args) = false then _ else _) = _
  rw [if_neg (not_not.mpr free), permits, if_neg (by decide)]
  exact identity

/-- The contract of a write for one sequence of contents, whatever the controller, the callback and the process do. -/
def ContentsAuthorized (parsers : PrewriteParsers) (args : List String) (approved checked latest : Option CommandPolicy) :
    Prop :=
  ∀ call : AuthorizedCall, call.args = args → call.approved = approved → call.checked = checked →
    call.latest = latest → DispatchAuthorized parsers call

/-- The runner keeps the contract of a write exactly when the policy does not change for the preflight and back. -/
theorem write_authorized_iff (live : parsers.ReadsLive) (args : List String)
    (approved checked latest : Option CommandPolicy) :
    ContentsAuthorized parsers args approved checked latest ↔ ¬ChangedBack args approved checked latest := by
  constructor
  · rintro contract ⟨first, between, last, rfl, rfl, rfl, back, approves, foreign⟩
    obtain ⟨data, config, parsed, present, some_⟩ := live.foreign
    let call := liveCall args (some first) (some last) between (successPayload data) config.digest
    have preflight : call.checkStorcliPrewrite parsers = .ok () :=
      checkStorcliPrewrite_liveCall live approves parsed present some_
    have passed : call.authorize parsers = .ok () :=
      authorize_eq_ok_iff.mpr ⟨first, last, rfl, preflight, rfl, back, rfl, fun _ given => nomatch given⟩
    obtain ⟨valid, write⟩ : validateCommand call.commandArgs = .ok () ∧ "show" ∉ call.commandArgs := approves.write
    have spawned := (run_spawned_iff write).mpr ⟨valid, passed, rfl⟩
    obtain ⟨⟨latest, loaded, authorises⟩, -⟩ := (contract call rfl rfl rfl rfl).dispatched write spawned
    obtain rfl := Option.some.inj loaded
    have own := (authorises_latest_iff rfl preflight).mp authorises
    rw [back] at own
    exact foreign own
  · rintro steady call rfl rfl rfl rfl
    exact dispatchAuthorized_of_not_changedBack steady

end Dispatch

section Example

/-- A policy for the first virtual drive and disk group. -/
def buzzerPolicy (commands : List ApprovedCommand) : PolicyContent where
  serviceUser := "megaraid"
  controllerSerial := "SV00000001"
  virtualDrive := 0
  diskGroup := 0
  replacements := []
  commands := commands

def silenceOnly : @CommandPolicy .ascii :=
  let _ := PyDigits.ascii
  ⟨buzzerPolicy [⟨"/c0 set alarm=silence J", "reviewed help"⟩], by decide +kernel, by decide +kernel⟩

def silenceAndOff : @CommandPolicy .ascii :=
  let _ := PyDigits.ascii
  ⟨buzzerPolicy [⟨"/c0 set alarm=silence J", "reviewed help"⟩, ⟨"/c0 set alarm=off J", "reviewed help"⟩],
    by decide +kernel, by decide +kernel⟩

/-- A text of a mapping, as a parser of the controller reads it. -/
def textField (fields : List (String × Json)) (group name : String) : Except PyError String := do
  let inner ← (item fields group).bind mapping
  match ← item inner name with
  | .str text => .ok text
  | _ => raise .parseError

/-- Two counts and nothing else. -/
def foreignCounts : Json := .obj [("Total Foreign DG Count", .int 1), ("Total Foreign Drive Count", .int 1)]

/-- Parsers that read the fields of a plain controller and the foreign configuration of `foreignCounts`. -/
def liveParsers : PrewriteParsers where
  parseForeignConfig := fun _ => .ok ⟨true, 1, 1, none, [],
    "FC-DG1-PD1-UNKNOWN-9788dc263a1206b49df96a9dc8d2414d7b3f37c7be6a7545af88657c305c8361"⟩
  parseControllerShowAll := fun payload => do
    let data ← identityData payload
    return {
      modelName := ← textField data "Basics" "Model"
      serialNumber := ← textField data "Basics" "Serial Number"
      firmwareVersion := ← textField data "Version" "Firmware Version"
      biosVersion := ← textField data "Version" "Bios Version"
      driverName := ← textField data "Version" "Driver Name"
      driverVersion := ← textField data "Version" "Driver Version"
      pciAddress := ← textField data "Basics" "PCI Address"
      systemTime := 0
      alarmState := ← textField data "HwCfg" "Alarm"
      cvPresent := false
      bbuPresent := false
      rocTemperatureCelsius := none }
  parseMinutes := fun _ => .ok none

theorem readsLive_liveParsers : liveParsers.ReadsLive where
  controller _ _ _ _ _ := ⟨_, rfl, rfl, rfl, rfl⟩
  foreign := ⟨foreignCounts, _, rfl, rfl, by decide⟩
  minutes := rfl

/-- The preflight reads a policy that permits disabling the buzzer; before and after it the file permits no more than
silencing. -/
def buzzerCall : @AuthorizedCall .ascii :=
  let _ := PyDigits.ascii
  { args := ["/c0", "set", "alarm=off"]
    useSudo := true
    approved := some silenceOnly
    checked := some silenceAndOff
    latest := some silenceOnly
    pinnedAtCheck := true
    pinnedAtDispatch := true
    identity := .exited 0 (.json (controllerPayload "SV00000001" "On" "on" 0 0)) ""
    reads := fun _ _ => .timedOut false
    expectedForeignDigest := none
    beforeWrite := none
    process := .exited 0 (.json (successPayload (.obj []))) "" }

/-- The buzzer is disabled although the policy of the last load does not permit it. -/
theorem not_write_authorized : ¬@DispatchAuthorized .ascii .ascii liveParsers buzzerCall := by
  let _ := PyText.ascii
  let _ := PyDigits.ascii
  intro contract
  have spawned : (@AuthorizedCall.run .ascii .ascii liveParsers buzzerCall).2 = true := by decide +kernel
  obtain ⟨⟨latest, loaded, authorises⟩, -⟩ := contract.dispatched (by decide) spawned
  obtain rfl := Option.some.inj loaded
  obtain ⟨entry, member, tokens⟩ := authorises.approves.permits
  obtain rfl := List.mem_singleton.mp member
  exact absurd tokens (by decide)

/-- The content in between lists the command, the first one does not. -/
theorem changedBack_silenceOnly : @ChangedBack .ascii ["/c0", "set", "alarm=off"] (some silenceOnly) (some silenceAndOff)
    (some silenceOnly) := by
  let _ := PyDigits.ascii
  refine ⟨_, _, _, rfl, rfl, rfl, rfl, ⟨⟨_, List.mem_cons_of_mem _ List.mem_cons_self, by decide⟩, ?_⟩, ?_⟩
  · rintro (set_ | inserts)
    · exact absurd set_ (by decide)
    · exact absurd inserts (by decide)
  · rintro ⟨⟨⟨entry, member, tokens⟩, -⟩, -⟩
    obtain rfl := List.mem_singleton.mp member
    exact absurd tokens (by decide)

theorem write_authorized_silenceOnly : ¬@ContentsAuthorized .ascii .ascii liveParsers ["/c0", "set", "alarm=off"]
    (some silenceOnly) (some silenceAndOff) (some silenceOnly) := by
  let _ := PyText.ascii
  let _ := PyDigits.ascii
  intro contract
  exact (write_authorized_iff readsLive_liveParsers ["/c0", "set", "alarm=off"] (some silenceOnly) (some silenceAndOff)
    (some silenceOnly)).mp contract changedBack_silenceOnly

end Example

end MegaraidDashboard.Storcli
