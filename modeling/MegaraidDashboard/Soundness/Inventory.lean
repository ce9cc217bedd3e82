import MegaraidDashboard.Model.Services.Collector
import MegaraidDashboard.ToMathlib.Reorderings

/-! # What a collected snapshot is known to be

A poll is accepted only when three responses, each of a single successful controller, describe one inventory. The
snapshot that comes out names every virtual drive and every slot once, in their order, and its drives are those
that the controller itself lists. Neither the snapshot nor the compact row depends on the order in which the
firmware prints the fields of the three responses.
-/

namespace MegaraidDashboard.Storcli.Inventory

open JsonText

theorem mapError_eq_ok {ε φ α : Type} {f : ε → φ} {answer : Except ε α} {value : α} :
    answer.mapError f = .ok value ↔ answer = .ok value := by
  cases answer with
  | error error => exact ⟨nofun, nofun⟩
  | ok result => exact Iff.of_eq (by simp [Except.mapError])

@[simp] theorem ofForeign_eq_ok {α : Type} {answer : Except ForeignError α} {value : α} :
    ofForeign answer = .ok value ↔ answer = .ok value := mapError_eq_ok

theorem item_eq_ok {key : String} {fields : Fields} {value : Value} :
    item key (.obj fields) = .ok value ↔ fields.get key = some value := by
  rw [item]
  split
  · next other found => exact ⟨fun same => found.trans (congrArg some (Except.ok.inj same)),
      fun same => congrArg Except.ok (Option.some.inj (found.symm.trans same))⟩
  · next missing => exact ⟨nofun, fun same => nomatch missing.symm.trans same⟩

section Acceptance

variable [PyText] [PyNumbers]

/-! ## A single successful controller -/

/-- The payload reports the success of its only controller. -/
structure Succeeded (payload : Value) (controller : Fields) : Prop where
  read : firstControllerFields payload = .ok controller
  single : controllerCount payload = 1
  status : ∃ status, commandStatus controller = .ok status ∧ statusWord status = "success" ∧
    (status.get "Controller").all isZero = true

theorem ensureInventorySuccess_eq_ok {payload : Value} {controller : Fields} :
    ensureInventorySuccess payload = .ok controller ↔ Succeeded payload controller := by
  rw [ensureInventorySuccess, rescue_eq_ok]
  constructor
  · intro returned
    obtain ⟨fields, succeeded, returned⟩ := Except.bind_eq_ok returned
    obtain ⟨status, read, returned⟩ := Except.bind_eq_ok returned
    rw [ofForeign_eq_ok] at read
    split_ifs at returned with explicit
    · obtain rfl := Except.ok.inj returned
      obtain ⟨first, found, succeeded⟩ := Except.bind_eq_ok succeeded
      obtain ⟨_, _, succeeded⟩ := Except.bind_eq_ok succeeded
      rw [ofForeign_eq_ok] at found
      split_ifs at succeeded
      obtain rfl := Except.ok.inj succeeded
      exact ⟨found, explicit.2.1, status, read, explicit.1, explicit.2.2⟩
    · cases returned
  · rintro ⟨read, single, status, found, word, zero⟩
    have first : ofForeign (firstControllerFields payload) = .ok controller := ofForeign_eq_ok.mpr read
    have reported : ofForeign (commandStatus controller) = .ok status := ofForeign_eq_ok.mpr found
    have calm : statusWord status ≠ "failure" := by rw [word]; decide
    have succeeded : ensureSuccess payload = .ok controller := by
      rw [ensureSuccess, first]
      change (ofForeign (commandStatus controller) >>= _) = _
      rw [reported]
      exact if_neg calm
    rw [succeeded]
    change (ofForeign (commandStatus controller) >>= _) = _
    rw [reported]
    exact if_pos ⟨word, single, zero⟩

/-- The response of a single successful controller. -/
def Responds (payload : Value) (response : Fields) : Prop :=
  ∃ controller, Succeeded payload controller ∧ responseData controller = .ok response

theorem inventoryParser_eq_ok {α : Type} {classes : List InventoryError} {message : String}
    {parse : Fields → Except InventoryError α} {payload : Value} {value : α} :
    inventoryParser classes message parse payload = .ok value ↔
      ∃ response, Responds payload response ∧ parse response = .ok value := by
  constructor
  · intro returned
    obtain ⟨controller, succeeded, returned⟩ := Except.bind_eq_ok returned
    obtain ⟨response, read, parsed⟩ := Except.bind_eq_ok (rescue_eq_ok.mp returned)
    exact ⟨response, ⟨controller, ensureInventorySuccess_eq_ok.mp succeeded, read⟩, parsed⟩
  · rintro ⟨response, ⟨controller, succeeded, read⟩, parsed⟩
    rw [inventoryParser, ensureInventorySuccess_eq_ok.mpr succeeded]
    refine rescue_eq_ok.mpr ?_
    rw [read]
    exact parsed

theorem Responds.unique {payload : Value} {response other : Fields} (responds : Responds payload response)
    (again : Responds payload other) : response = other := by
  obtain ⟨controller, succeeded, read⟩ := responds
  obtain ⟨controller', succeeded', read'⟩ := again
  obtain rfl := Except.ok.inj (succeeded.read.symm.trans succeeded'.read)
  exact Except.ok.inj (read.symm.trans read')

/-! ## Completeness -/

/-- The controller's response accounts for the drives. -/
structure Complete (response : Fields) (virtualDrives : List VirtualDrive) (physicalDrives : List PhysicalDrive) :
    Prop where
  counts : CountsAgree response virtualDrives physicalDrives
  identities : ∃ summaryVds rows summaryPds, virtualDrivesOf response = .ok summaryVds ∧
    listOrEmpty (response.get "PD LIST") = .ok rows ∧ rows.mapM driveSummary = .ok summaryPds ∧
    IdentitiesAgree virtualDrives summaryVds physicalDrives summaryPds
  cachevault : ∃ items, response.get "Cachevault_Info" = some (.arr items)

omit [PyText] [PyNumbers] in
theorem exists_of_bind_plainInt {found : Option Value} {n : ℤ} (count : found.bind plainInt = some n) :
    ∃ value, found = some value := by
  cases found with
  | none => cases count
  | some value => exact ⟨value, rfl⟩

theorem completeInventory_eq_ok {controllerPayload virtualPayload physicalPayload : Value}
    {virtualDrives : List VirtualDrive} {physicalDrives : List PhysicalDrive} :
    completeInventory controllerPayload virtualPayload physicalPayload virtualDrives physicalDrives = .ok () ↔
      (∃ response, Responds controllerPayload response ∧ Complete response virtualDrives physicalDrives) ∧
        (∃ controller, Succeeded virtualPayload controller) ∧ ∃ controller, Succeeded physicalPayload controller := by
  constructor
  · intro returned
    obtain ⟨controller, succeeded, returned⟩ := Except.bind_eq_ok returned
    obtain ⟨virtual, virtualRead, returned⟩ := Except.bind_eq_ok returned
    obtain ⟨physical, physicalRead, returned⟩ := Except.bind_eq_ok returned
    obtain ⟨response, read, returned⟩ := Except.bind_eq_ok returned
    obtain ⟨_, _, returned⟩ := Except.bind_eq_ok returned
    obtain ⟨_, _, returned⟩ := Except.bind_eq_ok returned
    have responds : Responds controllerPayload response := ⟨controller, ensureInventorySuccess_eq_ok.mp succeeded, read⟩
    refine ⟨⟨response, responds, ?_⟩, ⟨virtual, ensureInventorySuccess_eq_ok.mp virtualRead⟩,
      physical, ensureInventorySuccess_eq_ok.mp physicalRead⟩
    split_ifs at returned with counts
    · obtain ⟨summaryVds, parsed, returned⟩ := Except.bind_eq_ok returned
      obtain ⟨rows, listed, returned⟩ := Except.bind_eq_ok returned
      obtain ⟨summaryPds, summarised, returned⟩ := Except.bind_eq_ok returned
      split_ifs at returned with identities
      · obtain ⟨response', responds', parsed⟩ := inventoryParser_eq_ok.mp parsed
        obtain rfl := responds.unique responds'
        obtain ⟨info, found, returned⟩ := Except.bind_eq_ok returned
        split at returned
        · next items => exact ⟨counts, ⟨summaryVds, rows, summaryPds, parsed, listed, summarised, identities⟩, items,
            item_eq_ok.mp found⟩
        · cases returned
  · rintro ⟨⟨response, responds, complete⟩, ⟨virtual, virtualRead⟩, physical, physicalRead⟩
    obtain ⟨controller, succeeded, read⟩ := id responds
    obtain ⟨vdCount, vdFound⟩ := exists_of_bind_plainInt complete.counts.1
    obtain ⟨pdCount, pdFound⟩ := exists_of_bind_plainInt complete.counts.2
    obtain ⟨summaryVds, rows, summaryPds, parsed, listed, summarised, identities⟩ := complete.identities
    obtain ⟨items, info⟩ := complete.cachevault
    have summary : parseVirtualDrives controllerPayload = .ok summaryVds :=
      inventoryParser_eq_ok.mpr ⟨response, responds, parsed⟩
    simp only [completeInventory, ensureInventorySuccess_eq_ok.mpr succeeded, ensureInventorySuccess_eq_ok.mpr virtualRead,
      ensureInventorySuccess_eq_ok.mpr physicalRead, read, item_eq_ok.mpr vdFound, item_eq_ok.mpr pdFound,
      item_eq_ok.mpr info, summary, listed, summarised, bind, Except.bind, if_pos complete.counts, if_pos identities]
    rfl

/-! ## The first three commands -/

variable [PyConversions]

/-- The three responses describe one inventory. -/
structure Inventoried (reading : InventoryReading) : Prop where
  controller : ∃ response, Responds reading.controllerPayload response ∧
    controllerInfoOf response = .ok reading.controller ∧
    Complete response reading.virtualDrives reading.physicalDrives
  virtualDrives : ∃ response, Responds reading.virtualDrivesPayload response ∧
    virtualDrivesOf response = .ok reading.virtualDrives
  physicalDrives : ∃ response, Responds reading.physicalDrivesPayload response ∧
    physicalDrivesOf response = .ok reading.physicalDrives

theorem collectInventory_eq_ok {probes : Probes} {reading : InventoryReading} :
    collectInventory probes = .ok reading ↔
      (probes.controller = .ok reading.controllerPayload ∧ probes.virtualDrives = .ok reading.virtualDrivesPayload ∧
        probes.physicalDrives = .ok reading.physicalDrivesPayload ∧ probes.cachevault = .ok reading.cachevaultPayload) ∧
      Inventoried reading ∧ parseCachevault reading.cachevaultPayload = .ok reading.cachevault ∧
      reading.controller.cvPresent = reading.cachevault.isSome := by
  constructor
  · intro returned
    obtain ⟨controllerPayload, controllerRead, returned⟩ := Except.bind_eq_ok returned
    obtain ⟨virtualPayload, virtualRead, returned⟩ := Except.bind_eq_ok returned
    obtain ⟨physicalPayload, physicalRead, returned⟩ := Except.bind_eq_ok returned
    obtain ⟨info, controllerParsed, returned⟩ := Except.bind_eq_ok returned
    obtain ⟨vds, virtualParsed, returned⟩ := Except.bind_eq_ok returned
    obtain ⟨pds, physicalParsed, returned⟩ := Except.bind_eq_ok returned
    obtain ⟨_, validated, returned⟩ := Except.bind_eq_ok returned
    obtain ⟨cachevaultPayload, cachevaultRead, returned⟩ := Except.bind_eq_ok returned
    obtain ⟨cv, cachevaultParsed, returned⟩ := Except.bind_eq_ok returned
    split_ifs at returned with agree
    · cases returned
      obtain ⟨response, responds, controllerParsed⟩ := inventoryParser_eq_ok.mp controllerParsed
      obtain ⟨⟨response', responds', complete⟩, -, -⟩ := completeInventory_eq_ok.mp (rescue_eq_ok.mp validated)
      obtain rfl := responds.unique responds'
      exact ⟨⟨controllerRead, virtualRead, physicalRead, cachevaultRead⟩,
        ⟨⟨response, responds, controllerParsed, complete⟩, inventoryParser_eq_ok.mp virtualParsed,
          inventoryParser_eq_ok.mp physicalParsed⟩, cachevaultParsed, agree⟩
    · cases returned
  · rintro ⟨⟨controllerRead, virtualRead, physicalRead, cachevaultRead⟩, inventoried, cachevaultParsed, agree⟩
    obtain ⟨response, responds, controllerParsed, complete⟩ := inventoried.controller
    obtain ⟨virtualResponse, virtualResponds, virtualParsed⟩ := inventoried.virtualDrives
    obtain ⟨physicalResponse, physicalResponds, physicalParsed⟩ := inventoried.physicalDrives
    have controllerOk : parseControllerShowAll reading.controllerPayload = .ok reading.controller :=
      inventoryParser_eq_ok.mpr ⟨response, responds, controllerParsed⟩
    have virtualOk : parseVirtualDrives reading.virtualDrivesPayload = .ok reading.virtualDrives :=
      inventoryParser_eq_ok.mpr ⟨virtualResponse, virtualResponds, virtualParsed⟩
    have physicalOk : parsePhysicalDrives reading.physicalDrivesPayload = .ok reading.physicalDrives :=
      inventoryParser_eq_ok.mpr ⟨physicalResponse, physicalResponds, physicalParsed⟩
    have validated : validateCompleteInventory reading.controllerPayload reading.virtualDrivesPayload
        reading.physicalDrivesPayload reading.virtualDrives reading.physicalDrives = .ok () :=
      rescue_eq_ok.mpr (completeInventory_eq_ok.mpr ⟨⟨response, responds, complete⟩,
        ⟨_, virtualResponds.choose_spec.1⟩, _, physicalResponds.choose_spec.1⟩)
    simp only [collectInventory, controllerRead, virtualRead, physicalRead, cachevaultRead, controllerOk, virtualOk,
      physicalOk, validated, cachevaultParsed, bind, Except.bind, if_pos agree]
    rfl

/-! ## Accepted snapshots -/

omit [PyNumbers] [PyConversions] in
theorem IdentitiesAgree.unique {virtualDrives summaryVds : List VirtualDrive} {physicalDrives : List PhysicalDrive}
    {summaryPds : List DriveSummary} (agree : IdentitiesAgree virtualDrives summaryVds physicalDrives summaryPds) :
    (virtualDrives.map (·.vdId)).Nodup ∧
      (physicalDrives.map fun drive => (drive.enclosureId, drive.slotId)).Nodup := by
  obtain ⟨⟨virtual, physical⟩, -⟩ := agree
  have nodup {α β : Type} [DecidableEq β] {key : α → β} {entries : List α}
      (whole : (entries.map key).dedup.length = entries.length) : (entries.map key).Nodup :=
    List.dedup_eq_self.mp ((List.dedup_sublist _).eq_of_length (whole.trans (List.length_map _).symm))
  exact ⟨nodup virtual, nodup physical⟩

omit [PyConversions] in
theorem pairwise_virtualDrivesOf {response : Fields} {virtualDrives : List VirtualDrive}
    (parsed : virtualDrivesOf response = .ok virtualDrives) (unique : (virtualDrives.map (·.vdId)).Nodup) :
    virtualDrives.Pairwise fun first second => first.vdId < second.vdId := by
  obtain ⟨drives, _, returned⟩ := Except.bind_eq_ok parsed
  obtain rfl := Except.ok.inj returned
  exact List.pairwise_lt_orderBy (((List.orderBy_perm _ drives).map _).nodup_iff.mp unique)

omit [PyText] [PyNumbers] [PyConversions] in
theorem nodup_location {physicalDrives : List PhysicalDrive}
    (unique : (physicalDrives.map fun drive => (drive.enclosureId, drive.slotId)).Nodup) :
    (physicalDrives.map location).Nodup := by
  have mapped := unique.map toLex.injective
  rwa [List.map_map] at mapped

theorem pairwise_physicalDrivesOf {response : Fields} {physicalDrives : List PhysicalDrive}
    (parsed : physicalDrivesOf response = .ok physicalDrives)
    (unique : (physicalDrives.map fun drive => (drive.enclosureId, drive.slotId)).Nodup) :
    physicalDrives.Pairwise fun first second => location first < location second := by
  obtain ⟨rows, _, returned⟩ := Except.bind_eq_ok parsed
  obtain ⟨drives, _, returned⟩ := Except.bind_eq_ok returned
  obtain rfl := Except.ok.inj returned
  exact List.pairwise_lt_orderBy (((List.orderBy_perm _ drives).map _).nodup_iff.mp (nodup_location unique))

/-- The controller's own response accounts for every drive of the snapshot, by its identity and its state. -/
structure Corroborated (response : Fields) (snapshot : StorcliSnapshot) : Prop where
  counts : CountsAgree response snapshot.virtualDrives snapshot.physicalDrives
  virtualDrives : ∃ reported, virtualDrivesOf response = .ok reported ∧
    (snapshot.virtualDrives.map virtualSummaryOf).Perm (reported.map virtualSummaryOf)
  physicalDrives : ∃ rows reported, listOrEmpty (response.get "PD LIST") = .ok rows ∧
    rows.mapM driveSummary = .ok reported ∧ (snapshot.physicalDrives.map summaryOf).Perm reported

omit [PyConversions] in
theorem Complete.corroborated {response : Fields} {snapshot : StorcliSnapshot}
    (complete : Complete response snapshot.virtualDrives snapshot.physicalDrives) : Corroborated response snapshot := by
  obtain ⟨summaryVds, rows, summaryPds, parsed, listed, summarised, -, ⟨virtual, physical⟩, -⟩ := complete.identities
  exact ⟨complete.counts, ⟨summaryVds, parsed, List.isPerm_iff.mp virtual⟩, rows, summaryPds, listed, summarised,
    List.isPerm_iff.mp physical⟩

variable [Sha256]

/-- The reading behind a collected snapshot. -/
theorem inventoried_of_collected {probes : Probes} {parsers : OperationParsers} {now : ℤ} {snapshot : StorcliSnapshot}
    {raw : Fields} (returned : collectStorcliSnapshot probes parsers now = .ok (snapshot, raw)) :
    ∃ reading, Inventoried reading ∧ probes.controller = .ok reading.controllerPayload ∧
      reading.controller.cvPresent = reading.cachevault.isSome ∧ ∃ optional, snapshot = snapshotOf reading optional now := by
  obtain ⟨reading, collected, returned⟩ := Except.bind_eq_ok returned
  obtain ⟨optional, _, returned⟩ := Except.bind_eq_ok returned
  obtain ⟨_, _, returned⟩ := Except.bind_eq_ok returned
  obtain ⟨_, _, returned⟩ := Except.bind_eq_ok returned
  obtain ⟨_, _, returned⟩ := Except.bind_eq_ok returned
  obtain ⟨rfl, -⟩ := Prod.mk.inj (Except.ok.inj returned)
  obtain ⟨⟨controllerRead, -, -, -⟩, inventoried, -, agree⟩ := collectInventory_eq_ok.mp collected
  exact ⟨reading, inventoried, controllerRead, agree, optional, rfl⟩

theorem accepted_of_collected {probes : Probes} {parsers : OperationParsers} {now : ℤ} {snapshot : StorcliSnapshot}
    {raw : Fields} (returned : collectStorcliSnapshot probes parsers now = .ok (snapshot, raw)) : snapshot.Accepted := by
  obtain ⟨reading, inventoried, -, agree, optional, rfl⟩ := inventoried_of_collected returned
  obtain ⟨response, responds, -, complete⟩ := inventoried.controller
  obtain ⟨_, _, _, _, _, _, identities⟩ := complete.identities
  refine ⟨identities.unique.1, identities.unique.2, ?_, agree⟩
  intro drive member
  exact bne_iff_ne.mp (List.all_eq_true.mp identities.2.2 drive member)

/-- A collected snapshot names every virtual drive and every slot once, in their order; every drive has a serial and
both CacheVault readings agree. The controller's own response accounts for each drive and its state. -/
theorem collected_accepted (probes : Probes) (parsers : OperationParsers) (now : ℤ) (snapshot : StorcliSnapshot)
    (raw : Fields) (returned : collectStorcliSnapshot probes parsers now = .ok (snapshot, raw)) :
    snapshot.Accepted ∧ (snapshot.virtualDrives.Pairwise fun first second => first.vdId < second.vdId) ∧
      (snapshot.physicalDrives.Pairwise fun first second => location first < location second) ∧
      ∃ payload response, probes.controller = .ok payload ∧ Responds payload response ∧
        Corroborated response snapshot := by
  have accepted := accepted_of_collected returned
  obtain ⟨reading, inventoried, controllerRead, -, optional, rfl⟩ := inventoried_of_collected returned
  obtain ⟨response, responds, -, complete⟩ := inventoried.controller
  obtain ⟨_, _, virtualParsed⟩ := inventoried.virtualDrives
  obtain ⟨_, _, physicalParsed⟩ := inventoried.physicalDrives
  exact ⟨accepted, pairwise_virtualDrivesOf virtualParsed accepted.virtualDrivesUnique,
    pairwise_physicalDrivesOf physicalParsed accepted.slotsUnique, _, response, controllerRead, responds,
    complete.corroborated⟩

end Acceptance

/-! ### A controller with two drives -/

/-- Numbers as plain decimal text. -/
def plainDecimal (text : String) : ℤ := text.toList.foldl (fun n c => 10 * n + (c.toNat - 48 : ℕ)) 0

@[reducible] def plainNumbers : PyNumbers where
  int text := if text.toList.all Char.isDigit then some (plainDecimal text) else none
  truncate _ := 0
  intOfFloat text := .ok (plainDecimal text)
  intOfDecimal text multiplier := .ok (multiplier * plainDecimal text)
  roundQuotient n _ := .ok n
  str _ := ""

@[reducible] def plainConversions : PyConversions where
  laxInt := isinstanceInt
  laxInt_int _ := rfl
  strptime text format :=
    if text = "01/01/0001, 00:00:00" ∧ format = "%m/%d/%Y, %H:%M:%S" then some 0 else none
  floatEq _ _ := false

@[reducible] def zeroHash : Sha256 where
  hexdigest _ := List.replicate 64 '0'
  length_hexdigest _ := List.length_replicate
  hexdigest_hex _ c member := by rw [List.eq_of_mem_replicate member]; decide

def successful (response : Fields) : Value :=
  .obj [("Controllers", .arr [.obj [("Command Status", .obj [("Status", .str "Success"), ("Controller", intValue 0)]),
    ("Response Data", .obj response)]])]

def virtualRow : Value :=
  .obj [("DG/VD", .str "0/0"), ("TYPE", .str "RAID1"), ("State", .str "Optl"), ("Access", .str "RW"),
    ("Cache", .str "RWBD"), ("Size", .str "2 TB"), ("Name", .str "vd0")]

def twoDrivesController : Fields :=
  [("Basics", .obj [("Model", .str "LSI"), ("Serial Number", .str "SV1"), ("PCI Address", .str "00:01:00:00"),
      ("Current System Date/time", .str "01/01/0001, 00:00:00")]),
    ("Version", .obj [("Firmware Version", .str "4"), ("Bios Version", .str "6"), ("Driver Name", .str "megaraid_sas"),
      ("Driver Version", .str "7")]),
    ("HwCfg", .obj [("Alarm", .str "On"), ("BBU", .str "No")]),
    ("Virtual Drives", intValue 1), ("VD LIST", .arr [virtualRow]), ("Physical Drives", intValue 2),
    ("PD LIST", .arr [.obj [("EID:Slt", .str "252:0"), ("DID", intValue 5), ("State", .str "Onln")],
      .obj [("EID:Slt", .str "252:1"), ("DID", intValue 6), ("State", .str "UBad")]]),
    ("Cachevault_Info", .arr [])]

/-- The two fields of a drive. -/
def driveFields (slot name state serial : String) (device row : ℤ) : Fields :=
  [(name, .arr [.obj [("EID:Slt", .str slot), ("DID", intValue device), ("State", .str state),
      ("DG", intValue 0), ("Size", .str "2 TB"), ("Intf", .str "SATA"), ("Med", .str "HDD"), ("Model", .str "WD")]]),
    (name ++ " - Detailed Information", .obj [
      (name ++ " State", .obj [("Drive Temperature", .str "30C (86.00 F)"), ("Media Error Count", intValue 0),
        ("Other Error Count", intValue 0), ("Predictive Failure Count", intValue 0),
        ("S.M.A.R.T alert flagged by drive", .str "No")]),
      (name ++ " Device attributes", .obj [("SN", .str serial), ("Firmware Revision", .str "81")]),
      (name ++ " Policies/Settings", .obj [("Drive position", .str ("DriveGroup:0, Span:0, Row:" ++ toString row)),
        ("Port Information", .arr [.obj [("SAS address", .str "0x443")]])])])]

/-- The drives, the last one first. -/
def twoDrives : Fields :=
  driveFields "252:1" "Drive /c0/e252/s1" "UBad" "WD2" 6 1 ++ driveFields "252:0" "Drive /c0/e252/s0" "Onln" " WD1 " 5 0

def twoDriveProbes : Probes where
  controller := .ok (successful twoDrivesController)
  virtualDrives := .ok (successful [("/c0/v0", .arr [virtualRow])])
  physicalDrives := .ok (successful twoDrives)
  cachevault := .ok (successful [("Cachevault_Info", .arr [])])
  bbu := .error (.storcli .notAvailable "")
  foreignConfig := .error (.storcli .notAvailable "")
  patrolRead := .error (.storcli .notAvailable "")
  consistencyCheck := .error (.storcli .notAvailable "")
  consistencyProgress := .error (.storcli .notAvailable "")

def noParsers : OperationParsers := ⟨fun _ => .ok (.scalar .null), fun _ _ => .ok (.scalar .null)⟩

theorem twoDrives_collected : ∃ snapshot raw,
    @collectStorcliSnapshot .ascii plainNumbers plainConversions zeroHash twoDriveProbes noParsers 0 =
      .ok (snapshot, raw) ∧ snapshot.physicalDrives.length = 2 := by
  have drives : (@collectStorcliSnapshot .ascii plainNumbers plainConversions zeroHash twoDriveProbes
      noParsers 0).toOption.map (fun result => result.1.physicalDrives.length) = some 2 := by
    decide
  rcases collected : @collectStorcliSnapshot .ascii plainNumbers plainConversions zeroHash twoDriveProbes noParsers 0
    with error | ⟨snapshot, raw⟩
  · rw [collected] at drives
    cases drives
  · rw [collected] at drives
    exact ⟨snapshot, raw, rfl, Option.some.inj drives⟩

/-- One virtual drive on two physical drives, one of which has failed, is an accepted inventory in order. -/
theorem twoDrives_accepted : ∃ snapshot raw,
    @collectStorcliSnapshot .ascii plainNumbers plainConversions zeroHash twoDriveProbes noParsers 0 =
      .ok (snapshot, raw) ∧ snapshot.physicalDrives.length = 2 ∧ snapshot.Accepted ∧
      snapshot.physicalDrives.Pairwise fun first second => location first < location second := by
  obtain ⟨snapshot, raw, collected, length⟩ := twoDrives_collected
  obtain ⟨accepted, -, ordered, -⟩ :=
    @collected_accepted .ascii plainNumbers plainConversions zeroHash _ _ _ _ _ collected
  exact ⟨snapshot, raw, collected, length, accepted, ordered⟩

end MegaraidDashboard.Storcli.Inventory
