import Mathlib.Data.List.Dedup
import MegaraidDashboard.Model.Storcli.Prewrite
import MegaraidDashboard.ToMathlib.Raises

/-! # What the foreign safety check proves

A check that returns has seen a complete inventory twice, the expected digest twice and an idle field in the row
of every drive. The idle field is the first of the two that the row has; neither the other field nor the progress
has to agree with it.
-/

namespace MegaraidDashboard.Storcli

section Evidence

variable [PyText] [PyDigits]

/-- The row reports a progress strictly between the start and the end. -/
def UnderWay (row : List (String × Json)) : Prop :=
  ∃ percent, rebuildPercent (getField row "Progress%") = .ok (some percent) ∧ 0 < percent ∧ percent < 100

/-- The row has the field, and its value is no idle value. -/
def NotIdle (row : List (String × Json)) (field : String) : Prop :=
  ∃ value, getField row field = some value ∧ isIdleValue value = false

/-- Evidence of an active rebuild. -/
def RebuildEvidence (row : List (String × Json)) : Prop := UnderWay row ∨ NotIdle row "Status" ∨ NotIdle row "State"

/-- The first of its two fields is idle, and the row contradicts it: by its progress, or by a State behind a Status. -/
def Contradictory (row : List (String × Json)) : Prop :=
  idleRebuildProof row = .ok () ∧ (UnderWay row ∨ (getField row "Status").isSome = true ∧ NotIdle row "State")

/-- Behind an idle first field, evidence is contradiction. -/
theorem evidence_iff_contradictory {row : List (String × Json)} (idle : idleRebuildProof row = .ok ()) :
    RebuildEvidence row ↔ Contradictory row := by
  rw [Contradictory, and_iff_right idle, RebuildEvidence]
  simp only [idleRebuildProof, explicitState] at idle
  cases status : getField row "Status" with
  | some value =>
    rw [status, Option.some_or] at idle
    have calm : isIdleValue value = true := by
      by_contra active
      rw [Bool.not_eq_true] at active
      simp only [active, Bool.false_eq_true, ↓reduceIte] at idle
      cases idle
    constructor
    · rintro (moving | ⟨other, found, active⟩ | state)
      · exact .inl moving
      · rw [status] at found
        obtain rfl := Option.some.inj found
        rw [calm] at active
        cases active
      · exact .inr ⟨rfl, state⟩
    · rintro (moving | ⟨-, state⟩)
      · exact .inl moving
      · exact .inr (.inr state)
  | none =>
    rw [status, Option.none_or] at idle
    constructor
    · rintro (moving | ⟨other, found, -⟩ | ⟨value, found, active⟩)
      · exact .inl moving
      · rw [status] at found
        cases found
      · rw [found] at idle
        simp only [active, Bool.false_eq_true, ↓reduceIte] at idle
        cases idle
    · rintro (moving | ⟨impossible, -⟩)
      · exact .inl moving
      · cases impossible

end Evidence

/-! ## What the parts of the check see -/

section Parts

/-- The payload holds a whole inventory without duplicates: these drives. -/
structure Inventory (payload : Json) (drives : List InventoryDrive) : Prop where
  complete : ∃ controller fields rows, readResponse payload = .ok controller ∧
    getField controller "Response Data" = some (.obj fields) ∧
    getField fields "Physical Drives" = some (.int drives.length) ∧ getField fields "PD LIST" = some (.arr rows) ∧
    inventoryDrives rows = .ok drives
  slots : (drives.map (·.slot)).Nodup
  devices : (drives.map (·.deviceId)).Nodup

theorem nodup_of_length_dedup {α : Type} [DecidableEq α] {entries : List α}
    (whole : entries.dedup.length = entries.length) : entries.Nodup :=
  List.dedup_eq_self.mp ((List.dedup_sublist entries).eq_of_length whole)

theorem inventory_of_physicalInventory {payload : Json} {drives : List InventoryDrive}
    (returned : physicalInventory payload = .ok drives) : Inventory payload drives := by
  rw [physicalInventory] at returned
  obtain ⟨controller, read, returned⟩ := Except.bind_eq_ok returned
  obtain ⟨data, found, returned⟩ := Except.bind_eq_ok returned
  have response : getField controller "Response Data" = some data := by
    rw [item] at found
    split at found
    · next value same =>
      rw [same]
      exact congrArg some (Except.ok.inj found)
    · cases found
  split at returned
  · next fields =>
    split at returned
    · next count rows counted listed =>
      obtain ⟨members, parsed, returned⟩ := Except.bind_eq_ok returned
      split_ifs at returned with empty wrong
      obtain rfl := Except.ok.inj returned
      push Not at wrong
      obtain ⟨length, slots, devices⟩ := wrong
      refine ⟨⟨controller, fields, rows, read, response, length ▸ counted, listed, parsed⟩, ?_, ?_⟩
      · exact nodup_of_length_dedup (slots.trans (List.length_map _).symm)
      · exact nodup_of_length_dedup (devices.trans (List.length_map _).symm)
    · cases returned
  · cases returned

theorem python_eq_ok_iff {α : Type} {answer : Except PyError α} {value : α} :
    python answer = .ok value ↔ answer = .ok value := by
  cases answer with
  | error error => exact iff_of_false nofun nofun
  | ok result => exact ⟨fun same => congrArg Except.ok (Except.ok.inj same), fun same => congrArg Except.ok (Except.ok.inj same)⟩

/-- The payload of a foreign configuration with the expected digest. -/
def HasDigest (parsers : PrewriteParsers) (payload : Json) (digest : String) : Prop :=
  ∃ config, parsers.parseForeignConfig payload = .ok config ∧ config.present = true ∧ config.digest = digest

theorem foreignEvidence_eq_ok_iff {parsers : PrewriteParsers} {payload : Json} {digest : String} :
    foreignEvidence parsers payload digest = .ok () ↔
      (∃ controller, readResponse payload = .ok controller) ∧ HasDigest parsers payload digest := by
  simp only [foreignEvidence, Except.bind_eq_ok_iff, python_eq_ok_iff]
  constructor
  · rintro ⟨controller, accepted, config, parsed, unchanged⟩
    split_ifs at unchanged with changed
    push Not at changed
    exact ⟨⟨controller, accepted⟩, config, parsed, by simpa using changed.1, changed.2⟩
  · rintro ⟨⟨controller, accepted⟩, config, parsed, present, same⟩
    exact ⟨controller, accepted, config, parsed, if_neg (by simp [present, same])⟩

variable [PyText] [PyDigits]

/-- The rebuild row that a payload gives for a drive. -/
def rebuildRowOf (payload : Json) : Except PyError (List (String × Json)) := readResponse payload >>= rebuildRow

/-- The rebuild payload of a drive gets through: its row is read as idle, and its first field is an idle value. -/
structure RowPasses (parsers : PrewriteParsers) (drive : InventoryDrive) (payload : Json) : Prop where
  status : ∃ status, parseRebuildStatus parsers payload (some (drivePath drive)) = .ok status ∧
    status.state ∈ ["Not in progress", "Complete"]
  row : ∃ row, rebuildRowOf payload = .ok row ∧ idleRebuildProof row = .ok ()

/-- The loop returns if and only if no drive is rebuilding and the payload of every drive gets through. -/
theorem checkRebuilds_eq_ok_iff {parsers : PrewriteParsers} {read : ℕ → List String → Except PyError Json}
    {call : ℕ} {drives : List InventoryDrive} : checkRebuilds parsers read call drives = .ok () ↔
      ∀ i drive, drives[i]? = some drive → drive.state ≠ "Rbld" ∧
        ∃ payload, read (call + i) [drivePath drive, "show", "rebuild", "J"] = .ok payload ∧
          RowPasses parsers drive payload := by
  induction drives generalizing call with
  | nil => exact iff_of_true rfl fun i drive found => nomatch found
  | cons first rest ih =>
    have shift (i : ℕ) : call + (i + 1) = call + 1 + i := by omega
    rw [checkRebuilds]
    constructor
    · intro returned
      split_ifs at returned with rebuilding
      simp only [Except.bind_eq_ok_iff, python_eq_ok_iff] at returned
      obtain ⟨payload, answered, controller, accepted, status, parsed, returned⟩ := returned
      split_ifs at returned with active
      simp only [Except.bind_eq_ok_iff, python_eq_ok_iff] at returned
      obtain ⟨row, found, _, idle, returned⟩ := returned
      intro i drive place
      cases i with
      | zero =>
        obtain rfl := Option.some.inj place
        refine ⟨rebuilding, payload, answered, ⟨status, parsed, active⟩, row, ?_, idle⟩
        rw [rebuildRowOf, accepted]
        exact found
      | succ i =>
        rw [shift]
        exact ih.mp returned i drive place
    · intro passes
      obtain ⟨rebuilding, payload, answered, ⟨status, parsed, calm⟩, row, found, idle⟩ := passes 0 first rfl
      obtain ⟨controller, accepted, found⟩ := Except.bind_eq_ok found
      rw [if_neg rebuilding]
      simp only [Except.bind_eq_ok_iff, python_eq_ok_iff]
      refine ⟨payload, answered, controller, accepted, status, parsed, ?_⟩
      rw [if_neg (not_not.mpr calm)]
      simp only [Except.bind_eq_ok_iff, python_eq_ok_iff]
      refine ⟨row, found, (), idle, ih.mpr fun i drive place => ?_⟩
      rw [← shift]
      exact passes (i + 1) drive place

end Parts

section Safety

variable [PyText] [PyDigits]

/-- The reads of one check. -/
structure ForeignReads where
  parsers : PrewriteParsers
  identity : Json
  policy : ControllerPolicy
  read : ℕ → List String → Except PyError Json
  expectedDigest : Option String

def ForeignReads.check (reads : ForeignReads) : Except PyError Unit :=
  checkForeignSafety reads.parsers reads.identity reads.policy reads.read reads.expectedDigest

/-- The rebuild row that the check reads for a drive of the inventory. -/
def ForeignReads.IsRow (reads : ForeignReads) (inventory : List InventoryDrive) (row : List (String × Json)) : Prop :=
  ∃ i drive payload, inventory[i]? = some drive ∧
    reads.read (1 + i) [drivePath drive, "show", "rebuild", "J"] = .ok payload ∧ rebuildRowOf payload = .ok row

/-- Everything but the rebuild rows: a whole inventory without duplicates, the same at the end, the expected digest at
both ends, no rebuilding drive and a row for every drive. -/
structure Established (reads : ForeignReads) (inventory : List InventoryDrive) : Prop where
  whole : Inventory reads.identity inventory
  unchanged : ∃ current latest, reads.read (inventory.length + 1) ["/c0", "show", "all", "J"] = .ok current ∧
    Inventory current latest ∧ ∀ drive, drive ∈ inventory ↔ drive ∈ latest
  first : ∃ payload digest, reads.expectedDigest = some digest ∧
    reads.read 0 ["/c0/fall", "show", "all", "J"] = .ok payload ∧ HasDigest reads.parsers payload digest
  last : ∃ payload digest, reads.expectedDigest = some digest ∧
    reads.read (inventory.length + 2) ["/c0/fall", "show", "all", "J"] = .ok payload ∧
    HasDigest reads.parsers payload digest
  quiet : ∀ drive ∈ inventory, drive.state ≠ "Rbld"
  rows : ∀ i drive, inventory[i]? = some drive → ∃ payload row,
    reads.read (1 + i) [drivePath drive, "show", "rebuild", "J"] = .ok payload ∧ rebuildRowOf payload = .ok row

/-- The check has established that a foreign import or clear is safe. -/
def ForeignSafe (reads : ForeignReads) (inventory : List InventoryDrive) : Prop :=
  Established reads inventory ∧ ∀ row, reads.IsRow inventory row → ¬RebuildEvidence row

/-- What the check asks of its reads: whole inventories at both ends, the confirmed digest, rows that get through and
the controller of the policy. -/
structure Passes (reads : ForeignReads) (digest : String) (inventory : List InventoryDrive) : Prop where
  confirmed : reads.expectedDigest = some digest ∧ digest ≠ ""
  found : physicalInventory reads.identity = .ok inventory
  first : ∃ payload, reads.read 0 ["/c0/fall", "show", "all", "J"] = .ok payload ∧
    foreignEvidence reads.parsers payload digest = .ok ()
  rows : ∀ i drive, inventory[i]? = some drive → drive.state ≠ "Rbld" ∧
    ∃ payload, reads.read (1 + i) [drivePath drive, "show", "rebuild", "J"] = .ok payload ∧
      RowPasses reads.parsers drive payload
  current : ∃ payload controller latest, reads.read (inventory.length + 1) ["/c0", "show", "all", "J"] = .ok payload ∧
    reads.parsers.parseControllerShowAll payload = .ok controller ∧
    controller.serialNumber = reads.policy.controllerSerial ∧ controller.modelName = "LSI MegaRAID SAS 9270CV-8i" ∧
    physicalInventory payload = .ok latest ∧ inventory ⊆ latest ∧ latest ⊆ inventory
  last : ∃ payload, reads.read (inventory.length + 2) ["/c0/fall", "show", "all", "J"] = .ok payload ∧
    foreignEvidence reads.parsers payload digest = .ok ()

theorem foreignSafetyBody_eq_ok_iff {reads : ForeignReads} {digest : String} :
    foreignSafetyBody reads.parsers reads.identity reads.policy reads.read digest = .ok () ∧
      reads.expectedDigest = some digest ∧ digest ≠ "" ↔ ∃ inventory, Passes reads digest inventory := by
  simp only [foreignSafetyBody, Except.bind_eq_ok_iff, python_eq_ok_iff]
  constructor
  · rintro ⟨⟨inventory, found, first, firstRead, _, firstEvidence, _, rebuilds, current, currentRead, controller, parsed,
      body⟩, confirmed⟩
    split_ifs at body with other
    simp only [Except.bind_eq_ok_iff, python_eq_ok_iff] at body
    obtain ⟨latest, latestFound, body⟩ := body
    split_ifs at body with changed
    simp only [Except.bind_eq_ok_iff, python_eq_ok_iff] at body
    obtain ⟨last, lastRead, lastEvidence⟩ := body
    obtain ⟨serial, model⟩ := not_or.mp other
    exact ⟨inventory, confirmed, found, ⟨first, firstRead, firstEvidence⟩, checkRebuilds_eq_ok_iff.mp rebuilds,
      ⟨current, controller, latest, currentRead, parsed, not_not.mp serial, not_not.mp model, latestFound, changed⟩,
      last, lastRead, lastEvidence⟩
  · rintro ⟨inventory, confirmed, found, ⟨first, firstRead, firstEvidence⟩, rebuilds,
      ⟨current, controller, latest, currentRead, parsed, serial, model, latestFound, unchanged⟩, last, lastRead,
      lastEvidence⟩
    refine ⟨⟨inventory, found, first, firstRead, (), firstEvidence, (), checkRebuilds_eq_ok_iff.mpr rebuilds, current,
      currentRead, controller, parsed, ?_⟩, confirmed⟩
    rw [if_neg (by simp [serial, model])]
    simp only [Except.bind_eq_ok_iff, python_eq_ok_iff]
    refine ⟨latest, latestFound, ?_⟩
    rw [if_neg (not_not.mpr unchanged)]
    simp only [Except.bind_eq_ok_iff, python_eq_ok_iff]
    exact ⟨last, lastRead, lastEvidence⟩

/-- When the check returns. -/
theorem check_eq_ok_iff {reads : ForeignReads} :
    reads.check = .ok () ↔ ∃ digest inventory, Passes reads digest inventory := by
  simp only [← foreignSafetyBody_eq_ok_iff]
  unfold ForeignReads.check checkForeignSafety
  cases expected : reads.expectedDigest with
  | none => exact iff_of_false nofun fun ⟨_, _, same, _⟩ => nomatch same
  | some digest =>
    dsimp only
    by_cases missing : digest = ""
    · rw [if_pos missing]
      exact iff_of_false nofun fun ⟨_, _, same, some_⟩ => some_ (Option.some.inj same ▸ missing)
    · rw [if_neg missing]
      have body : (foreignSafetyBody reads.parsers reads.identity reads.policy reads.read digest).mapError refuseUnproven =
          .ok () ↔ foreignSafetyBody reads.parsers reads.identity reads.policy reads.read digest = .ok () := by
        cases foreignSafetyBody reads.parsers reads.identity reads.policy reads.read digest with
        | error error => exact iff_of_false nofun nofun
        | ok _ => exact iff_of_true rfl rfl
      rw [body]
      constructor
      · exact fun returned => ⟨digest, returned, rfl, missing⟩
      · rintro ⟨_, returned, ⟨⟩, -⟩
        exact returned

/-- Reads that get through establish everything but the calm of the rows, whose first field is idle. -/
theorem Passes.established {reads : ForeignReads} {digest : String} {inventory : List InventoryDrive}
    (passes : Passes reads digest inventory) :
    Established reads inventory ∧ ∀ row, reads.IsRow inventory row → idleRebuildProof row = .ok () := by
  obtain ⟨⟨expected, -⟩, found, ⟨first, firstRead, firstEvidence⟩, rows,
    ⟨current, controller, latest, currentRead, -, -, -, latestFound, unchanged⟩, last, lastRead, lastEvidence⟩ := passes
  refine ⟨?_, ?_⟩
  · constructor
    · exact inventory_of_physicalInventory found
    · refine ⟨current, latest, currentRead, inventory_of_physicalInventory latestFound, ?_⟩
      exact fun drive => ⟨fun member => unchanged.1 member, fun member => unchanged.2 member⟩
    · exact ⟨first, digest, expected, firstRead, (foreignEvidence_eq_ok_iff.mp firstEvidence).2⟩
    · exact ⟨last, digest, expected, lastRead, (foreignEvidence_eq_ok_iff.mp lastEvidence).2⟩
    · intro drive member
      obtain ⟨i, place⟩ := List.mem_iff_getElem?.mp member
      exact (rows i drive place).1
    · intro i drive place
      obtain ⟨-, payload, read, -, row, given, -⟩ := rows i drive place
      exact ⟨payload, row, read, given⟩
  · rintro row ⟨i, drive, payload, place, read, given⟩
    obtain ⟨-, payload', read', -, row', given', idle⟩ := rows i drive place
    rw [read] at read'
    obtain rfl := Except.ok.inj read'
    rw [given] at given'
    obtain rfl := Except.ok.inj given'
    exact idle

/-- A check that returns has established the safety. -/
def FailsClosed (reads : ForeignReads) : Prop :=
  reads.check = .ok () → ∃ inventory, physicalInventory reads.identity = .ok inventory ∧ ForeignSafe reads inventory

/-- The check fails closed except on reads that get through with a row that contradicts its idle first field. -/
theorem foreign_safety_iff (reads : ForeignReads) : FailsClosed reads ↔
    ¬∃ digest inventory, Passes reads digest inventory ∧ ∃ row, reads.IsRow inventory row ∧ Contradictory row := by
  constructor
  · rintro closed ⟨digest, inventory, passes, row, isRow, contradictory⟩
    obtain ⟨other, found, -, calm⟩ := closed (check_eq_ok_iff.mpr ⟨digest, inventory, passes⟩)
    obtain rfl := Except.ok.inj (passes.found.symm.trans found)
    exact calm row isRow ((evidence_iff_contradictory contradictory.1).mpr contradictory)
  · intro consistent returned
    obtain ⟨digest, inventory, passes⟩ := check_eq_ok_iff.mp returned
    obtain ⟨established, idle⟩ := passes.established
    refine ⟨inventory, passes.found, established, fun row isRow evidence => consistent ?_⟩
    exact ⟨digest, inventory, passes, row, isRow, (evidence_iff_contradictory (idle row isRow)).mp evidence⟩

end Safety

section Example

/-- A response of the first controller. -/
def sampleResponse (data : Json) : Json :=
  .obj [("Controllers", .arr [.obj [("Command Status", .obj [("Controller", .int 0), ("Status", .str "Success")]),
    ("Response Data", data)]])]

/-- One drive in slot 0. -/
def sampleIdentity : Json :=
  sampleResponse (.obj [("Physical Drives", .int 1),
    ("PD LIST", .arr [.obj [("EID:Slt", .str "252:0"), ("DID", .int 8), ("State", .str "Onln")]])])

def sampleController : ControllerInfo where
  modelName := "LSI MegaRAID SAS 9270CV-8i"
  serialNumber := "SV1"
  firmwareVersion := ""
  biosVersion := ""
  driverName := ""
  driverVersion := ""
  pciAddress := ""
  systemTime := 0
  alarmState := "Off"
  cvPresent := false
  bbuPresent := false
  rocTemperatureCelsius := none

/-- The check over one drive whose rebuild row is given. -/
def sampleReads (row : List (String × Json)) : ForeignReads where
  parsers := {
    parseForeignConfig := fun _ => .ok ⟨true, 1, 1, none, [], "digest"⟩
    parseControllerShowAll := fun _ => .ok sampleController
    parseMinutes := fun _ => .ok none }
  identity := sampleIdentity
  policy := ⟨"SV1"⟩
  read := fun _ args =>
    if args = ["/c0", "show", "all", "J"] then .ok sampleIdentity
    else if args.head? = some "/c0/fall" then .ok (sampleResponse (.obj []))
    else .ok (sampleResponse (.arr [.obj row]))
  expectedDigest := some "digest"

/-- An idle Status beside a progress of 50 percent and a State that reports the rebuild. -/
def contradictoryRow : List (String × Json) :=
  [("Drive-ID", .str "/c0/e252/s0"), ("Progress%", .str "50%"), ("Status", .str "Not in progress"),
    ("State", .str "Rebuilding")]

/-- The check returns although the row of the drive is under way. -/
theorem foreign_safety_contradictory_row : ¬@FailsClosed .ascii .ascii (sampleReads contradictoryRow) := by
  intro closed
  obtain ⟨inventory, found, -, calm⟩ := closed (by rfl)
  have drives : physicalInventory (sampleReads contradictoryRow).identity = .ok [⟨0, 8, "Onln"⟩] := by rfl
  rw [drives] at found
  obtain rfl := Except.ok.inj found
  have isRow : (sampleReads contradictoryRow).IsRow [⟨0, 8, "Onln"⟩] contradictoryRow :=
    ⟨0, ⟨0, 8, "Onln"⟩, sampleResponse (.arr [.obj contradictoryRow]), rfl, rfl, rfl⟩
  exact calm contradictoryRow isRow (.inl ⟨50, by rfl, by decide, by decide⟩)

end Example

end MegaraidDashboard.Storcli
