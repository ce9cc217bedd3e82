import MegaraidDashboard.Soundness.Inventory

/-! # The position of a drive

Without the raw payload a row keeps the identity and the position of every drive. The drive page reads them back:
what it shows is what the controller observed under the address of the drive, if the drive group in it is the
drive's own. A row of the time before the positions were kept shows the same or nothing.
-/

namespace MegaraidDashboard.Storcli.Inventory

open JsonText Db

/-! ## Keys -/

theorem intText_injective {m n : ℤ} (same : toString m = toString n) : m = n := by
  rw [← readInt_intText m, ← readInt_intText n, same]

theorem notMem_intText {c : Char} (noDigit : c.isDigit = false) (noSign : c ≠ '-') (n : ℤ) :
    c ∉ (toString n).toList := by
  intro member
  rcases mem_intText member with digit | sign
  · exact Bool.false_ne_true (noDigit.symm.trans digit)
  · exact noSign sign

theorem driveKeyOf_toList (enclosure slot : ℤ) : (driveKeyOf enclosure slot).toList =
    "Drive /c0/e".toList ++ ((toString enclosure).toList ++ '/' :: 's' :: (toString slot).toList) := by
  simp only [driveKeyOf, String.toList_append, List.append_assoc]
  rfl

theorem driveKeyOf_injective {enclosure slot enclosure' slot' : ℤ}
    (same : driveKeyOf enclosure slot = driveKeyOf enclosure' slot') : enclosure = enclosure' ∧ slot = slot' := by
  have chars := congrArg String.toList same
  rw [driveKeyOf_toList, driveKeyOf_toList] at chars
  have slash (n : ℤ) : '/' ∉ (toString n).toList := notMem_intText rfl (by decide) n
  have tail : '/' ∉ 's' :: (toString slot).toList := List.not_mem_cons_of_ne_of_not_mem (by decide) (slash slot)
  obtain ⟨enclosures, -, tails⟩ := (List.append_cons_inj_of_notMem (slash enclosure) tail).mp
    (List.append_cancel_left chars)
  exact ⟨intText_injective (String.toList_injective enclosures),
    intText_injective (String.toList_injective (List.cons.inj tails).2)⟩

theorem detailKey_toList (key : String) : (detailKey key).toList = key.toList ++ " - Detailed Information".toList := by
  delta detailKey
  exact String.toList_append

theorem detailKey_injective {key other : String} (same : detailKey key = detailKey other) : key = other := by
  have chars := congrArg String.toList same
  rw [detailKey_toList, detailKey_toList] at chars
  exact String.toList_injective (List.append_cancel_right chars)

theorem attributesKey_ne_policiesKey (key : String) : attributesKey key ≠ policiesKey key := by
  intro same
  have chars : (key ++ " Device attributes").toList = (key ++ " Policies/Settings").toList := congrArg String.toList same
  rw [String.toList_append, String.toList_append] at chars
  exact absurd (List.append_cancel_left chars) (by decide)

/-- No drive is called like the details of a drive. -/
theorem driveKeyOf_ne_detailKey (enclosure slot : ℤ) (key : String) : driveKeyOf enclosure slot ≠ detailKey key := by
  intro same
  have chars := congrArg String.toList same
  rw [driveKeyOf_toList, detailKey_toList] at chars
  have named : 'I' ∈ key.toList ++ " - Detailed Information".toList := List.mem_append_right _ (by decide)
  rw [← chars, List.mem_append, List.mem_append, List.mem_cons, List.mem_cons] at named
  rcases named with front | enclosures | slash | letter | slots
  · exact absurd front (by decide)
  · exact notMem_intText rfl (by decide) _ enclosures
  · exact absurd slash (by decide)
  · exact absurd letter (by decide)
  · exact notMem_intText rfl (by decide) _ slots

/-! ## Dictionaries -/

theorem get_cons (field : String × Value) (fields : Fields) (key : String) :
    Fields.get (field :: fields) key = if field.1 = key then some field.2 else fields.get key := by
  rw [Fields.get, List.find?_cons]
  split_ifs with same
  · rw [beq_iff_eq.mpr same, Option.map_some]
  · rw [beq_eq_false_iff_ne.mpr same]
    rfl

theorem get_append (fields others : Fields) (key : String) :
    Fields.get (fields ++ others) key = (fields.get key).or (others.get key) := by
  simp only [Fields.get, List.find?_append]
  cases List.find? (fun field => field.1 == key) fields <;> rfl

/-- The entry of an assigned key takes the value. -/
def assign (key : String) (value : Value) (field : String × Value) : String × Value :=
  if field.1 = key then (key, value) else field

theorem assign_fst (key : String) (value : Value) (field : String × Value) : (assign key value field).1 = field.1 := by
  rw [assign]
  split_ifs with same
  · exact same.symm
  · rfl

theorem get_map_assign (fields : Fields) (key other : String) (value : Value) :
    Fields.get (fields.map (assign key value)) other =
      (fields.find? fun field => field.1 == other).map fun field => (assign key value field).2 := by
  rw [Fields.get, List.find?_map, Option.map_map]
  simp only [Function.comp_def, assign_fst]

theorem setField_eq (fields : Fields) (key : String) (value : Value) : setField fields key value =
    if fields.has key then fields.map (assign key value) else fields ++ [(key, value)] := rfl

theorem get_eq_none_of_has {fields : Fields} {key : String} (missing : ¬ fields.has key = true) :
    fields.get key = none := by
  rw [Fields.get, Option.map_eq_none_iff, List.find?_eq_none]
  intro field member same
  exact missing (List.any_eq_true.mpr ⟨field, member, same⟩)

theorem get_setField_self (fields : Fields) (key : String) (value : Value) :
    (setField fields key value).get key = some value := by
  rw [setField_eq]
  split_ifs with present
  · obtain ⟨field, member, same⟩ := List.any_eq_true.mp present
    have some_ : (fields.find? fun field => field.1 == key).isSome = true :=
      List.find?_isSome.mpr ⟨field, member, same⟩
    obtain ⟨first, found⟩ := Option.isSome_iff_exists.mp some_
    have named : first.1 = key := beq_iff_eq.mp (List.find?_some (p := fun field : String × Value => field.1 == key) found)
    rw [get_map_assign, found, Option.map_some, assign, if_pos named]
  · rw [get_append, get_eq_none_of_has present, Option.none_or]
    simp [Fields.get]

theorem get_setField_of_ne {fields : Fields} {key other : String} (value : Value) (ne : other ≠ key) :
    (setField fields key value).get other = fields.get other := by
  rw [setField_eq]
  split_ifs with present
  · rw [get_map_assign, Fields.get]
    cases found : fields.find? (fun field => field.1 == other) with
    | none => rfl
    | some first =>
      have named : first.1 = other :=
        beq_iff_eq.mp (List.find?_some (p := fun field : String × Value => field.1 == other) found)
      rw [Option.map_some, Option.map_some, assign, if_neg (named.trans_ne ne)]
  · have empty : Fields.get [(key, value)] other = none := by simp [Fields.get, ne.symm]
    rw [get_append, empty, Option.or_none]

/-! ## The retained positions -/

/-- The entries of one drive. -/
structure Retained (response : Value) (positions : Fields) (drive : PhysicalDrive) : Prop where
  summary : positions.get (driveKeyOf drive.enclosureId drive.slotId) = some (retainedSummary drive)
  detail : ∃ position, observedPosition response drive = .ok position ∧
    positions.get (detailKey (driveKeyOf drive.enclosureId drive.slotId)) = some (retainedDetail drive position)

theorem retainPosition_eq_ok {response : Value} {positions after : Fields} {drive : PhysicalDrive}
    (returned : retainPosition response positions drive = .ok after) :
    ∃ position, observedPosition response drive = .ok position ∧
      after = setField (setField positions (driveKeyOf drive.enclosureId drive.slotId) (retainedSummary drive))
        (detailKey (driveKeyOf drive.enclosureId drive.slotId)) (retainedDetail drive position) := by
  obtain ⟨position, observed, returned⟩ := Except.bind_eq_ok returned
  exact ⟨position, observed, (Except.ok.inj returned).symm⟩

/-- A drive's turn of the loop leaves its entries. -/
theorem Retained.of_retainPosition {response : Value} {positions after : Fields} {drive : PhysicalDrive}
    (returned : retainPosition response positions drive = .ok after) : Retained response after drive := by
  obtain ⟨position, observed, rfl⟩ := retainPosition_eq_ok returned
  refine ⟨?_, position, observed, get_setField_self _ _ _⟩
  rw [get_setField_of_ne _ (driveKeyOf_ne_detailKey _ _ _), get_setField_self]

/-- The turn of a drive in another slot keeps them. -/
theorem Retained.keep {response : Value} {positions after : Fields} {drive other : PhysicalDrive}
    (retained : Retained response positions drive) (apart : location drive ≠ location other)
    (returned : retainPosition response positions other = .ok after) : Retained response after drive := by
  obtain ⟨position, -, rfl⟩ := retainPosition_eq_ok returned
  have keys : driveKeyOf drive.enclosureId drive.slotId ≠ driveKeyOf other.enclosureId other.slotId := by
    intro same
    obtain ⟨enclosures, slots⟩ := driveKeyOf_injective same
    exact apart (congrArg toLex (Prod.ext enclosures slots))
  obtain ⟨observed, found, detail⟩ := retained.detail
  constructor
  · rw [get_setField_of_ne _ (driveKeyOf_ne_detailKey _ _ _), get_setField_of_ne _ keys, retained.summary]
  · refine ⟨observed, found, ?_⟩
    rw [get_setField_of_ne _ fun same => keys (detailKey_injective same),
      get_setField_of_ne _ (driveKeyOf_ne_detailKey _ _ _).symm, detail]

/-- The loop leaves the entries of every drive; those of earlier turns stay. -/
theorem retained_foldlM {response : Value} {drives : List PhysicalDrive} (unique : (drives.map location).Nodup)
    {positions final : Fields} (returned : drives.foldlM (retainPosition response) positions = .ok final) :
    (∀ drive ∈ drives, Retained response final drive) ∧
      ∀ drive, location drive ∉ drives.map location → Retained response positions drive →
        Retained response final drive := by
  induction drives generalizing positions with
  | nil =>
    obtain rfl := Except.ok.inj returned
    exact ⟨List.forall_mem_nil _, fun _ _ retained => retained⟩
  | cons first rest ih =>
    rw [List.foldlM_cons] at returned
    obtain ⟨after, turn, returned⟩ := Except.bind_eq_ok returned
    obtain ⟨fresh, unique⟩ := List.nodup_cons.mp unique
    obtain ⟨later, kept⟩ := ih unique returned
    refine ⟨List.forall_mem_cons.mpr ⟨kept first fresh (.of_retainPosition turn), later⟩, ?_⟩
    intro drive outside retained
    rw [List.map_cons, List.mem_cons, not_or] at outside
    exact kept drive outside.2 (retained.keep outside.1 turn)

/-! ## Serial numbers -/

section Positions

variable [PyText] [PyNumbers] [PyConversions]

omit [PyText] [PyNumbers] [PyConversions] in
theorem yields_serial (data : Fields) : (required data "SN" "serial_number" stripSerialNumber).Yields fun serial =>
    Py.strip serial = serial := by
  intro serial valid
  rw [required] at valid
  split at valid
  · next value =>
    have read := Validation.run_collect valid
    rw [stripSerialNumber.eq_def] at read
    split at read
    · obtain rfl := Except.ok.inj read
      exact Py.strip_strip _
    · cases read
  · cases valid

theorem strip_validatePhysicalDrive (data : Fields) : ∀ drive, validatePhysicalDrive data = .ok drive →
    Py.strip drive.serialNumber = drive.serialNumber := by
  change Validation.Yields (_ : Validation PhysicalDrive) fun drive => Py.strip drive.serialNumber = drive.serialNumber
  -- the twelve fields behind the serial number, then the serial number, then the three fields before it
  iterate 12 apply Validation.Yields.skip
  refine Validation.Yields.seq (R := fun serial => Py.strip serial = serial) ?_ (yields_serial data)
  iterate 3 apply Validation.Yields.skip
  apply Validation.yields_map
  intros
  assumption

theorem validatePhysicalDrive_of_parsed {response : Fields} {key : String} {summary : Value} {drive : PhysicalDrive}
    (parsed : parsePhysicalDrive response key summary = .ok drive) : ∃ data, validatePhysicalDrive data = .ok drive := by
  iterate 14 obtain ⟨_, _, parsed⟩ := Except.bind_eq_ok parsed
  exact ⟨_, parsed⟩

/-- The serial number of a parsed drive has no blanks around it. -/
theorem strip_serialNumber {response : Fields} {drives : List PhysicalDrive}
    (parsed : physicalDrivesOf response = .ok drives) {drive : PhysicalDrive} (member : drive ∈ drives) :
    Py.strip drive.serialNumber = drive.serialNumber := by
  obtain ⟨rows, _, returned⟩ := Except.bind_eq_ok parsed
  obtain ⟨read, traversed, returned⟩ := Except.bind_eq_ok returned
  obtain rfl := Except.ok.inj returned
  obtain ⟨row, _, same⟩ := List.exists_mem_of_mapM_ok traversed (List.mem_orderBy.mp member)
  obtain ⟨data, valid⟩ := validatePhysicalDrive_of_parsed same
  exact strip_validatePhysicalDrive data drive valid

/-! ## The page -/

variable [PyDigits]

omit [PyText] in
theorem shownPosition_retained {response : Value} {positions : Fields} {drive : PhysicalDrive}
    (retained : Retained response positions drive) (solid : Py.strip drive.serialNumber = drive.serialNumber) :
    ∃ position, observedPosition response drive = .ok position ∧
      shownPosition (positionsPayload positions) (.ofStorcli drive) = positionText drive.diskGroupId position := by
  obtain ⟨position, observed, detail⟩ := retained.detail
  refine ⟨position, observed, ?_⟩
  have only : onlyController (positionsPayload positions) = some (.obj [("Response Data", .obj positions)]) := rfl
  have data : item "Response Data" (.obj [("Response Data", .obj positions)]) = .ok (.obj positions) := rfl
  have row : onlyRow (retainedSummary drive) =
      some [("EID:Slt", .str (eidSlot drive.enclosureId drive.slotId)), ("DID", intValue drive.deviceId)] := rfl
  have attributes : item (attributesKey (driveKeyOf drive.enclosureId drive.slotId)) (retainedDetail drive position) =
      .ok (.obj [("SN", .str drive.serialNumber)]) := item_eq_ok.mpr (by simp [Fields.get])
  have policies : item (policiesKey (driveKeyOf drive.enclosureId drive.slotId)) (retainedDetail drive position) =
      .ok (.obj [("Drive position", position)]) :=
    item_eq_ok.mpr (by simp [Fields.get, attributesKey_ne_policiesKey])
  have serial : item "SN" (.obj [("SN", .str drive.serialNumber)]) = .ok (.str drive.serialNumber) := rfl
  have shown : item "Drive position" (.obj [("Drive position", position)]) = .ok position := rfl
  have eid : Fields.get [("EID:Slt", .str (eidSlot drive.enclosureId drive.slotId)), ("DID", intValue drive.deviceId)]
      "EID:Slt" = some (.str (eidSlot drive.enclosureId drive.slotId)) := rfl
  have did : Fields.get [("EID:Slt", .str (eidSlot drive.enclosureId drive.slotId)), ("DID", intValue drive.deviceId)]
      "DID" = some (intValue drive.deviceId) := rfl
  have own : isText (eidSlot drive.enclosureId drive.slotId) (.str (eidSlot drive.enclosureId drive.slotId)) = true :=
    beq_self_eq_true _
  have device : equalsInt drive.deviceId (intValue drive.deviceId) = true := beq_self_eq_true _
  simp only [shownPosition, PhysicalDriveSnapshot.ofStorcli, only, data, item_eq_ok.mpr retained.summary, row,
    item_eq_ok.mpr detail, attributes, policies, serial, shown, Except.toOption, bind, Option.bind, strippedText, solid,
    eid, did, own, device, and_self, if_true]

variable [Sha256]

omit [PyText] [PyNumbers] [PyConversions] [PyDigits] [Sha256] in
theorem heldEntry_key {raw : Fields} {key : String} {entry : String × Value} (held : heldEntry raw key = some entry) :
    entry.1 = key := by
  rw [heldEntry] at held
  split at held
  · cases held
  · cases held
  · obtain rfl := Option.some.inj held
    rfl

omit [PyText] [PyNumbers] [PyConversions] [PyDigits] [Sha256] in
/-- A held entry of a chosen key is found among the held entries. -/
theorem get_filterMap_heldEntry {raw : Fields} {key : String} {value : Value} (held : heldEntry raw key = some (key, value))
    {keys : List String} (chosen : key ∈ keys) : Fields.get (keys.filterMap (heldEntry raw)) key = some value := by
  induction keys with
  | nil => cases chosen
  | cons first rest ih =>
    by_cases same : first = key
    · obtain rfl := same
      rw [List.filterMap_cons_some held, get_cons, if_pos rfl]
    · have later := ih ((List.mem_cons.mp chosen).resolve_left (Ne.symm same))
      cases other : heldEntry raw first with
      | none => rwa [List.filterMap_cons_none other]
      | some entry =>
        rw [List.filterMap_cons_some other, get_cons, if_neg (heldEntry_key other ▸ same), later]

omit [PyText] [PyNumbers] [PyConversions] [PyDigits] [Sha256] in
/-- Both kinds of stored row keep the positions. -/
theorem get_rawJson (storeRaw : Bool) (reading : InventoryReading) (optional : OptionalReading) (positions : Fields)
    (patrolRead consistencyCheck : Value) :
    ∃ fields, rawJson storeRaw (rawPayload reading optional (positionsPayload positions) patrolRead consistencyCheck) =
      some fields ∧ fields.get "physical_drive_positions" = some (positionsPayload positions) := by
  cases storeRaw with
  | true => exact ⟨_, rfl, rfl⟩
  | false =>
    have held : heldEntry (rawPayload reading optional (positionsPayload positions) patrolRead consistencyCheck)
        "physical_drive_positions" = some ("physical_drive_positions", positionsPayload positions) := rfl
    have found := get_filterMap_heldEntry held (List.mem_cons_of_mem "patrol_read" (List.mem_cons_of_mem
      "consistency_check" (List.mem_cons_self (l := ["foreign_config_state"]))))
    refine ⟨operationState (rawPayload reading optional (positionsPayload positions) patrolRead consistencyCheck), ?_,
      found⟩
    have some_ : operationState (rawPayload reading optional (positionsPayload positions) patrolRead consistencyCheck) ≠ [] := by
      intro empty
      rw [operationState] at empty
      rw [empty] at found
      cases found
    exact if_neg some_

/-- The position of a collected drive, in the payload that the row keeps and on the page. -/
theorem collected_position {probes : Probes} {parsers : OperationParsers} {now : ℤ} {snapshot : StorcliSnapshot}
    {raw : Fields} {drive : PhysicalDrive}
    (returned : collectStorcliSnapshot probes parsers now = .ok (snapshot, raw)) (member : drive ∈ snapshot.physicalDrives) :
    ∃ payload response position, raw.get "physical_drives" = some payload ∧ physicalResponse payload = .ok response ∧
      observedPosition response drive = .ok position ∧ ∀ storeRaw,
      dgSpanRowText (.ofStorcli drive) (rawJson storeRaw raw) =
        (positionText drive.diskGroupId position).getD "N/A" := by
  obtain ⟨reading, collected, returned⟩ := Except.bind_eq_ok returned
  obtain ⟨optional, _, returned⟩ := Except.bind_eq_ok returned
  obtain ⟨payload, retained, returned⟩ := Except.bind_eq_ok returned
  obtain ⟨patrolRead, _, returned⟩ := Except.bind_eq_ok returned
  obtain ⟨consistencyCheck, _, returned⟩ := Except.bind_eq_ok returned
  obtain ⟨rfl, rfl⟩ := Prod.mk.inj (Except.ok.inj returned)
  obtain ⟨-, inventoried, -, -⟩ := collectInventory_eq_ok.mp collected
  obtain ⟨_, _, _, complete⟩ := inventoried.controller
  obtain ⟨_, _, _, _, _, _, identities⟩ := complete.identities
  obtain ⟨_, _, physicalParsed⟩ := inventoried.physicalDrives
  obtain ⟨response, read, retained⟩ := Except.bind_eq_ok retained
  obtain ⟨positions, folded, retained⟩ := Except.bind_eq_ok retained
  obtain rfl := Except.ok.inj retained
  obtain ⟨entries, -⟩ := retained_foldlM (nodup_location identities.unique.2) folded
  obtain ⟨position, observed, shown⟩ := shownPosition_retained (entries drive member)
    (strip_serialNumber physicalParsed member)
  refine ⟨reading.physicalDrivesPayload, response, position, rfl, read, observed, ?_⟩
  intro storeRaw
  obtain ⟨fields, stored, found⟩ := get_rawJson storeRaw reading optional positions patrolRead consistencyCheck
  rw [dgSpanRowText, stored]
  simp only [Option.getD_some, found, Option.some_or, shown]

omit [PyText] [PyNumbers] [PyConversions] [PyDigits] [Sha256] in
theorem ok_of_toOption {answer : Except InventoryError Value} {value : Value} (some_ : answer.toOption = some value) :
    answer = .ok value := by
  cases answer with
  | error error => cases some_
  | ok result => exact congrArg Except.ok (Option.some.inj some_)

omit [PyText] [PyNumbers] [PyConversions] [PyDigits] [Sha256] in
theorem physicalResponse_of_only {payload controller : Value} (only : onlyController payload = some controller) :
    physicalResponse payload = item "Response Data" controller := by
  rw [onlyController] at only
  split at only
  · next found =>
    obtain rfl := Option.some.inj only
    rw [physicalResponse, found]
    rfl
  · cases only

omit [PyText] [PyNumbers] [PyConversions] [PyDigits] [Sha256] in
theorem getAttribute_of_item {key : String} {container value : Value} (found : item key container = .ok value) :
    getAttribute key container = .ok value := by
  cases container with
  | obj fields => rw [getAttribute, item_eq_ok.mp found, Option.getD_some]
  | _ => cases found

omit [PyText] [Sha256] in
/-- A position is shown from the response of the only controller. -/
theorem exists_position_of_shownPosition {payload : Value} {drive : PhysicalDrive} {shown : String}
    (found : shownPosition payload (.ofStorcli drive) = some shown) :
    ∃ response position, physicalResponse payload = .ok response ∧ observedPosition response drive = .ok position ∧
      positionText drive.diskGroupId position = some shown := by
  simp only [shownPosition, bind, Option.bind_eq_some_iff] at found
  obtain ⟨controller, only, response, data, _, _, _, _, detail, details, _, _, _, _, _, _, policies, settings, position,
    observed, _, _, _, _, found⟩ := found
  have read : physicalResponse payload = .ok response := (physicalResponse_of_only only).trans (ok_of_toOption data)
  refine ⟨response, position, read, ?_, ?_⟩
  · have inside : item (detailKey (driveKeyOf drive.enclosureId drive.slotId)) response = .ok detail :=
      ok_of_toOption details
    have below : item (policiesKey (driveKeyOf drive.enclosureId drive.slotId)) detail = .ok policies :=
      ok_of_toOption settings
    rw [observedPosition, inside]
    change (item _ detail >>= getAttribute "Drive position") = _
    rw [below]
    exact getAttribute_of_item (ok_of_toOption observed)
  · split_ifs at found
    exact found

/-- What a page shows of a collected drive is the position that the controller observed under its address, whether
the raw payload is stored or not. A row with the whole payload and without retained positions shows the same or
nothing. -/
theorem dgSpanRowText_collected (probes : Probes) (parsers : OperationParsers) (now : ℤ) (snapshot : StorcliSnapshot)
    (raw : Fields) (drive : PhysicalDrive) (returned : collectStorcliSnapshot probes parsers now = .ok (snapshot, raw))
    (member : drive ∈ snapshot.physicalDrives) :
    ∃ payload response position, raw.get "physical_drives" = some payload ∧ physicalResponse payload = .ok response ∧
      observedPosition response drive = .ok position ∧
      (∀ storeRaw, dgSpanRowText (.ofStorcli drive) (rawJson storeRaw raw) =
        (positionText drive.diskGroupId position).getD "N/A") ∧
      ∀ legacy : Fields, legacy.get "physical_drive_positions" = none → legacy.get "physical_drives" = some payload →
        dgSpanRowText (.ofStorcli drive) (some legacy) = "N/A" ∨
          dgSpanRowText (.ofStorcli drive) (some legacy) = (positionText drive.diskGroupId position).getD "N/A" := by
  obtain ⟨payload, response, position, kept, read, observed, page⟩ := collected_position returned member
  refine ⟨payload, response, position, kept, read, observed, page, ?_⟩
  intro legacy unretained whole
  have old : dgSpanRowText (.ofStorcli drive) (some legacy) = (shownPosition payload (.ofStorcli drive)).getD "N/A" := by
    rw [dgSpanRowText, Option.getD_some, unretained, whole]
    rfl
  rw [old]
  cases shown : shownPosition payload (.ofStorcli drive) with
  | none => exact .inl rfl
  | some text =>
    obtain ⟨response', position', read', observed', same⟩ := exists_position_of_shownPosition shown
    obtain rfl := Except.ok.inj (read.symm.trans read')
    obtain rfl := Except.ok.inj (observed.symm.trans observed')
    exact .inr (by rw [same])

end Positions

/-- The page of the first drive does not depend on whether the raw payload is stored. -/
theorem twoDrives_position : ∃ snapshot raw drive,
    @collectStorcliSnapshot .ascii plainNumbers plainConversions zeroHash twoDriveProbes noParsers 0 =
      .ok (snapshot, raw) ∧ drive ∈ snapshot.physicalDrives ∧
    @dgSpanRowText .ascii plainNumbers plainConversions (.ofStorcli drive) (rawJson false raw) =
      @dgSpanRowText .ascii plainNumbers plainConversions (.ofStorcli drive) (rawJson true raw) := by
  obtain ⟨snapshot, raw, collected, length⟩ := twoDrives_collected
  obtain ⟨drive, rest, drives⟩ := List.exists_cons_of_length_eq_add_one length
  have member : drive ∈ snapshot.physicalDrives := drives ▸ List.mem_cons_self
  obtain ⟨_, _, _, _, _, _, page, -⟩ := @dgSpanRowText_collected .ascii plainNumbers plainConversions .ascii zeroHash
    _ _ _ _ _ drive collected member
  exact ⟨snapshot, raw, drive, collected, member, (page false).trans (page true).symm⟩

end MegaraidDashboard.Storcli.Inventory
