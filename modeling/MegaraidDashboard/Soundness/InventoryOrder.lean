import MegaraidDashboard.Soundness.Inventory

/-! # The order of the fields of a response

The firmware prints the tables of a response in an order of its own. The three inventory responses may come with
their fields in any order: the snapshot, the retained positions and the compact row stay as they are.
-/

namespace MegaraidDashboard.Storcli.Inventory

open JsonText

section Order

variable [PyText] [PyNumbers]

/-- The payloads differ in nothing that is read but the order of the fields of their Response Data. -/
structure Reordered (payload other : Value) : Prop where
  single : controllerCount payload = controllerCount other
  responses : ∃ controller controller' response response',
    (firstControllerFields payload = .ok controller ∧ firstControllerFields other = .ok controller') ∧
    controller.get "Command Status" = controller'.get "Command Status" ∧
    (controller.get "Response Data" = some (.obj response) ∧ controller'.get "Response Data" = some (.obj response')) ∧
    response.Perm response' ∧ (response.map Prod.fst).Nodup

omit [PyText] [PyNumbers] in
theorem responseData_of_get {controller response : Fields} (found : controller.get "Response Data" = some (.obj response)) :
    responseData controller = .ok response := by
  rw [responseData, found]
  rfl

theorem Reordered.responds {payload other : Value} (reordered : Reordered payload other) {response : Fields}
    (responds : Responds payload response) :
    ∃ response', Responds other response' ∧ response.Perm response' ∧ (response.map Prod.fst).Nodup := by
  obtain ⟨controller, controller', fields, fields', ⟨read, read'⟩, sameStatus, ⟨found, found'⟩, perm, unique⟩ :=
    reordered.responses
  obtain ⟨answering, succeeded, data⟩ := responds
  obtain rfl := Except.ok.inj (read.symm.trans succeeded.read)
  obtain rfl := Except.ok.inj ((responseData_of_get found).symm.trans data)
  obtain ⟨status, reported, word, zero⟩ := succeeded.status
  have reported' : commandStatus controller' = .ok status := by
    rw [commandStatus, ← sameStatus]
    exact reported
  exact ⟨fields', ⟨controller', ⟨read', reordered.single ▸ succeeded.single, status, reported', word, zero⟩,
    responseData_of_get found'⟩, perm, unique⟩

omit [PyText] [PyNumbers] in
theorem get_eq_of_perm {fields others : Fields} (perm : fields.Perm others) (unique : (fields.map Prod.fst).Nodup) :
    fields.get = others.get := by
  funext key
  rw [Fields.get, Fields.get, List.find?_key_eq_of_perm perm unique key]

omit [PyText] [PyNumbers] in
theorem item_eq_of_perm {fields others : Fields} (perm : fields.Perm others) (unique : (fields.map Prod.fst).Nodup)
    (key : String) : item key (.obj fields) = item key (.obj others) := by
  rw [item, item, get_eq_of_perm perm unique]

omit [PyText] [PyNumbers] in
theorem perm_virtualDriveRows {fields others : Fields} (perm : fields.Perm others)
    (unique : (fields.map Prod.fst).Nodup) : (virtualDriveRows fields).Perm (virtualDriveRows others) := by
  rw [virtualDriveRows, virtualDriveRows, ← get_eq_of_perm perm unique]
  split
  · exact .refl _
  · exact perm.flatMap_right _

variable [PyConversions]

theorem parsePhysicalDrive_eq_of_perm {fields others : Fields} (perm : fields.Perm others)
    (unique : (fields.map Prod.fst).Nodup) : parsePhysicalDrive fields = parsePhysicalDrive others := by
  funext key row
  simp only [parsePhysicalDrive, item_eq_of_perm perm unique]

omit [PyConversions] in
theorem virtualDrivesOf_reordered {fields others : Fields} (perm : fields.Perm others)
    (unique : (fields.map Prod.fst).Nodup) {drives : List VirtualDrive} (parsed : virtualDrivesOf fields = .ok drives) :
    ∃ drives', virtualDrivesOf others = .ok drives' ∧ drives.Perm drives' ∧
      ((drives.map (·.vdId)).Nodup → drives' = drives) := by
  obtain ⟨read, traversed, returned⟩ := Except.bind_eq_ok parsed
  obtain rfl := Except.ok.inj returned
  obtain ⟨read', traversed', same⟩ := (perm_virtualDriveRows perm unique).mapM_ok traversed
  refine ⟨read'.orderBy (·.vdId), ?_, ?_, ?_⟩
  · rw [virtualDrivesOf, traversed']
    rfl
  · exact (List.orderBy_perm _ read).trans (same.trans (List.orderBy_perm _ read').symm)
  · intro distinct
    exact (List.orderBy_eq_of_perm same (((List.orderBy_perm _ read).map _).nodup_iff.mp distinct)).symm

theorem physicalDrivesOf_reordered {fields others : Fields} (perm : fields.Perm others)
    (unique : (fields.map Prod.fst).Nodup) {drives : List PhysicalDrive} (parsed : physicalDrivesOf fields = .ok drives)
    (distinct : (drives.map location).Nodup) : physicalDrivesOf others = .ok drives := by
  obtain ⟨rows, listed, returned⟩ := Except.bind_eq_ok parsed
  obtain ⟨read, traversed, returned⟩ := Except.bind_eq_ok returned
  obtain rfl := Except.ok.inj returned
  have filtered : (fields.filter fun field => isDriveKey field.1).mapM onlySummary = .ok rows := listed
  obtain ⟨rows', listed', sameRows⟩ := (perm.filter _).mapM_ok filtered
  obtain ⟨read', traversed', same⟩ := sameRows.mapM_ok traversed
  have ordered := List.orderBy_eq_of_perm same (((List.orderBy_perm _ read).map _).nodup_iff.mp distinct)
  have listedRows : driveRows others = .ok rows' := listed'
  rw [parsePhysicalDrive_eq_of_perm perm unique] at traversed'
  rw [physicalDrivesOf, listedRows, ordered]
  change (rows'.mapM (fun row => parsePhysicalDrive others row.1 row.2) >>= fun drives =>
    pure (drives.orderBy location)) = _
  rw [traversed']
  rfl

theorem controllerInfoOf_eq_of_perm {fields others : Fields} (perm : fields.Perm others)
    (unique : (fields.map Prod.fst).Nodup) : controllerInfoOf fields = controllerInfoOf others := by
  simp only [controllerInfoOf, item_eq_of_perm perm unique, get_eq_of_perm perm unique]

omit [PyConversions] in
theorem Complete.reordered {fields others : Fields} (perm : fields.Perm others) (unique : (fields.map Prod.fst).Nodup)
    {virtualDrives : List VirtualDrive} {physicalDrives : List PhysicalDrive}
    (complete : Complete fields virtualDrives physicalDrives) : Complete others virtualDrives physicalDrives := by
  have same := get_eq_of_perm perm unique
  obtain ⟨summaryVds, rows, summaryPds, parsed, listed, summarised, whole, ⟨virtual, physical⟩, named⟩ :=
    complete.identities
  obtain ⟨summaryVds', parsed', reordered, -⟩ := virtualDrivesOf_reordered perm unique parsed
  have virtual' : (virtualDrives.map virtualSummaryOf).isPerm (summaryVds'.map virtualSummaryOf) = true :=
    List.isPerm_iff.mpr ((List.isPerm_iff.mp virtual).trans (reordered.map _))
  refine ⟨?_, ⟨summaryVds', rows, summaryPds, parsed', same ▸ listed, summarised, whole, ⟨virtual', physical⟩, named⟩,
    same ▸ complete.cachevault⟩
  rw [CountsAgree, ← same]
  exact complete.counts

/-- The payloads of the inventory commands, with the fields of their responses in another order. -/
structure ReorderedProbes (probes other : Probes) : Prop where
  controller : ∀ payload, probes.controller = .ok payload →
    ∃ payload', other.controller = .ok payload' ∧ Reordered payload payload'
  virtualDrives : ∀ payload, probes.virtualDrives = .ok payload →
    ∃ payload', other.virtualDrives = .ok payload' ∧ Reordered payload payload'
  physicalDrives : ∀ payload, probes.physicalDrives = .ok payload →
    ∃ payload', other.physicalDrives = .ok payload' ∧ Reordered payload payload'
  cachevault : other.cachevault = probes.cachevault
  bbu : other.bbu = probes.bbu
  foreignConfig : other.foreignConfig = probes.foreignConfig
  patrolRead : other.patrolRead = probes.patrolRead
  consistencyCheck : other.consistencyCheck = probes.consistencyCheck
  consistencyProgress : other.consistencyProgress = probes.consistencyProgress

/-- The reading of the reordered payloads. -/
theorem collectInventory_reordered {probes other : Probes} (reordered : ReorderedProbes probes other)
    {reading : InventoryReading} (collected : collectInventory probes = .ok reading) :
    ∃ controllerPayload virtualPayload physicalPayload, Reordered reading.physicalDrivesPayload physicalPayload ∧
      collectInventory other = .ok { reading with
        controllerPayload := controllerPayload, virtualDrivesPayload := virtualPayload,
        physicalDrivesPayload := physicalPayload } := by
  obtain ⟨⟨controllerRead, virtualRead, physicalRead, cachevaultRead⟩, inventoried, cachevault, agree⟩ :=
    collectInventory_eq_ok.mp collected
  obtain ⟨controllerPayload, controllerRead', controllerOrder⟩ := reordered.controller _ controllerRead
  obtain ⟨virtualPayload, virtualRead', virtualOrder⟩ := reordered.virtualDrives _ virtualRead
  obtain ⟨physicalPayload, physicalRead', physicalOrder⟩ := reordered.physicalDrives _ physicalRead
  obtain ⟨response, responds, info, complete⟩ := inventoried.controller
  obtain ⟨_, _, _, _, _, _, identities⟩ := complete.identities
  obtain ⟨virtualUnique, physicalUnique⟩ := identities.unique
  obtain ⟨response', responds', perm, unique⟩ := controllerOrder.responds responds
  obtain ⟨virtual, virtualResponds, virtualParsed⟩ := inventoried.virtualDrives
  obtain ⟨virtual', virtualResponds', virtualPerm, virtualKeys⟩ := virtualOrder.responds virtualResponds
  obtain ⟨drives, virtualParsed', -, same⟩ := virtualDrivesOf_reordered virtualPerm virtualKeys virtualParsed
  obtain rfl := same virtualUnique
  obtain ⟨physical, physicalResponds, physicalParsed⟩ := inventoried.physicalDrives
  obtain ⟨physical', physicalResponds', physicalPerm, physicalKeys⟩ := physicalOrder.responds physicalResponds
  have physicalParsed' := physicalDrivesOf_reordered physicalPerm physicalKeys physicalParsed
    (nodup_location physicalUnique)
  refine ⟨controllerPayload, virtualPayload, physicalPayload, physicalOrder, collectInventory_eq_ok.mpr
    ⟨⟨controllerRead', virtualRead', physicalRead', reordered.cachevault.trans cachevaultRead⟩, ⟨?_, ?_, ?_⟩,
      cachevault, agree⟩⟩
  · exact ⟨response', responds', controllerInfoOf_eq_of_perm perm unique ▸ info, complete.reordered perm unique⟩
  · exact ⟨virtual', virtualResponds', virtualParsed'⟩
  · exact ⟨physical', physicalResponds', physicalParsed'⟩

/-! ## The retained positions -/

omit [PyText] [PyNumbers] [PyConversions] in
theorem physicalResponse_eq {payload : Value} {controller : Fields} (read : firstControllerFields payload = .ok controller) :
    physicalResponse payload = item "Response Data" (.obj controller) := by
  rw [firstControllerFields.eq_def] at read
  split at read
  · next fields =>
    split at read
    · next first rest found =>
      obtain rfl := Except.ok.inj read
      rw [physicalResponse, item_eq_ok.mpr found]
      rfl
    · cases read
  · cases read

omit [PyText] [PyNumbers] [PyConversions] in
theorem retainPosition_eq_of_perm {fields others : Fields} (perm : fields.Perm others)
    (unique : (fields.map Prod.fst).Nodup) : retainPosition (.obj fields) = retainPosition (.obj others) := by
  funext positions drive
  simp only [retainPosition, observedPosition, item_eq_of_perm perm unique]

omit [PyText] [PyNumbers] [PyConversions] in
theorem Reordered.physicalDrivePositions_eq {payload other : Value} (reordered : Reordered payload other)
    (drives : List PhysicalDrive) : physicalDrivePositions payload drives = physicalDrivePositions other drives := by
  obtain ⟨controller, controller', fields, fields', ⟨read, read'⟩, -, ⟨found, found'⟩, perm, unique⟩ :=
    reordered.responses
  rw [physicalDrivePositions, physicalDrivePositions, physicalResponse_eq read, physicalResponse_eq read',
    item_eq_ok.mpr found, item_eq_ok.mpr found']
  change (drives.foldlM (retainPosition (.obj fields)) [] >>= _) = (drives.foldlM (retainPosition (.obj fields')) [] >>= _)
  rw [retainPosition_eq_of_perm perm unique]

variable [Sha256]

/-- The order in which the firmware prints the tables of the inventory responses is not seen: the snapshot and the
compact row of an accepted poll are those of any other order. -/
theorem collected_reordered (probes other : Probes) (parsers : OperationParsers) (now : ℤ) (snapshot : StorcliSnapshot)
    (raw : Fields) (reordered : ReorderedProbes probes other)
    (returned : collectStorcliSnapshot probes parsers now = .ok (snapshot, raw)) :
    ∃ raw', collectStorcliSnapshot other parsers now = .ok (snapshot, raw') ∧ rawJson false raw' = rawJson false raw := by
  obtain ⟨reading, collected, returned⟩ := Except.bind_eq_ok returned
  obtain ⟨optional, optionalRead, returned⟩ := Except.bind_eq_ok returned
  obtain ⟨positions, retained, returned⟩ := Except.bind_eq_ok returned
  obtain ⟨patrolRead, patrol, returned⟩ := Except.bind_eq_ok returned
  obtain ⟨consistencyCheck, check, returned⟩ := Except.bind_eq_ok returned
  obtain ⟨rfl, rfl⟩ := Prod.mk.inj (Except.ok.inj returned)
  obtain ⟨controllerPayload, virtualPayload, physicalPayload, order, collected'⟩ :=
    collectInventory_reordered reordered collected
  have optionalRead' : collectOptional other = .ok optional := by
    rw [collectOptional, reordered.bbu, reordered.foreignConfig]
    exact optionalRead
  have patrol' : patrolReadState other parsers = .ok patrolRead := by
    rw [patrolReadState, reordered.patrolRead]
    exact patrol
  have check' : consistencyCheckState other parsers = .ok consistencyCheck := by
    rw [consistencyCheckState, reordered.consistencyCheck, reordered.consistencyProgress]
    exact check
  rw [order.physicalDrivePositions_eq] at retained
  refine ⟨rawPayload { reading with
    controllerPayload := controllerPayload, virtualDrivesPayload := virtualPayload,
    physicalDrivesPayload := physicalPayload } optional positions patrolRead consistencyCheck, ?_, ?_⟩
  · simp only [collectStorcliSnapshot, collected', optionalRead', retained, patrol', check', bind, Except.bind]
    rfl
  · rfl

end Order

/-! ### Two drives, printed the other way round -/

def reversedProbes : Probes :=
  { twoDriveProbes with
    controller := .ok (successful twoDrivesController.reverse)
    physicalDrives := .ok (successful twoDrives.reverse) }

theorem reordered_successful {response : Fields} (unique : (response.map Prod.fst).Nodup) {other : Fields}
    (perm : response.Perm other) : Reordered (successful response) (successful other) where
  single := rfl
  responses := ⟨_, _, response, other, ⟨rfl, rfl⟩, rfl, ⟨rfl, rfl⟩, perm, unique⟩

theorem twoDrives_reversed : ∃ snapshot raw raw',
    @collectStorcliSnapshot .ascii plainNumbers plainConversions zeroHash twoDriveProbes noParsers 0 =
      .ok (snapshot, raw) ∧
    @collectStorcliSnapshot .ascii plainNumbers plainConversions zeroHash reversedProbes noParsers 0 =
      .ok (snapshot, raw') := by
  obtain ⟨snapshot, raw, collected, -⟩ := twoDrives_collected
  have reordered : ReorderedProbes twoDriveProbes reversedProbes := by
    refine ⟨?_, ?_, ?_, rfl, rfl, rfl, rfl, rfl, rfl⟩
    · rintro _ ⟨⟩
      exact ⟨_, rfl, reordered_successful (by decide) (List.reverse_perm _).symm⟩
    · rintro _ ⟨⟩
      exact ⟨_, rfl, reordered_successful (by decide) (.refl _)⟩
    · rintro _ ⟨⟩
      exact ⟨_, rfl, reordered_successful (by decide) (List.reverse_perm _).symm⟩
  obtain ⟨raw', collected', -⟩ := @collected_reordered .ascii plainNumbers plainConversions zeroHash _ _ _ _ _ _
    reordered collected
  exact ⟨snapshot, raw, raw', collected, collected'⟩

end MegaraidDashboard.Storcli.Inventory
