import MegaraidDashboard.Model.Web.ForeignConfigRequests
import MegaraidDashboard.Soundness.ForeignRows

/-! # Confirming a foreign configuration

The digest of a present configuration is a summary, a dash and the 64 digits of a fingerprint. Both request bodies
accept it exactly when the rows of the payload leave room for these; the fingerprint tells different Response Data apart
whatever the summaries say.
-/

namespace MegaraidDashboard.Web

open Storcli JsonText

/-! ## The length of a summary -/

/-- The characters in the list of the disk groups. -/
def groupsLength (groups : List ForeignConfigDiskGroup) : ℕ :=
  if groups = [] then 0
  else 2 + (groups.map fun group => 4 + (toString group.dgId).length + (toString group.driveCount).length).sum

section Length

theorem length_dgToken (group : ForeignConfigDiskGroup) :
    (dgToken group).length = 3 + (toString group.dgId).length + (toString group.driveCount).length := by
  delta dgToken
  rw [String.length_append, String.length_append, String.length_append]
  change 2 + _ + 1 + _ = _
  omega

theorem length_intercalate (first : String) (rest : List String) :
    (",".intercalate (first :: rest)).length = first.length + (rest.map fun token => token.length + 1).sum := by
  induction rest generalizing first with
  | nil => rfl
  | cons second rest ih =>
    rw [String.intercalate_cons_cons, String.length_append, String.length_append, ih, List.map_cons, List.sum_cons]
    change _ + 1 + _ = _
    omega

theorem length_summaryText (summary : ForeignSummary) (size : String) :
    (summaryText summary size).length = 9 + (toString summary.dgCount).length +
      (toString summary.driveCount).length + size.length + groupsLength summary.diskGroups := by
  delta summaryText
  rw [groupsLength]
  cases summary.diskGroups with
  | nil =>
    simp only [List.map_nil, ↓reduceIte, String.length_append]
    change 5 + _ + 3 + _ + 1 + _ = _
    omega
  | cons group groups =>
    have tokens : ((groups.map dgToken).map fun token => token.length + 1).sum =
        (groups.map fun group => 4 + (toString group.dgId).length + (toString group.driveCount).length).sum := by
      rw [List.map_map]
      congr 1
      apply List.map_congr_left
      intro group _
      simp only [Function.comp_apply, length_dgToken]
      omega
    simp only [List.map_cons, reduceCtorEq, ↓reduceIte, String.length_append, length_intercalate, tokens, length_dgToken,
      List.sum_cons]
    change 5 + _ + 3 + _ + 1 + _ + 2 + _ + 1 = _
    omega

end Length

section Ends

/-- A text is stripped already when both its ends are solid. -/
theorem strip_eq_self {text : String} {first last : Char} {rest start : List Char}
    (front : text.toList = first :: rest) (back : text.toList = start ++ [last])
    (firstSolid : Py.isSpace first = false) (lastSolid : Py.isSpace last = false) : Py.strip text = text := by
  rw [Py.strip, front, List.dropWhile_cons_of_neg (by simp [firstSolid]), ← front, back, List.reverse_append,
    List.reverse_singleton, List.singleton_append, List.dropWhile_cons_of_neg (by simp [lastSolid]),
    List.reverse_cons, List.reverse_reverse, ← back, String.ofList_toList]

theorem summaryText_front (summary : ForeignSummary) (size : String) :
    ∃ rest, (summaryText summary size).toList = 'F' :: rest := by
  delta summaryText
  cases summary.diskGroups with
  | nil => exact ⟨_, by simp only [List.map_nil, String.toList_append]; rfl⟩
  | cons group groups => exact ⟨_, by simp only [List.map_cons, String.toList_append]; rfl⟩

end Ends

section Confirmation

variable [PyText] [PyNumbers]

/-- The Response Data of a payload. -/
def responseData? (payload : Value) : Option Value :=
  match firstControllerFields payload with
  | .ok controller => controller.get "Response Data"
  | .error _ => none

/-- The characters of a size: `UNKNOWN`, or the gigabytes and `GB`. -/
def sizeWidth : Option ℤ → ℕ
  | none => 7
  | some bytes =>
    match PyNumbers.roundQuotient bytes (10 ^ 9) with
    | .ok gigabytes => (toString (max 0 gigabytes)).length + 2
    | .error _ => 0

/-- The characters in the list of the ids with their drives. -/
def idsWidth (response : Fields) : ℕ :=
  if groupIds response = [] then 0
  else 2 + ((groupIds response).map fun id =>
    4 + (toString id).length + (toString (drivesAmong (foreignDrives response) id)).length).sum

/-- The characters of what the rows tell the operator, with the marks between them. -/
def toldWidth (response : Fields) : ℕ :=
  9 + (toString (toldCounts response).1).length + (toString (toldCounts response).2).length +
    sizeWidth (totalSize response) + idsWidth response

/-- What the rows tell the operator leaves room for a dash and 64 digits in 200 characters. -/
def FitsConfirmation (payload : Value) : Prop :=
  ∀ response, responseData? payload = some (.obj response) → toldWidth response + 65 ≤ 200

variable [Sha256]

/-- The hash tells the two Response Data apart. No hash of 64 digits does so for all texts at once. -/
def HashesApart (first second : Value) : Prop :=
  ∀ data other text otherText, responseData? first = some data → responseData? second = some other →
    dumps data = some text → dumps other = some otherText →
    Sha256.hexdigest text = Sha256.hexdigest otherText → text = otherText

/-- The operator can confirm what the payload says, and nothing else with the same words. -/
structure Confirmable (payload : Value) (config : ForeignConfig) : Prop where
  confirmsImport : ∀ dryRun, ∃ body live, ForeignConfigImportRequest.validate config.digest dryRun = .ok body ∧
    parseForeignConfig payload = .ok live ∧ body.confirmation = live.digest
  confirmsClear : ∀ dryRun, ∃ body live,
    ForeignConfigClearRequest.validate foreignConfigClearConfirmation config.digest dryRun = .ok body ∧
      parseForeignConfig payload = .ok live ∧ body.digest = live.digest
  discriminates : ∀ other otherConfig, parseForeignConfig other = .ok otherConfig → otherConfig.present = true →
    HashesApart payload other → (∀ data otherData, responseData? payload = some data →
      responseData? other = some otherData → ¬ Same data otherData) → config.digest ≠ otherConfig.digest

/-- How a present configuration was read. -/
structure ForeignReading (payload : Value) (config : ForeignConfig) (response : Fields) (summary : ForeignSummary)
    (size : String) (text : List Char) : Prop where
  data : responseData? payload = some (.obj response)
  summarised : foreignSummary response = .ok (some summary)
  sized : sizeToken summary.totalSizeBytes = .ok size
  encoded : dumps (.obj response) = some text
  digest : config.digest = summaryText summary size ++ "-" ++ String.ofList (Sha256.hexdigest text)

theorem foreignConfigOf_present {response : Fields} {config : ForeignConfig}
    (parsed : foreignConfigOf response = .ok config) (present : config.present = true) :
    ∃ summary size text, foreignSummary response = .ok (some summary) ∧
      sizeToken summary.totalSizeBytes = .ok size ∧ dumps (.obj response) = some text ∧
      config.digest = summaryText summary size ++ "-" ++ String.ofList (Sha256.hexdigest text) := by
  obtain ⟨found, summarised, parsed⟩ := Except.bind_eq_ok parsed
  cases found with
  | none =>
    obtain rfl := Except.ok.inj parsed
    cases present
  | some summary =>
    obtain ⟨short, digested, parsed⟩ := Except.bind_eq_ok parsed
    obtain ⟨digest, fingerprinted, parsed⟩ := Except.bind_eq_ok parsed
    obtain ⟨size, sized, digested⟩ := Except.bind_eq_ok digested
    obtain rfl := Except.ok.inj parsed
    obtain rfl := Except.ok.inj digested
    cases encoded : dumps (.obj response) with
    | none =>
      delta foreignMetadataDigest at fingerprinted
      rw [encoded] at fingerprinted
      cases fingerprinted
    | some text =>
      delta foreignMetadataDigest at fingerprinted
      rw [encoded] at fingerprinted
      exact ⟨summary, size, text, summarised, sized, rfl, (Except.ok.inj fingerprinted).symm⟩

/-- A present configuration comes from Response Data, and its digest from a summary and a fingerprint of them. -/
theorem exists_reading {payload : Value} {config : ForeignConfig} (parsed : parseForeignConfig payload = .ok config)
    (present : config.present = true) : ∃ response summary size text, ForeignReading payload config response summary size text := by
  obtain ⟨controller, first, parsed⟩ := Except.bind_eq_ok parsed
  obtain ⟨status, -, parsed⟩ := Except.bind_eq_ok parsed
  split at parsed
  · split at parsed
    · obtain rfl := Except.ok.inj parsed
      cases present
    · cases parsed
  · obtain ⟨-, -, parsed⟩ := Except.bind_eq_ok parsed
    have empty : foreignSummary ([] : Fields) = .ok none := rfl
    cases data : controller.get "Response Data" with
    | none =>
      rw [data] at parsed
      obtain ⟨summary, _, _, summarised, -⟩ := foreignConfigOf_present parsed present
      rw [empty] at summarised
      cases summarised
    | some data' =>
      rw [data] at parsed
      cases data' with
      | obj response =>
        obtain ⟨summary, size, text, summarised, sized, encoded, digest⟩ := foreignConfigOf_present parsed present
        have read : responseData? payload = some (.obj response) := by
          rw [responseData?, first]
          exact data
        exact ⟨response, summary, size, text, read, summarised, sized, encoded, digest⟩
      | scalar value =>
        obtain rfl := Except.ok.inj parsed
        cases present
      | str value =>
        obtain rfl := Except.ok.inj parsed
        cases present
      | arr value =>
        obtain rfl := Except.ok.inj parsed
        cases present

variable {payload : Value} {config : ForeignConfig} {response : Fields} {summary : ForeignSummary} {size : String}
  {text : List Char}

theorem ForeignReading.length_digest (reading : ForeignReading payload config response summary size text) :
    config.digest.length = (summaryText summary size).length + 65 := by
  have fingerprint : (String.ofList (Sha256.hexdigest text)).length = 64 := by
    rw [String.length_ofList, Sha256.length_hexdigest]
  rw [reading.digest, String.length_append, String.length_append, fingerprint]
  rfl

omit [PyText] [Sha256] in
theorem length_sizeToken {total : Option ℤ} {size : String} (shown : sizeToken total = .ok size) :
    size.length = sizeWidth total := by
  cases total with
  | none =>
    obtain rfl := Except.ok.inj shown
    rfl
  | some bytes =>
    delta sizeToken at shown
    rw [sizeWidth]
    dsimp only at shown
    cases rounded : PyNumbers.roundQuotient bytes (10 ^ 9) with
    | error error =>
      rw [rounded] at shown
      cases shown
    | ok gigabytes =>
      rw [rounded] at shown
      obtain rfl := Except.ok.inj shown
      rw [String.length_append]
      rfl

omit [Sha256] in
theorem groupsLength_of_perm {groups : List ForeignConfigDiskGroup}
    (perm : groups.Perm
      (entriesOf (groupIds response) (drivesAmong (foreignDrives response)) (sizeAmong (groupRows response)))) :
    groupsLength groups = idsWidth response := by
  have none : groups = [] ↔ groupIds response = [] := by
    rw [← List.length_eq_zero_iff, perm.length_eq, entriesOf, List.length_map, List.length_eq_zero_iff]
  rw [groupsLength, idsWidth]
  simp only [none]
  rw [(perm.map _).sum_eq, entriesOf, List.map_map]
  rfl

theorem ForeignReading.fits_iff (reading : ForeignReading payload config response summary size text) :
    FitsConfirmation payload ↔ config.digest.length ≤ 200 := by
  have told := summarises_of_foreignSummary reading.summarised
  have groups : summary.dgCount = (toldCounts response).1 := congrArg Prod.fst told.counts
  have drives : summary.driveCount = (toldCounts response).2 := congrArg Prod.snd told.counts
  have width : (summaryText summary size).length = toldWidth response := by
    rw [length_summaryText, groups, drives, length_sizeToken reading.sized, told.size, groupsLength_of_perm told.groups]
    rfl
  rw [reading.length_digest, width, FitsConfirmation, reading.data]
  constructor
  · exact fun fits => fits response rfl
  · rintro fits _ ⟨⟩
    exact fits

omit [PyText] [PyNumbers] in
theorem hexdigest_back (data : List Char) :
    ∃ start last, Sha256.hexdigest data = start ++ [last] ∧ Py.isSpace last = false := by
  have some_ : Sha256.hexdigest data ≠ [] := by
    intro empty
    have length := Sha256.length_hexdigest data
    rw [empty] at length
    cases length
  have solid : ∀ c ∈ "0123456789abcdef".toList, Py.isSpace c = false := by decide
  refine ⟨_, _, (List.dropLast_append_getLast some_).symm, ?_⟩
  exact solid _ (Sha256.hexdigest_hex data _ (List.getLast_mem some_))

theorem ForeignReading.digest_chars (reading : ForeignReading payload config response summary size text) :
    config.digest.toList = (summaryText summary size).toList ++ '-' :: Sha256.hexdigest text := by
  have fingerprint : (String.ofList (Sha256.hexdigest text)).toList = Sha256.hexdigest text := String.toList_ofList
  rw [reading.digest, String.toList_append, String.toList_append, fingerprint, List.append_assoc]
  rfl

/-- A digest starts with a letter and ends with a hexadecimal digit. -/
theorem ForeignReading.strip_digest (reading : ForeignReading payload config response summary size text) :
    Py.strip config.digest = config.digest ∧ config.digest ≠ "" := by
  obtain ⟨rest, front⟩ := summaryText_front summary size
  obtain ⟨start, last, back, solid⟩ := hexdigest_back text
  have first : config.digest.toList = 'F' :: (rest ++ '-' :: Sha256.hexdigest text) := by
    rw [reading.digest_chars, front, List.cons_append]
  have ends : config.digest.toList = ((summaryText summary size).toList ++ '-' :: start) ++ [last] := by
    rw [reading.digest_chars, back, List.append_assoc, List.cons_append]
  refine ⟨strip_eq_self first ends (by decide) solid, ?_⟩
  intro empty
  rw [empty] at first
  cases first

/-- Two fingerprints that end the same digest are the same. -/
theorem ForeignReading.hexdigest_eq {other : Value} {otherConfig : ForeignConfig} {otherResponse : Fields}
    {otherSummary : ForeignSummary} {otherSize : String} {otherText : List Char}
    (reading : ForeignReading payload config response summary size text)
    (otherReading : ForeignReading other otherConfig otherResponse otherSummary otherSize otherText)
    (same : config.digest = otherConfig.digest) : Sha256.hexdigest text = Sha256.hexdigest otherText := by
  have chars := congrArg String.toList same
  rw [reading.digest_chars, otherReading.digest_chars] at chars
  have lengths : ('-' :: Sha256.hexdigest text).length = ('-' :: Sha256.hexdigest otherText).length := by
    rw [List.length_cons, List.length_cons, Sha256.length_hexdigest, Sha256.length_hexdigest]
  exact (List.cons.inj (List.append_inj' chars lengths).2).2

/-! ## The request bodies -/

omit [PyText] [PyNumbers] [Sha256] in
theorem lengthError_eq_none {text : String} {low high : ℕ} :
    lengthError text low high = none ↔ low ≤ text.length ∧ text.length ≤ high := by
  rw [lengthError]
  split_ifs with short long
  · exact ⟨fun none => (nomatch none), fun ⟨enough, _⟩ => absurd short (not_lt.mpr enough)⟩
  · exact ⟨fun none => (nomatch none), fun ⟨_, fits⟩ => absurd long (not_lt.mpr fits)⟩
  · exact ⟨fun _ => ⟨not_lt.mp short, not_lt.mp long⟩, fun _ => rfl⟩

omit [PyText] [PyNumbers] [Sha256] in
/-- A solid text passes the import body unchanged, if it is not too long. -/
theorem importRequest_of_length {digest : String} (solid : Py.strip digest = digest) (some_ : digest ≠ "")
    (fits : digest.length ≤ 200) (dryRun : Bool) :
    ∃ body, ForeignConfigImportRequest.validate digest dryRun = .ok body ∧ body.confirmation = digest := by
  have positive : 1 ≤ digest.length := by
    rw [Nat.one_le_iff_ne_zero]
    exact fun zero => some_ (String.length_eq_zero_iff.mp zero)
  have notBlank : Py.strip digest ≠ "" := solid.symm ▸ some_
  rw [ForeignConfigImportRequest.validate, lengthError_eq_none.mpr ⟨positive, fits⟩]
  simp only [dif_neg notBlank]
  exact ⟨_, rfl, solid⟩

omit [PyText] [PyNumbers] [Sha256] in
theorem length_of_importRequest {digest : String} {dryRun : Bool} {body : ForeignConfigImportRequest}
    (accepted : ForeignConfigImportRequest.validate digest dryRun = .ok body) : digest.length ≤ 200 := by
  rw [ForeignConfigImportRequest.validate] at accepted
  split at accepted
  · cases accepted
  · next fits => exact (lengthError_eq_none.mp fits).2

omit [PyText] [PyNumbers] [Sha256] in
theorem clearRequest_of_length {digest : String} (fits : digest.length ≤ 200) (dryRun : Bool) :
    ForeignConfigClearRequest.validate foreignConfigClearConfirmation digest dryRun =
      .ok ⟨foreignConfigClearConfirmation, digest, dryRun⟩ := by
  have phrase : lengthError foreignConfigClearConfirmation 1 200 = none := by decide
  rw [ForeignConfigClearRequest.validate, phrase, lengthError_eq_none.mpr ⟨Nat.zero_le _, fits⟩]

/-- Different Response Data have different digests, whatever their summaries say. -/
theorem ForeignReading.digest_ne {other : Value} {otherConfig : ForeignConfig}
    (reading : ForeignReading payload config response summary size text)
    (parsed : parseForeignConfig other = .ok otherConfig) (present : otherConfig.present = true)
    (apart : HashesApart payload other) (differ : ∀ data otherData, responseData? payload = some data →
      responseData? other = some otherData → ¬ Same data otherData) : config.digest ≠ otherConfig.digest := by
  intro same
  obtain ⟨otherResponse, otherSummary, otherSize, otherText, otherReading⟩ := exists_reading parsed present
  have texts := apart _ _ _ _ reading.data otherReading.data reading.encoded otherReading.encoded
    (reading.hexdigest_eq otherReading same)
  have back := otherReading.encoded
  rw [← texts] at back
  exact differ _ _ reading.data otherReading.data (same_of_dumps_eq reading.encoded back)

theorem Confirmable.fits (confirmable : Confirmable payload config) (parsed : parseForeignConfig payload = .ok config)
    (present : config.present = true) : FitsConfirmation payload := by
  obtain ⟨response, summary, size, text, reading⟩ := exists_reading parsed present
  obtain ⟨body, live, accepted, -⟩ := confirmable.confirmsImport false
  exact reading.fits_iff.mpr (length_of_importRequest accepted)

/-- A present configuration can be confirmed exactly when its rows leave room for the fingerprint. -/
theorem foreign_config_confirmable_iff (parsed : parseForeignConfig payload = .ok config)
    (present : config.present = true) : Confirmable payload config ↔ FitsConfirmation payload := by
  constructor
  · exact fun confirmable => confirmable.fits parsed present
  · intro room
    obtain ⟨response, summary, size, text, reading⟩ := exists_reading parsed present
    have fits := reading.fits_iff.mp room
    obtain ⟨solid, some_⟩ := reading.strip_digest
    constructor
    · intro dryRun
      obtain ⟨body, accepted, unchanged⟩ := importRequest_of_length solid some_ fits dryRun
      exact ⟨body, config, accepted, parsed, unchanged⟩
    · intro dryRun
      exact ⟨_, config, clearRequest_of_length fits dryRun, parsed, rfl⟩
    · intro other otherConfig otherParsed otherPresent apart differ
      exact reading.digest_ne otherParsed otherPresent apart differ

end Confirmation

section Examples

/-- Conversions that know whole numbers only. -/
@[reducible] private def wholeNumbers : PyNumbers where
  int := String.toInt?
  truncate value := readInt (value.chars.takeWhile (· != '.'))
  intOfFloat text := text.toInt?.elim (.error .valueError) .ok
  intOfDecimal text multiplier := text.toInt?.elim (.error .valueError) fun value => .ok (value * multiplier)
  roundQuotient numerator denominator := .ok ((2 * numerator + denominator) / (2 * denominator))
  str value := String.ofList value.text

/-- A successful answer with this many disk groups of one drive. -/
private def foreignResponse (count : ℕ) : Fields :=
  [("FOREIGN DG LIST", .arr ((List.range count).map fun n =>
      .obj [("DG", .scalar (.int n)), ("Type", .str "RAID0")])),
    ("FOREIGN PD LIST", .arr ((List.range count).map fun n =>
      .obj [("DID", .scalar (.int n)), ("DG", .scalar (.int n))]))]

private def foreignPayload (count : ℕ) : Value :=
  .obj [("Controllers", .arr [.obj [
    ("Command Status", .obj [("Controller", .scalar (.int 0)), ("Status", .str "Success")]),
    ("Response Data", .obj (foreignResponse count))]])]

private def oneGroupText : List Char :=
  ("\x7b\"FOREIGN DG LIST\":[\x7b\"DG\":0,\"Type\":\"RAID0\"\x7d]," ++
    "\"FOREIGN PD LIST\":[\x7b\"DG\":0,\"DID\":0\x7d]\x7d").toList

example : (Value.obj (foreignResponse 1)).canonical = oneGroupText := by decide

/-- The SHA-256 digests of the two answers below. -/
private def knownDigest (data : List Char) : String :=
  if data = oneGroupText then "3e72d31b8d37386c8248dd6acd35916b1f860ab66f02eaa376891adef83cbba9"
  else if data = (Value.obj (foreignResponse 18)).canonical then
    "0d4ff07e809b9cc514d5ebebe6e5b926d022f524b1dda50dcd532b6990589fbb"
  else "e3b0c44298fc1c149afbf4c8996fb92427ae41e4649b934ca495991b7852b855"

@[reducible] private def knownSha : Sha256 where
  hexdigest data := (knownDigest data).toList
  length_hexdigest data := by
    rw [knownDigest]
    split_ifs <;> rfl
  hexdigest_hex data := by
    rw [knownDigest]
    split_ifs <;> decide

private def oneGroup : ForeignConfig where
  present := true
  dgCount := 1
  driveCount := 1
  totalSizeBytes := none
  diskGroups := [⟨0, 1, none⟩]
  digest := "FC-DG1-PD1-UNKNOWN-[dg0:1]-3e72d31b8d37386c8248dd6acd35916b1f860ab66f02eaa376891adef83cbba9"

set_option maxRecDepth 4000 in
theorem foreign_config_confirmable_one_group :
    let _ := PyText.ascii
    let _ := wholeNumbers
    let _ := knownSha
    Confirmable (foreignPayload 1) oneGroup ↔ FitsConfirmation (foreignPayload 1) := by
  let _ := PyText.ascii
  let _ := wholeNumbers
  let _ := knownSha
  exact foreign_config_confirmable_iff (by decide) (by decide)

/-- Eighteen disk groups of one drive each cannot be confirmed: the digest would have 203 characters. -/
theorem not_foreign_config_confirmable : ¬ ∀ (_ : PyText) (_ : PyNumbers) (_ : Sha256) (payload : Value)
    (config : ForeignConfig), parseForeignConfig payload = .ok config → config.present = true →
    Confirmable payload config := by
  intro claim
  let _ := PyText.ascii
  let _ := wholeNumbers
  let _ := knownSha
  have answered : (parseForeignConfig (foreignPayload 18)).toOption.map (·.present) = some true := by decide
  have long : toldWidth (foreignResponse 18) = 138 := by decide
  obtain ⟨config, found, present⟩ := Option.map_eq_some_iff.mp answered
  have parsed : parseForeignConfig (foreignPayload 18) = .ok config := by
    cases answer : parseForeignConfig (foreignPayload 18) with
    | error error => rw [answer] at found; cases found
    | ok other => rw [answer] at found; exact congrArg Except.ok (Option.some.inj found)
  have fits := (claim _ _ _ _ _ parsed present).fits parsed present
  have room := fits (foreignResponse 18) rfl
  omega

end Examples

end MegaraidDashboard.Web
