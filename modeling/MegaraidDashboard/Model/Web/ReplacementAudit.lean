import MegaraidDashboard.Model.Db.Database
import MegaraidDashboard.Model.Python.Text

/-! # Replacement state in the audit log

The replacement cycle of a slot has no table of its own: the insert gate and the wizard read it off the
summaries of the audit events with LIKE patterns, which SQLite compares without regard to ASCII case.
-/

namespace MegaraidDashboard.Web

open Db

/-! ## Messages -/

inductive ReplaceStep where
  | offline
  | missing
deriving DecidableEq, Repr

def ReplaceStep.name : ReplaceStep → String
  | offline => "offline"
  | missing => "missing"

/-- `{enclosure_id}:{slot_id}`, of the numbers of a route or of those of a snapshot. -/
def slotReference {α : Type} [ToString α] (enclosureId slotId : α) : String :=
  toString enclosureId ++ ":" ++ toString slotId

/-- `f"drive {enclosure_id}:{slot_id}"` -/
def slotToken {α : Type} [ToString α] (enclosureId slotId : α) : String := "drive " ++ slotReference enclosureId slotId

/-- The message of `_record_replace_operator_action_sync`. -/
def replaceMessage (step : ReplaceStep) (enclosureId slotId : ℕ) (serial outcome : String) : String :=
  "replace step " ++ step.name ++ " " ++ slotToken enclosureId slotId ++ " serial " ++ serial ++ " " ++ outcome

/-- The message of `_record_insert_operator_action_sync`. -/
def insertMessage (enclosureId slotId : ℕ) (serial : String) (dg array row : ℕ) (outcome : String) : String :=
  "replace step insert " ++ slotToken enclosureId slotId ++ " serial " ++ serial ++ " dg=" ++ toString dg ++
    " array=" ++ toString array ++ " row=" ++ toString row ++ " " ++ outcome

/-- The message of `_record_locate_operator_action_sync`; the action is `start` or `stop`. -/
def locateMessage (action : String) (enclosureId slotId : ℕ) (outcome : String) : String :=
  "locate " ++ action ++ " " ++ slotToken enclosureId slotId ++ " " ++ outcome

/-! ## The insert gate -/

/-- `{"read_only_precheck": "replace_insert"}` -/
def readOnlyPrecheckMarker : Payload := [("read_only_precheck", .str "replace_insert")]

/-- `after_json["read_only_precheck"]` is `replace_insert`. -/
def isReadOnlyPrecheck (event : Event) : Bool :=
  (event.afterJson.bind fun after => after.get "read_only_precheck") == some (.str "replace_insert")

/-- What LIKE compares with a pattern: the text before its first NUL, in lower case. -/
def likeText (text : String) : String :=
  asciiLower (String.ofList (text.toList.takeWhile fun char => char != Char.ofNat 0))

/-- The rows that `_load_last_operator_action_for_slot` selects; `fullSupportedActions` is the capability. -/
def gateSelects (fullSupportedActions : Bool) (enclosureId slotId : ℕ) (event : Event) : Bool :=
  let summary := likeText event.summary
  let token := likeText (slotToken enclosureId slotId)
  event.category == .operatorAction && !isReadOnlyPrecheck event &&
    (Py.contains summary (token ++ " ") || Py.endsWith summary token) &&
    !(fullSupportedActions && Py.startsWith summary "locate ")

/-- `_load_last_operator_action_for_slot` -/
def loadLastOperatorActionForSlot (fullSupportedActions : Bool) (log : List Event) (enclosureId slotId : ℕ) :
    Option Event :=
  (log.filter (gateSelects fullSupportedActions enclosureId slotId)).latest? (·.occurredAt)

/-- `\d+:\d+` -/
def isSlotReference (word : List Char) : Bool :=
  match word.splitOn ':' with
  | [enclosure, slot] => !enclosure.isEmpty && enclosure.all Char.isDigit && !slot.isEmpty && slot.all Char.isDigit
  | _ => false

/-- `_REPLACE_STEP_MISSING_SUCCESS_RE`, word by word: no part of the pattern matches a blank. -/
def replaceStepMissingSucceeded (message : String) : Bool :=
  match message.toList.splitOn ' ' with
  | [replace, step, missing, drive, reference, serial, number, succeeded] =>
    replace == "replace".toList && step == "step".toList && missing == "missing".toList &&
      drive == "drive".toList && isSlotReference reference && serial == "serial".toList &&
      !number.isEmpty && (number.all fun char => !Py.isSpace char) && succeeded == "succeeded".toList
  | _ => false

/-- `can_transition_step3` -/
def canTransitionStep3 (latestAuditMessage : Option String) : Bool :=
  latestAuditMessage.any replaceStepMissingSucceeded

/-- The decision of `drive_replace_insert` on the last audit event of the slot. -/
def insertGateOpen (fullSupportedActions : Bool) (log : List Event) (enclosureId slotId : ℕ) : Bool :=
  canTransitionStep3 ((loadLastOperatorActionForSlot fullSupportedActions log enclosureId slotId).map (·.summary))

/-! ## The wizard -/

/-- The first part somewhere in the text and the second one behind it: `LIKE '%first%second%'`. -/
def containsInOrder (text first second : String) : Bool :=
  text.toList.tails.any fun tail => first.toList.isPrefixOf tail &&
    ((tail.drop first.toList.length).tails.any fun rest => second.toList.isPrefixOf rest)

/-- `_REPLACE_EVENT_STEP_BY_CATEGORY` -/
def replaceEventStepByCategory : Category → Option ℕ
  | .driveReplaceBegin => some 1
  | .driveReplaceOffline => some 2
  | .driveReplaceMissing => some 2
  | .driveReplaceInsertPending => some 3
  | _ => none

/-- The rows that `_latest_replace_step` selects; those of the categories `drive_replace_*` whatever their slot. -/
def wizardSelects (enclosureId slotId : ℕ) (event : Event) : Bool :=
  (replaceEventStepByCategory event.category).isSome ||
    (event.category == .operatorAction &&
      containsInOrder (likeText event.summary) "replace step" (likeText (slotToken enclosureId slotId)))

/-- The step that a selected row stands for. -/
def replaceStepOf (event : Event) : Option ℕ :=
  if event.category == .driveReplaceCompleted || Py.contains event.summary "replace step insert" then none
  else if (replaceEventStepByCategory event.category).isSome then replaceEventStepByCategory event.category
  else if Py.contains event.summary "replace step missing" || Py.contains event.summary "replace step offline" then
    some 2
  else none

/-- `_latest_replace_step` -/
def latestReplaceStep (log : List Event) (enclosureId slotId : ℕ) : Option ℕ :=
  ((log.filter (wizardSelects enclosureId slotId)).latest? (·.occurredAt)).bind replaceStepOf

end MegaraidDashboard.Web
