import MegaraidDashboard.Model.Storcli.Policy
import MegaraidDashboard.Model.Web.Middleware
import MegaraidDashboard.Model.Web.WriteRoutes

/-! # The policy check of a write request

Where a request arrives, what the gate in front of the handlers asks the policy about it, and what the handler can make
of it. The path stands below the prefix of the deployment; the validator of that prefix lets no colon in.
-/

namespace MegaraidDashboard.Web

open Storcli

/-- The prefix of the deployment. -/
structure MountPath where
  text : String
  safe : text = "" ∨ isSafeForwardedPrefix text = true

namespace WriteRoute

/-- `/drives/{enclosure}:{slot}/...` -/
def drivePath (mount : String) (enclosureId slotId : ℕ) (action : String) : String :=
  mount ++ "/drives/" ++ toString enclosureId ++ ":" ++ toString slotId ++ "/" ++ action

/-- `request.url.path` -/
def path (mount : String) : WriteRoute → String
  | locate .start enclosureId slotId => drivePath mount enclosureId slotId "locate/start"
  | locate .stop enclosureId slotId => drivePath mount enclosureId slotId "locate/stop"
  | replaceStep .offline enclosureId slotId => drivePath mount enclosureId slotId "replace/offline"
  | replaceStep .missing enclosureId slotId => drivePath mount enclosureId slotId "replace/missing"
  | replaceInsert enclosureId slotId _ _ _ => drivePath mount enclosureId slotId "replace/insert"
  | advancedDriveAction .markUbad enclosureId slotId => drivePath mount enclosureId slotId "actions/mark-ubad"
  | advancedDriveAction .markUgood enclosureId slotId => drivePath mount enclosureId slotId "actions/mark-ugood"
  | advancedDriveAction .spinDown enclosureId slotId => drivePath mount enclosureId slotId "actions/spindown"
  | advancedDriveAction (.makeHotSpare _) enclosureId slotId => drivePath mount enclosureId slotId "actions/hotspare"
  | patrolRead .start => mount ++ "/controller/patrol-read/start"
  | patrolRead .stop => mount ++ "/controller/patrol-read/stop"
  | patrolRead (.mode _) => mount ++ "/controller/patrol-read/mode"
  | consistencyCheck (.start _) => mount ++ "/controller/consistency-check/start"
  | consistencyCheck .stop => mount ++ "/controller/consistency-check/stop"
  | consistencyCheck (.mode _) => mount ++ "/controller/consistency-check/mode"
  | buzzer .silence => mount ++ "/controller/buzzer/silence"
  | buzzer .disable => mount ++ "/controller/buzzer/disable"
  | buzzer .enable => mount ++ "/controller/buzzer/enable"
  | foreignConfig .importForeign => mount ++ "/controller/foreign-config/import"
  | foreignConfig .clear => mount ++ "/controller/foreign-config/clear"

/-- The bounds of the request bodies and of the command builders. -/
def InRange : WriteRoute → Prop
  | locate _ enclosureId slotId => enclosureId ≤ 255 ∧ slotId ≤ 255
  | replaceStep _ enclosureId slotId => enclosureId ≤ 255 ∧ slotId ≤ 255
  | replaceInsert enclosureId slotId dg array row =>
    enclosureId ≤ 255 ∧ slotId ≤ 255 ∧ dg ≤ 63 ∧ array ≤ 63 ∧ row ≤ 255
  | advancedDriveAction (.makeHotSpare dgId) enclosureId slotId => enclosureId ≤ 255 ∧ slotId ≤ 255 ∧ dgId ≤ 63
  | advancedDriveAction _ enclosureId slotId => enclosureId ≤ 255 ∧ slotId ≤ 255
  | consistencyCheck (.start vdId) => ∀ id ∈ vdId, id ≤ 255
  | _ => True

/-- The argument vectors that the handler can build for the request: the insert position comes from the snapshot, all
else from the path and the body. -/
def HandlerBuilds (args : List String) : WriteRoute → Prop
  | replaceInsert enclosureId slotId _ _ _ => ∃ dg array row,
      (replaceInsert enclosureId slotId dg array row).InRange ∧ args = (replaceInsert enclosureId slotId dg array row).argv
  | route => route.InRange ∧ args = route.argv

/-- `_requested_approval_command` -/
def requestedApprovalCommand : WriteRoute → Except String (Option (List String))
  | patrolRead (.mode mode) => .ok (some (patrolRead (.mode mode)).argv)
  | consistencyCheck (.mode mode) => .ok (some (consistencyCheck (.mode mode)).argv)
  | consistencyCheck (.start vdId) =>
    if vdId.all fun id => decide (id ≤ 255) then .ok (some (consistencyCheck (.start vdId)).argv)
    else .error "Invalid action request. Review the selected option."
  | _ => .ok none

/-- The policy check of `require_controller_capability`. -/
def policyRefusal (policy : PolicyContent) (mount : String) (route : WriteRoute) : Option String :=
  match route.requestedApprovalCommand with
  | .error detail => some detail
  | .ok selected =>
    if route.name ∈ ["drive_replace_offline", "drive_replace_missing", "drive_replace_insert"] then
      policy.replacementRefusal (route.path mount)
    else policy.actionRefusal (route.path mount) selected

end WriteRoute

/-- The runner's own checks of an argument vector. -/
def RunnerAccepts [PyDigits] (policy : PolicyContent) (args : List String) : Prop :=
  validateCommand (withJsonFlag args) = .ok () ∧ policy.replacementCommandRefusal (withJsonFlag args) = none ∧
    policy.permits (withJsonFlag args) = true

end MegaraidDashboard.Web
