import MegaraidDashboard.Model.Storcli.Parser
import MegaraidDashboard.Model.Web.ReplaceInsert

/-! # The outcome of a replacement step in its message

A step is recorded with the word `succeeded`, or with the error text of the failure in one line. The serial
number in the message is the one that the snapshot and the live drive agree on.
-/

namespace MegaraidDashboard.Web

open Storcli

/-- `PhysicalDrive.strip_serial_number` -/
def stripSerialNumber : Json → Except PyError String
  | .str value => .ok (Py.strip value)
  | _ => .error .typeError

/-- `_AUDIT_DETAIL_MAX_LEN` -/
def auditDetailMaxLen : ℕ := 200

/-- `_truncate_audit_detail` -/
def truncateAuditDetail (text : String) : String :=
  let collapsed := " ".intercalate (splitWords text)
  if collapsed.toList.length ≤ auditDetailMaxLen then collapsed
  else String.ofList (collapsed.toList.take (auditDetailMaxLen - 1)) ++ "…"

/-- `type(exc).__name__` -/
def errorName : StorcliErrorKind → String
  | .commandFailed => "StorcliCommandFailed"
  | .notAvailable => "StorcliNotAvailable"
  | .parseError => "StorcliParseError"
  | .responseFailed => "StorcliResponseFailed"

/-- What failed in `_run_replace_step`, with `str(exc)`. -/
inductive ReplaceFailure where
  | precheck (error : String)
  | command (kind : StorcliErrorKind) (error : String)
deriving DecidableEq, Repr

def ReplaceFailure.outcome : ReplaceFailure → String
  | precheck error => "failed: storcli precheck failed: " ++ truncateAuditDetail error
  | command kind error => "failed: " ++ errorName kind ++ ": " ++ truncateAuditDetail error

end MegaraidDashboard.Web
