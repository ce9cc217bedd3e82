import MegaraidDashboard.Model.Storcli.ForeignConfig
import MegaraidDashboard.Model.Web.WriteHandlers

/-! # The bodies of the foreign configuration requests -/

namespace MegaraidDashboard.Web

/-- `Field(min_length=low, max_length=high)` -/
def lengthError (text : String) (low high : ℕ) : Option String :=
  if text.length < low then some s!"String should have at least {low} character"
  else if high < text.length then some s!"String should have at most {high} characters"
  else none

structure ForeignConfigImportRequest where
  confirmation : String
  dryRun : Bool
  notBlank : confirmation ≠ ""

/-- `ForeignConfigImportRequest.model_validate` -/
def ForeignConfigImportRequest.validate (confirmation : String) (dryRun : Bool) :
    Except String ForeignConfigImportRequest :=
  match lengthError confirmation 1 200 with
  | some message => .error message
  | none =>
    if blank : Py.strip confirmation = "" then .error "confirmation must not be blank"
    else .ok ⟨Py.strip confirmation, dryRun, blank⟩

structure ForeignConfigClearRequest where
  confirmation : String
  digest : String
  dryRun : Bool

/-- `ForeignConfigClearRequest.model_validate` -/
def ForeignConfigClearRequest.validate (confirmation digest : String) (dryRun : Bool) :
    Except String ForeignConfigClearRequest :=
  match lengthError confirmation 1 200, lengthError digest 0 200 with
  | some message, _ => .error message
  | none, some message => .error message
  | none, none => .ok ⟨confirmation, digest, dryRun⟩

end MegaraidDashboard.Web
