import MegaraidDashboard.Model.Python.Text

/-! # Semantic state comparison

Firmware spells one state in several ways. Stored evidence keeps the original spelling; every
comparison goes through `normalizedState`.
-/

namespace MegaraidDashboard.Storcli

variable [PyText]

/-- `_ALIASES` -/
def stateAlias : String → Option String
  | "optl" => some "optimal"
  | "msng" => some "missing"
  | "offln" => some "offline"
  | "ofln" => some "offline"
  | "dgrd" => some "degraded"
  | "pdgd" => some "partially degraded"
  | "partially-degraded" => some "partially degraded"
  | _ => none

/-- `normalized_state` -/
def normalizedState (state : String) : String :=
  let normalized := Py.casefold (Py.strip state)
  (stateAlias normalized).getD normalized

/-- `normalize_alarm_state`; `None` is the empty text. -/
def normalizeAlarmState (value : Option String) : String :=
  let normalized := Py.casefold (Py.strip (value.getD ""))
  if normalized ∈ ["on", "enabled", "enable"] then "On"
  else if normalized ∈ ["silenced", "silence", "mute", "muted"] then "Silenced"
  else if normalized ∈ ["off", "disabled", "disable"] then "Off"
  else "Unknown"

end MegaraidDashboard.Storcli
