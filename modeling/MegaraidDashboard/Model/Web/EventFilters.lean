import Mathlib.Data.Finset.Dedup
import MegaraidDashboard.Model.Python.FormCoding
import MegaraidDashboard.Model.Web.EventsView

/-! # The filter chips of the events page

A page is asked for with a query; its chips carry the queries of the pages that they lead to. The labels of the chips
and the path in front of a query are left out.
-/

namespace MegaraidDashboard.Web

open Services.Events

/-- `_EVENT_SEVERITY_FILTERS` -/
def eventSeverityFilters : List String := ["info", "warning", "critical"]

/-- `_OPERATOR_ACTION_CATEGORIES` -/
def operatorActionCategories : List String :=
  ["operator_action", "drive_mark_ubad", "drive_mark_ugood", "drive_spin_down", "drive_make_hot_spare",
    "controller_buzzer_silence", "controller_buzzer_disable", "controller_buzzer_enable"]

/-- `_EVENT_CATEGORY_FILTERS` -/
def eventCategoryFilters : List String :=
  ["controller", "controller_alarm_setting_changed", "pd_state", "vd_state", "cv_state", "smart_alert", "media_errors",
    "other_errors", "predictive_failures", "temperature", "controller_temperature", "disk_space", "system",
    "operator_action", "drive_mark_ubad", "drive_mark_ugood", "drive_spin_down", "drive_make_hot_spare",
    "controller_buzzer_silence", "controller_buzzer_disable", "controller_buzzer_enable", "foreign_config_detected",
    "consistency_check_inconsistency"]

/-- `_normalize_query_values` -/
def normalizeQueryValues (values : List String) : List String :=
  values.foldl (fun normalized value =>
    let stripped := Py.strip value
    if stripped ≠ "" ∧ stripped ∉ normalized then normalized ++ [stripped] else normalized) []

/-- `request.query_params.getlist(name)` -/
def getlist (params : List (String × String)) (name : String) : List String :=
  (params.filter (·.1 == name)).map Prod.snd

/-- `_event_filter_values` -/
def eventFilterValues (params : List (String × String)) : EventFilters where
  categories := normalizeQueryValues (getlist params "category")
  severities := normalizeQueryValues (getlist params "severity")

/-- `_toggle_filter_value` -/
def toggleFilterValue (values : List String) (value : String) : List String :=
  if value ∈ values then values.filter (· != value) else values ++ [value]

/-- The query of `_events_query_path` without extra items; no items leave the query empty. -/
def eventsQuery (filters : EventFilters) : String :=
  Py.urlencodePairs (filters.severities.map ("severity", ·) ++ filters.categories.map ("category", ·))

/-- `FilterChip` -/
structure FilterChip where
  value : String
  active : Bool
  query : String
deriving DecidableEq, Repr

/-- The chips of a page. -/
inductive ChipName where
  | all
  | operatorActions
  | severity (value : {value // value ∈ eventSeverityFilters})
  | category (value : {value // value ∈ eventCategoryFilters})

/-- `_events_filter_context` and `_filter_chip`: the chip of that name on a page with the filters. -/
def EventFilters.chip (filters : EventFilters) : ChipName → FilterChip
  | .all => ⟨"all", filters.categories.isEmpty && filters.severities.isEmpty, eventsQuery ⟨[], []⟩⟩
  | .operatorActions =>
    ⟨"operator_actions", decide (filters.categories.toFinset = operatorActionCategories.toFinset),
      eventsQuery { filters with categories := operatorActionCategories }⟩
  | .severity value =>
    ⟨value, decide (value.val ∈ filters.severities),
      eventsQuery { filters with severities := toggleFilterValue filters.severities value }⟩
  | .category value =>
    ⟨value, decide (value.val ∈ filters.categories),
      eventsQuery { filters with categories := toggleFilterValue filters.categories value }⟩

/-- A request for the page with a query. -/
def openEvents (query : String) : Option EventFilters := (Py.parseQsl query).map eventFilterValues

/-- Follow the chip of a page. -/
def EventFilters.click (filters : EventFilters) (name : ChipName) : Option EventFilters :=
  openEvents (filters.chip name).query

end MegaraidDashboard.Web
