import MegaraidDashboard.Model.Db.Database
import MegaraidDashboard.Model.Services.ControllerHealth

/-! # The metrics exporter

`MegaraidCollector` answers a scrape from the newest stored snapshot and keeps the families of the last one that it
built. The collector and the retention may be jobs of another process, and a query of the exporter sees what is
committed when it runs, so either may commit between two queries of one scrape.
-/

namespace MegaraidDashboard.Web

open Db Storcli Services

structure Sample where
  labels : List String
  value : ℤ
deriving DecidableEq, Repr

structure GaugeMetricFamily where
  name : String
  documentation : String
  labels : List String
  samples : List Sample
deriving DecidableEq, Repr

/-- A row of `controller_snapshots` with the rows that refer to it. -/
structure StoredSnapshot where
  id : ℕ
  snapshot : StorcliSnapshot
deriving DecidableEq, Repr

/-! ## The families of a snapshot -/

section Families

variable [PyText]

/-- `_encode_controller_health` -/
def encodeControllerHealth (snap : ControllerSnapshot) (pds : List PhysicalDriveSnapshot)
    (vds : List VirtualDriveSnapshot) (settings : Option Settings) : ℤ :=
  match deriveControllerHealth snap pds vds none settings with
  | .optimal => 0
  | .warning => 1
  | .critical => 2

/-- `_encode_pd_state` -/
def encodePdState (state : String) : ℤ :=
  if normalizedState state ∈ ["onln", "online", "ugood", "optimal", "dhs", "ghs"] then 0
  else if physicalDriveStateSeverity state = .critical then 2
  else 1

/-- `_encode_vd_state` -/
def encodeVdState (state : String) : ℤ :=
  match virtualDriveStateSeverity state with
  | .info => 0
  | .warning => 1
  | .critical => 2

/-- The labels of a physical drive. -/
def physicalDriveLabels (drive : PhysicalDrive) : List String :=
  [toString drive.enclosureId, toString drive.slotId, drive.model, drive.serialNumber]

def controllerHealthFamily (settings : Option Settings) (row : StoredSnapshot) : GaugeMetricFamily where
  name := "megaraid_controller_health"
  documentation := "Controller health (0=optimal, 1=warning, 2=critical)."
  labels := ["model", "serial"]
  samples := [⟨[row.snapshot.controller.modelName, row.snapshot.controller.serialNumber],
    encodeControllerHealth (.ofStorcli row.id row.snapshot) (row.snapshot.physicalDrives.map .ofStorcli)
      (row.snapshot.virtualDrives.map .ofStorcli) settings⟩]

/-- The family of a reading of the controller, which is left out without one. -/
def controllerReading (name documentation : String) (row : StoredSnapshot) (reading : Option ℤ) :
    Option GaugeMetricFamily :=
  reading.map fun value => ⟨name, documentation, ["model", "serial"],
    [⟨[row.snapshot.controller.modelName, row.snapshot.controller.serialNumber], value⟩]⟩

def rocTemperatureFamily (row : StoredSnapshot) : Option GaugeMetricFamily :=
  controllerReading "megaraid_controller_roc_temperature_celsius" "Controller RoC silicon temperature in Celsius." row
    row.snapshot.controller.rocTemperatureCelsius

def cvCapacitanceFamily (row : StoredSnapshot) : Option GaugeMetricFamily :=
  controllerReading "megaraid_cv_capacitance_percent" "Cache vault capacitance percent." row
    (row.snapshot.cachevault.bind (·.capacitancePercent))

def temperatureFamily (row : StoredSnapshot) : GaugeMetricFamily where
  name := "megaraid_drive_temperature_celsius"
  documentation := "Per-physical-drive temperature in Celsius from latest snapshot."
  labels := ["enclosure", "slot", "model", "serial"]
  samples := row.snapshot.physicalDrives.filterMap fun drive =>
    drive.temperatureCelsius.map fun temperature => ⟨physicalDriveLabels drive, temperature⟩

def physicalDriveStateFamily (row : StoredSnapshot) : GaugeMetricFamily where
  name := "megaraid_physical_drive_state"
  documentation := "Per-physical-drive state (0=optimal, 1=warning, 2=critical)."
  labels := ["enclosure", "slot", "model", "serial"]
  samples := row.snapshot.physicalDrives.map fun drive => ⟨physicalDriveLabels drive, encodePdState drive.state⟩

def virtualDriveStateFamily (row : StoredSnapshot) : GaugeMetricFamily where
  name := "megaraid_virtual_drive_state"
  documentation := "Per-virtual-drive state (0=optimal, 1=warning, 2=critical)."
  labels := ["vd_id", "name", "raid_level"]
  samples := row.snapshot.virtualDrives.map fun drive =>
    ⟨[toString drive.vdId, drive.name, drive.raidLevel], encodeVdState drive.state⟩

/-- What `_build_families` makes of the rows that it loaded. -/
def families (settings : Option Settings) (row : StoredSnapshot) : List GaugeMetricFamily :=
  controllerHealthFamily settings row :: (rocTemperatureFamily row).toList ++ (cvCapacitanceFamily row).toList ++
    [temperatureFamily row, physicalDriveStateFamily row, virtualDriveStateFamily row]

end Families

/-! ## Scrapes -/

/-- The query that `_build_families` runs next. The row carries what the queries before loaded. -/
inductive Scrape where
  | get (latestId : ℕ)
  | physicalDrives (row : StoredSnapshot)
  | virtualDrives (row : StoredSnapshot)
  | cachevault (row : StoredSnapshot)
deriving DecidableEq, Repr

/-- The answer to a scrape, with the snapshot that was the newest when it began and whether it was still stored when
it ended. -/
structure Exposition where
  newest : Option StoredSnapshot
  stored : Bool
  families : List GaugeMetricFamily
deriving DecidableEq, Repr

/-- The table, the attributes of the collector and the scrape that is going on. -/
structure Exporter where
  rows : List StoredSnapshot
  /-- `_cache` -/
  cache : Option ℕ × List GaugeMetricFamily
  /-- With the snapshot that was the newest when the scrape began. -/
  scrape : Option (StoredSnapshot × Scrape)
  expositions : List Exposition
deriving DecidableEq, Repr

def Exporter.initial : Exporter := ⟨[], (none, []), none, []⟩

namespace Exporter

def nextId (exporter : Exporter) : ℕ := (exporter.rows.map (·.id)).foldl max 0 + 1

/-- `order_by(captured_at.desc()).limit(1)` -/
def newest (exporter : Exporter) : Option StoredSnapshot := exporter.rows.latest? (·.snapshot.capturedAt)

/-- The row of an identifier, and with it the rows that refer to it. -/
def find (exporter : Exporter) (id : ℕ) : Option StoredSnapshot := exporter.rows.find? (·.id == id)

def insert (exporter : Exporter) (snapshot : StorcliSnapshot) : Exporter :=
  { exporter with rows := exporter.rows ++ [⟨exporter.nextId, snapshot⟩] }

/-- `prune_raw_snapshots` -/
def prune (exporter : Exporter) (cutoff : ℤ) : Exporter :=
  { exporter with rows := exporter.rows.filter fun row => decide (cutoff ≤ row.snapshot.capturedAt) }

/-- The scrape answers with these families. -/
def answer (exporter : Exporter) (newest : Option StoredSnapshot) (families : List GaugeMetricFamily) : Exporter :=
  { exporter with
    scrape := none
    expositions := exporter.expositions ++ [⟨newest, newest.all fun row => exporter.rows.contains row, families⟩] }

/-- The families that `_build_families` returned are kept and answered. -/
def built (exporter : Exporter) (newest : Option StoredSnapshot) (latestId : Option ℕ)
    (families : List GaugeMetricFamily) : Exporter :=
  ({ exporter with cache := (latestId, families) } : Exporter).answer newest families

/-- `collect`, up to the first query of `_build_families`. -/
def begin (exporter : Exporter) : Exporter :=
  match exporter.newest with
  | none => exporter.built none none []
  | some row =>
    if exporter.cache.1 = some row.id then exporter.answer (some row) exporter.cache.2
    else { exporter with scrape := some (row, .get row.id) }

/-- The next query of the scrape that is going on, or the first one of a new scrape. -/
def query [PyText] (settings : Option Settings) (exporter : Exporter) : Exporter :=
  match exporter.scrape with
  | none => exporter.begin
  | some (newest, .get latestId) =>
    match exporter.find latestId with
    | none => exporter.built (some newest) (some latestId) []
    | some row => { exporter with scrape := some (newest, .physicalDrives row) }
  | some (newest, .physicalDrives row) =>
    let drives := (exporter.find row.id).elim [] (·.snapshot.physicalDrives)
    let row := { row with snapshot := { row.snapshot with physicalDrives := drives } }
    { exporter with scrape := some (newest, .virtualDrives row) }
  | some (newest, .virtualDrives row) =>
    let drives := (exporter.find row.id).elim [] (·.snapshot.virtualDrives)
    let row := { row with snapshot := { row.snapshot with virtualDrives := drives } }
    { exporter with scrape := some (newest, .cachevault row) }
  | some (newest, .cachevault row) =>
    let cachevault := (exporter.find row.id).bind (·.snapshot.cachevault)
    let row := { row with snapshot := { row.snapshot with cachevault := cachevault } }
    exporter.built (some newest) (some row.id) (families settings row)

end Exporter

inductive ExporterStep where
  | poll (snapshot : StorcliSnapshot)
  | prune (cutoff : ℤ)
  | query
  /-- A new process makes a new `MegaraidCollector`. -/
  | restart
deriving DecidableEq, Repr

def Exporter.step [PyText] (settings : Option Settings) (exporter : Exporter) : ExporterStep → Exporter
  | .poll snapshot => exporter.insert snapshot
  | .prune cutoff => exporter.prune cutoff
  | .query => exporter.query settings
  | .restart => { exporter with cache := (none, []), scrape := none }

end MegaraidDashboard.Web
