import Mathlib.Data.Int.Basic

/-! # Validated storcli objects

The records that the parsers hand to the services. Field validation lives with the parsers;
a value of these types is what `model_validate` returned.
-/

namespace MegaraidDashboard.Storcli

structure ControllerInfo where
  modelName : String
  serialNumber : String
  firmwareVersion : String
  biosVersion : String
  driverName : String
  driverVersion : String
  pciAddress : String
  systemTime : ℤ
  alarmState : String
  cvPresent : Bool
  bbuPresent : Bool
  rocTemperatureCelsius : Option ℤ
deriving DecidableEq, Repr

structure VirtualDrive where
  vdId : ℤ
  name : String
  raidLevel : String
  sizeBytes : ℤ
  state : String
  access : String
  cache : String
deriving DecidableEq, Repr

structure PhysicalDrive where
  enclosureId : ℤ
  slotId : ℤ
  deviceId : ℤ
  model : String
  serialNumber : String
  firmwareVersion : String
  sizeBytes : ℤ
  interface : String
  mediaType : String
  state : String
  diskGroupId : Option ℤ
  temperatureCelsius : Option ℤ
  mediaErrors : ℤ
  otherErrors : ℤ
  predictiveFailures : ℤ
  smartAlert : Bool
  sasAddress : String
deriving DecidableEq, Repr

structure CacheVault where
  type : String
  state : String
  temperatureCelsius : Option ℤ
  packEnergy : Option String
  capacitancePercent : Option ℤ
  replacementRequired : Bool
  nextLearnCycle : Option ℤ
deriving DecidableEq, Repr

structure ForeignConfigDiskGroup where
  dgId : ℤ
  driveCount : ℤ
  sizeBytes : Option ℤ
deriving DecidableEq, Repr

structure ForeignConfig where
  present : Bool
  dgCount : ℤ
  driveCount : ℤ
  totalSizeBytes : Option ℤ
  diskGroups : List ForeignConfigDiskGroup
  digest : String
deriving DecidableEq, Repr

/-- `StorcliSnapshot`; the BBU reading is stored by no table and left out. -/
structure StorcliSnapshot where
  controller : ControllerInfo
  virtualDrives : List VirtualDrive
  physicalDrives : List PhysicalDrive
  cachevault : Option CacheVault
  foreignConfig : Option ForeignConfig
  capturedAt : ℤ
deriving DecidableEq, Repr

/-- What `collect_storcli_snapshot` guarantees about an accepted poll: virtual drives and slots
are unique, every drive names its serial, and both CacheVault probes agree. -/
structure StorcliSnapshot.Accepted (snapshot : StorcliSnapshot) : Prop where
  virtualDrivesUnique : (snapshot.virtualDrives.map (·.vdId)).Nodup
  slotsUnique : (snapshot.physicalDrives.map fun drive => (drive.enclosureId, drive.slotId)).Nodup
  serialsNonempty : ∀ drive ∈ snapshot.physicalDrives, drive.serialNumber ≠ ""
  cachevaultAgrees : snapshot.controller.cvPresent = snapshot.cachevault.isSome

end MegaraidDashboard.Storcli
