import MegaraidDashboard.Model.Services.TelegramNotifier

/-! # What an event waits for

The details of a relevance that is not decided yet. Only a snapshot that is missing, too old or followed by a failed poll
makes an event wait for fresh data.
-/

namespace MegaraidDashboard.Services

open Db

/-- What an event can wait for while the snapshot is fresh. -/
def objectDetails : List String := ["awaiting_temperature", "awaiting_incident_state", "awaiting_drive_identity"]

/-- It is an answer, and if it waits, then for one of the details. -/
def Relevance.WaitsFor (details : List String) : Relevance → Prop
  | awaiting detail => detail ∈ details
  | active | obsolete => True
  | raised => False

theorem Relevance.WaitsFor.mono {details more : List String} {relevance : Relevance} (waits : relevance.WaitsFor details)
    (subset : details ⊆ more) : relevance.WaitsFor more := by
  cases relevance with
  | awaiting detail => exact subset waits
  | active | obsolete => trivial
  | raised => exact waits

theorem waitsFor_ofActive (details : List String) (active : Bool) : (Relevance.ofActive active).WaitsFor details := by
  cases active <;> trivial

theorem waitsFor_awaiting {detail : String} (listed : detail ∈ objectDetails) :
    (Relevance.awaiting detail).WaitsFor objectDetails := listed

theorem waitsFor_temperatureRelevance (temperature : Option ℤ) (severity : Severity) (warning critical hysteresis : ℤ)
    (clearAtBoundary : Bool) :
    (temperatureRelevance temperature severity warning critical hysteresis clearAtBoundary).WaitsFor objectDetails := by
  cases temperature with
  | none => exact waitsFor_awaiting (by decide)
  | some temperature => exact waitsFor_ofActive _ _

variable [PyText] {settings : Settings} {db : Database} {event : Event} {now : ℤ}

theorem waitsFor_virtualDriveRelevance (snapshot : ControllerSnapshot) :
    (virtualDriveRelevance snapshot event).WaitsFor objectDetails := by
  unfold virtualDriveRelevance
  dsimp only
  split
  · exact waitsFor_ofActive _ _
  · exact waitsFor_ofActive _ _
  · exact waitsFor_awaiting (by decide)

theorem waitsFor_cachevaultRelevance (snapshot : ControllerSnapshot) :
    (cachevaultRelevance snapshot event).WaitsFor objectDetails := by
  unfold cachevaultRelevance
  split
  · split_ifs
    · exact waitsFor_awaiting (by decide)
    · exact waitsFor_ofActive _ _
  · split
    · exact waitsFor_ofActive _ _
    · split <;> exact waitsFor_ofActive _ _

theorem waitsFor_driveRelevance (drive : PhysicalDriveSnapshot) :
    (driveRelevance settings db drive event).WaitsFor objectDetails := by
  unfold driveRelevance
  split
  · dsimp only
    split_ifs
    · trivial
    · exact waitsFor_temperatureRelevance ..
  · exact waitsFor_ofActive _ _
  · exact waitsFor_ofActive _ _
  · split
    · exact waitsFor_ofActive _ _
    · exact waitsFor_awaiting (by decide)

theorem waitsFor_objectRelevance (snapshot : ControllerSnapshot) :
    (objectRelevance settings db snapshot event).WaitsFor objectDetails := by
  unfold objectRelevance
  split
  · exact waitsFor_temperatureRelevance ..
  · exact waitsFor_virtualDriveRelevance snapshot
  · exact waitsFor_cachevaultRelevance snapshot
  · split
    · exact waitsFor_awaiting (by decide)
    · split
      · split_ifs
        · trivial
        · exact waitsFor_awaiting (by decide)
        · trivial
      · exact waitsFor_awaiting (by decide)
      · split_ifs
        · exact waitsFor_awaiting (by decide)
        · trivial
        · exact waitsFor_driveRelevance _

/-- The relevance check answers, or the freshness window reaches back before all times. -/
theorem deliveryRelevance_answers (settings : Settings) (db : Database) (event : Event) (now : ℤ) :
    (deliveryRelevance settings db event now).WaitsFor ("awaiting_fresh_data" :: objectDetails) ∨
      deliveryRelevance settings db event now = .raised ∧
        (Timestamp.timedeltaMax < freshness settings ∨ now < freshness settings) := by
  unfold deliveryRelevance
  dsimp only
  split
  · exact .inl (waitsFor_ofActive _ _)
  · split
    · next overflow => exact .inr ⟨rfl, .inl (Timestamp.timedelta_eq_none.mp overflow)⟩
    · exact .inl List.mem_cons_self
    · next duration _ =>
      obtain ⟨-, rfl⟩ := Timestamp.timedelta_eq_some.mp duration
      split
      · next underflow => exact .inr ⟨rfl, .inr (Timestamp.minus_eq_none.mp underflow)⟩
      · left
        split_ifs
        · exact List.mem_cons_self
        · trivial
        · exact (waitsFor_objectRelevance _).mono (List.subset_cons_self _ _)

theorem awaiting_mem_details {detail : String} (awaiting : deliveryRelevance settings db event now = .awaiting detail) :
    detail ∈ "awaiting_fresh_data" :: objectDetails := by
  rcases deliveryRelevance_answers settings db event now with waits | ⟨raised, -⟩
  · rwa [awaiting] at waits
  · rw [awaiting] at raised
    cases raised

/-- A fresh snapshot decides, or something else is missing. -/
theorem objectRelevance_ne_awaiting_fresh_data (snapshot : ControllerSnapshot) :
    objectRelevance settings db snapshot event ≠ .awaiting "awaiting_fresh_data" := by
  intro awaiting
  have waits := @waitsFor_objectRelevance _ settings db event snapshot
  rw [awaiting] at waits
  have listed : "awaiting_fresh_data" ∈ objectDetails := waits
  exact absurd listed (by decide)

end MegaraidDashboard.Services
