import MegaraidDashboard.ToMathlib.Reorderings
import MegaraidDashboard.Model.Web.DriveNavigation
import Mathlib.Tactic.IntervalCases

/-! # The links between drives walk the cage

Drives of distinct positions stand in a line. Every path that a page writes leads to the page of the drive that it was
written for, so that the two links move along the line by one place.
-/

namespace MegaraidDashboard.Web

open Db

section Text

theorem isDigit_toDigits {n : ℕ} : ∀ c ∈ Nat.toDigits 10 n, c.isDigit = true :=
  fun _ member => Nat.isDigit_of_mem_toDigits (by decide) (by decide) member

theorem toString_negSucc (n : ℕ) : toString (Int.negSucc n) = String.ofList ('-' :: Nat.toDigits 10 (n + 1)) := by
  have text : toString (n + 1) = String.ofList (Nat.toDigits 10 (n + 1)) := Nat.repr_eq_ofList_toDigits
  have sign : toString (Int.negSucc n) = "-" ++ toString (n + 1) := rfl
  rw [sign, text]
  apply String.toList_inj.mp
  simp only [String.toList_append, String.toList_ofList]
  rfl

/-- `int(str(n))` for an integer. -/
theorem parseInt_toString_int (n : ℤ) : Py.parseInt (toString n) = some n := by
  cases n with
  | ofNat n => exact Py.parseInt_toString n
  | negSucc n =>
    have solid : ∀ c ∈ '-' :: Nat.toDigits 10 (n + 1), Py.isSpace c = false := by
      intro c member
      rcases List.mem_cons.mp member with rfl | digit
      · decide
      · exact Py.isSpace_of_isDigit (isDigit_toDigits c digit)
    have value : Nat.ofDigitChars 10 (Nat.toDigits 10 (n + 1)) 0 = n + 1 := Nat.ofDigitChars_ten_toDigits
    rw [Py.parseInt, toString_negSucc, Py.strip_of_notSpace solid, String.toList_ofList]
    change (Py.readDigitGroups (Nat.toDigits 10 (n + 1))).map _ = _
    rw [Py.readDigitGroups_of_isDigit Nat.toDigits_ne_nil isDigit_toDigits, Option.map_some, value]
    rfl

theorem colon_notMem_toString (n : ℤ) : ':' ∉ (toString n).toList := by
  intro member
  cases n with
  | ofNat n =>
    have text : toString (Int.ofNat n) = String.ofList (Nat.toDigits 10 n) := Nat.repr_eq_ofList_toDigits
    rw [text, String.toList_ofList] at member
    exact absurd (isDigit_toDigits _ member) (by decide)
  | negSucc n =>
    rw [toString_negSucc, String.toList_ofList] at member
    rcases List.mem_cons.mp member with same | digit
    · exact absurd same (by decide)
    · exact absurd (isDigit_toDigits _ digit) (by decide)

theorem driveSlotRef_eq (drive : PhysicalDriveSnapshot) : driveSlotRef drive =
    String.ofList ((toString drive.enclosureId).toList ++ ':' :: (toString drive.slotId).toList) := by
  apply String.toList_inj.mp
  simp only [driveSlotRef, String.toList_append, String.toList_ofList, List.append_assoc]
  rfl

theorem dropPrefix_append (head rest : String) : Py.dropPrefix (head ++ rest) head = rest := by
  apply String.toList_inj.mp
  rw [Py.dropPrefix, String.toList_ofList, String.toList_append, List.drop_left]

end Text

section Cage

variable {drives cage : List PhysicalDriveSnapshot} {drive current : PhysicalDriveSnapshot}

/-- A path leads back to the drive that it was written for. -/
theorem driveDetailSlotRef_driveSlotRef (distinct : (drives.map drivePosition).Nodup) (member : drive ∈ drives) :
    driveDetailSlotRef drives (driveSlotRef drive) = some drive := by
  rw [driveDetailSlotRef, driveSlotRef_eq, Py.splitOnce_append_cons (colon_notMem_toString _), String.ofList_toList,
    String.ofList_toList]
  simp only [bind, Option.bind, parseInt_toString_int]
  exact List.find?_key_of_mem distinct member

theorem physicalSlotNumber_eq (slot : ℤ) :
    physicalSlotNumber slot = if 0 ≤ slot ∧ slot ≤ 7 then (slot + 4) % 8 else slot := by
  split
  · next caged =>
    obtain ⟨low, high⟩ := caged
    interval_cases slot <;> rfl
  · next outside =>
    have caged : ∀ entry ∈ physicalSlotByControllerSlot, 0 ≤ entry.1 ∧ entry.1 ≤ 7 := by decide
    have missing : physicalSlotByControllerSlot.lookup slot = none := by
      refine List.lookup_eq_none_iff.mpr fun entry member => bne_iff_ne.mpr ?_
      rintro rfl
      exact outside (caged entry member)
    rw [physicalSlotNumber, missing, Option.getD_none]

theorem physicalSlotNumber_injective : Function.Injective physicalSlotNumber := by
  intro first second same
  rw [physicalSlotNumber_eq, physicalSlotNumber_eq] at same
  split at same <;> split at same <;> omega

theorem nodup_cageKey (distinct : (drives.map drivePosition).Nodup) : (drives.map cageKey).Nodup := by
  have keys : drives.map cageKey = (drives.map drivePosition).map fun position =>
      toLex (position.1, physicalSlotNumber position.2) := by
    rw [List.map_map]
    rfl
  rw [keys]
  refine distinct.map fun first second same => ?_
  obtain ⟨enclosure, slot⟩ := Prod.mk.inj (toLex.injective same)
  exact Prod.ext enclosure (physicalSlotNumber_injective slot)

theorem findIdx?_position (distinct : (cage.map drivePosition).Nodup) {place : ℕ} (here : cage[place]? = some current) :
    (cage.findIdx? fun drive => drivePosition drive == drivePosition current) = some place := by
  obtain ⟨inside, rfl⟩ := List.getElem?_eq_some_iff.mp here
  refine List.findIdx?_eq_some_iff_getElem.mpr ⟨inside, beq_self_eq_true _, fun earlier before same => ?_⟩
  have both : cage[earlier] = cage[place] :=
    List.inj_on_of_nodup_map distinct (List.getElem_mem _) (List.getElem_mem _) (beq_iff_eq.mp same)
  exact before.ne ((List.Nodup.of_map drivePosition distinct).getElem_inj_iff.mp both)

/-- A click moves by one place, and stays at the ends of the line. -/
def movePlace (length place : ℕ) : NeighborLink → ℕ
  | .previous => place - 1
  | .next => min (place + 1) (length - 1)

theorem neighborDriveUrl_inside (distinct : (drives.map drivePosition).Nodup) {place target : ℕ} {offset : ℤ}
    (here : (drives.orderBy cageKey)[place]? = some current) (there : (drives.orderBy cageKey)[target]? = some drive)
    (sum : place + offset = target) : neighborDriveUrl drives current offset = some ("/drives/" ++ driveSlotRef drive) := by
  have perm := List.orderBy_perm cageKey drives
  have found := findIdx?_position ((perm.map drivePosition).nodup_iff.mpr distinct) here
  have bound := (List.getElem?_eq_some_iff.mp there).1
  rw [neighborDriveUrl, found]
  dsimp only
  rw [sum, if_neg (by omega), Int.toNat_natCast, there, Option.map_some]

theorem neighborDriveUrl_outside (distinct : (drives.map drivePosition).Nodup) {place : ℕ} {offset : ℤ}
    (here : (drives.orderBy cageKey)[place]? = some current)
    (outside : place + offset < 0 ∨ (drives.orderBy cageKey).length ≤ place + offset) :
    neighborDriveUrl drives current offset = none := by
  have perm := List.orderBy_perm cageKey drives
  have found := findIdx?_position ((perm.map drivePosition).nodup_iff.mpr distinct) here
  rw [neighborDriveUrl, found]
  exact if_pos outside

theorem followNeighbor_inside (distinct : (drives.map drivePosition).Nodup) {place target : ℕ} {link : NeighborLink}
    (here : (drives.orderBy cageKey)[place]? = some current) (there : (drives.orderBy cageKey)[target]? = some drive)
    (sum : place + link.offset = target) : followNeighbor drives current link = some drive := by
  have member : drive ∈ drives := List.mem_orderBy.mp (List.mem_of_getElem? there)
  rw [followNeighbor, neighborDriveUrl_inside distinct here there sum]
  dsimp only
  rw [dropPrefix_append, driveDetailSlotRef_driveSlotRef distinct member]

theorem followNeighbor_outside (distinct : (drives.map drivePosition).Nodup) {place : ℕ} {link : NeighborLink}
    (here : (drives.orderBy cageKey)[place]? = some current)
    (outside : place + link.offset < 0 ∨ (drives.orderBy cageKey).length ≤ place + link.offset) :
    followNeighbor drives current link = some current := by
  rw [followNeighbor, neighborDriveUrl_outside distinct here outside]

/-- A click shows the drive at the place that it moves to. -/
theorem followNeighbor_eq (distinct : (drives.map drivePosition).Nodup) {place : ℕ}
    (here : (drives.orderBy cageKey)[place]? = some current) (link : NeighborLink) :
    ∃ shown, followNeighbor drives current link = some shown ∧
      (drives.orderBy cageKey)[movePlace drives.length place link]? = some shown := by
  have inside := (List.getElem?_eq_some_iff.mp here).1
  have length : (drives.orderBy cageKey).length = drives.length := (List.orderBy_perm cageKey drives).length_eq
  cases link with
  | previous =>
    cases place with
    | zero => exact ⟨current, followNeighbor_outside distinct here (.inl (by decide)), here⟩
    | succ place =>
      have there := List.getElem?_eq_getElem (Nat.lt_of_succ_lt inside)
      refine ⟨_, followNeighbor_inside distinct here there ?_, there⟩
      rw [NeighborLink.offset]
      omega
  | next =>
    rcases Nat.lt_or_ge (place + 1) (drives.orderBy cageKey).length with more | last
    · have there := List.getElem?_eq_getElem more
      have moved : movePlace drives.length place .next = place + 1 := by
        rw [movePlace]
        omega
      rw [moved]
      refine ⟨_, followNeighbor_inside distinct here there ?_, there⟩
      rw [NeighborLink.offset]
      omega
    · have stayed : movePlace drives.length place .next = place := by
        rw [movePlace]
        omega
      rw [stayed]
      refine ⟨current, followNeighbor_outside distinct here (.inr ?_), here⟩
      rw [NeighborLink.offset]
      omega

/-- From the page of any drive, any clicks lead along the line of the cage. -/
theorem links_walk_the_cage (drives : List PhysicalDriveSnapshot) (distinct : (drives.map drivePosition).Nodup)
    (current : PhysicalDriveSnapshot) (member : current ∈ drives) (clicks : List NeighborLink) :
    ∃ cage : List PhysicalDriveSnapshot, cage.Perm drives ∧ (cage.Pairwise fun first second => cageKey first < cageKey second) ∧
      ∃ (place : ℕ) (shown : PhysicalDriveSnapshot), cage[place]? = some current ∧ clicks.foldlM (followNeighbor drives) current = some shown ∧
        cage[clicks.foldl (movePlace drives.length) place]? = some shown := by
  refine ⟨drives.orderBy cageKey, List.orderBy_perm _ _, List.pairwise_lt_orderBy (nodup_cageKey distinct), ?_⟩
  have caged : current ∈ drives.orderBy cageKey := List.mem_orderBy.mpr member
  obtain ⟨place, here⟩ := List.mem_iff_getElem?.mp caged
  have walk (start : PhysicalDriveSnapshot) (first : ℕ) (there : (drives.orderBy cageKey)[first]? = some start) :
      ∃ shown, clicks.foldlM (followNeighbor drives) start = some shown ∧
        (drives.orderBy cageKey)[clicks.foldl (movePlace drives.length) first]? = some shown := by
    induction clicks generalizing start first with
    | nil => exact ⟨start, rfl, there⟩
    | cons link rest ih =>
      obtain ⟨next, followed, moved⟩ := followNeighbor_eq distinct there link
      obtain ⟨shown, walked, last⟩ := ih next _ moved
      refine ⟨shown, ?_, last⟩
      rw [List.foldlM_cons, followed]
      exact walked
  obtain ⟨shown, walked, last⟩ := walk current place here
  exact ⟨place, shown, here, walked, last⟩

private def cagedDrive (slot : ℤ) (serial : String) : PhysicalDriveSnapshot :=
  ⟨252, slot, 9, serial, "Onln", some 0, some 31, 0, 0, 0, false⟩

theorem links_walk_the_cage_around :
    ∃ cage : List PhysicalDriveSnapshot, cage.Perm [cagedDrive 0 "A", cagedDrive 4 "B", cagedDrive 5 "C"] ∧
      (cage.Pairwise fun first second => cageKey first < cageKey second) ∧
      ∃ (place : ℕ) (shown : PhysicalDriveSnapshot), cage[place]? = some (cagedDrive 4 "B") ∧
        [NeighborLink.next, .next, .next, .previous].foldlM
          (followNeighbor [cagedDrive 0 "A", cagedDrive 4 "B", cagedDrive 5 "C"]) (cagedDrive 4 "B") = some shown ∧
        cage[[NeighborLink.next, .next, .next, .previous].foldl (movePlace 3) place]? = some shown :=
  links_walk_the_cage [cagedDrive 0 "A", cagedDrive 4 "B", cagedDrive 5 "C"] (by decide) (cagedDrive 4 "B")
    (List.mem_cons_of_mem _ List.mem_cons_self) [.next, .next, .next, .previous]

end Cage

end MegaraidDashboard.Web
