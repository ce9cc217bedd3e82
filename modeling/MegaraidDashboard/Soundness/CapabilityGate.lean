import Mathlib.Data.List.TakeWhile
import MegaraidDashboard.Model.Web.CapabilityGate
import MegaraidDashboard.Soundness.CommandPolicy
import MegaraidDashboard.ToMathlib.Decimals
import MegaraidDashboard.ToMathlib.Words

/-! # The gate and the runner

The gate asks the policy about the commands of a path, the runner about the command itself. They agree on every route
but one: a hot spare is asked for one disk group and approved for another.
-/

namespace MegaraidDashboard.Web

open Storcli

/-! ## Paths -/

section Paths

theorem mem_splitChars {sep c : Char} {chars : List Char} (member : c ∈ chars) (other : c ≠ sep) :
    ∃ part ∈ Py.splitChars sep chars, c ∈ part := by
  induction chars with
  | nil => cases member
  | cons first rest ih =>
    rw [Py.splitChars]
    split_ifs with separator
    · obtain ⟨part, inside, found⟩ := ih ((List.mem_cons.mp member).resolve_left fun same => other (same.trans separator))
      exact ⟨part, List.mem_cons_of_mem _ inside, found⟩
    · cases parts : Py.splitChars sep rest with
      | nil =>
        rcases List.mem_cons.mp member with rfl | later
        · exact ⟨[c], List.mem_singleton_self _, List.mem_singleton_self _⟩
        · obtain ⟨part, inside, -⟩ := ih later
          rw [parts] at inside
          cases inside
      | cons head tail =>
        rcases List.mem_cons.mp member with rfl | later
        · exact ⟨c :: head, List.mem_cons_self, List.mem_cons_self⟩
        · obtain ⟨part, inside, found⟩ := ih later
          rw [parts] at inside
          rcases List.mem_cons.mp inside with rfl | behind
          · exact ⟨first :: part, List.mem_cons_self, List.mem_cons_of_mem _ found⟩
          · exact ⟨part, List.mem_cons_of_mem _ behind, found⟩

/-- A safe prefix has no colon. -/
theorem MountPath.plain (mount : MountPath) : ':' ∉ mount.text.toList := by
  rcases mount.safe with empty | safe
  · rw [empty]
    exact List.not_mem_nil
  · intro member
    obtain ⟨part, inside, found⟩ := mem_splitChars member (by decide : ':' ≠ '/')
    unfold isSafeForwardedPrefix at safe
    split at safe
    · next segments split =>
      rw [split] at inside
      rcases List.mem_cons.mp inside with rfl | segment
      · cases found
      · simp only [Bool.and_eq_true, List.all_eq_true] at safe
        exact absurd ((safe.2 part segment).1.1.2 ':' found) (by decide)
    · cases safe

theorem endsWith_append {front tail suffix : String}
    (apart : Py.endsWith suffix tail = true → Py.endsWith tail suffix = true) :
    Py.endsWith (front ++ tail) suffix = Py.endsWith tail suffix := by
  rw [Bool.eq_iff_iff]
  simp only [Py.endsWith, List.isSuffixOf_iff_suffix, String.toList_append] at apart ⊢
  constructor
  · intro ends
    rcases List.suffix_or_suffix_of_suffix ends (List.suffix_append _ _) with shorter | longer
    · exact shorter
    · exact apart longer
  · intro ends
    exact ends.trans (List.suffix_append _ _)

/-- The last words of a text decide each other. -/
theorem last_word_unique {front front' word word' : List Char} (whole : '/' ∉ word) (whole' : '/' ∉ word')
    (same : front ++ '/' :: word = front' ++ '/' :: word') : front = front' ∧ word = word' := by
  have words := congrArg (fun text => (text.splitOn '/').getLast?) same
  simp only [List.splitOn_append_cons_self, List.splitOn_eq_singleton whole, List.splitOn_eq_singleton whole',
    List.getLast?_concat, Option.some.injEq] at words
  subst words
  exact ⟨List.append_cancel_right same, rfl⟩

theorem drivePath_toList (mount : String) (enclosureId slotId : ℕ) (action : String) :
    (WriteRoute.drivePath mount enclosureId slotId action).toList =
      ((mount.toList ++ "/drives".toList) ++ '/' :: (toString enclosureId).toList) ++
        ':' :: ((toString slotId).toList ++ '/' :: action.toList) := by
  simp only [WriteRoute.drivePath, String.toList_append, List.append_assoc]
  rfl

theorem driveActionAt_eq_some {chars : List Char} {slot : ℕ} {action : String}
    (found : driveActionAt chars = some (slot, action)) : ∃ digit rest, chars = "/drives/252:".toList ++ digit :: '/' :: rest ∧
      digit ∈ "01234567".toList ∧ slot = digit.toNat - '0'.toNat ∧ action = String.ofList (rest.takeWhile (· != '\n')) := by
  unfold driveActionAt at found
  split at found
  · next digit rest starts behind =>
    rw [List.isPrefixOf_iff_prefix] at starts
    obtain ⟨back, rfl⟩ := starts
    rw [List.drop_left'] at behind
    subst behind
    dsimp only at found
    split_ifs at found with bounds
    obtain ⟨rfl, rfl⟩ := Prod.mk.inj (Option.some.inj found)
    exact ⟨digit, rest, rfl, digit_mem bounds.1 bounds.2.1, rfl, rfl⟩
    rfl
  · cases found

theorem takeWhile_line {chars : List Char} (line : '\n' ∉ chars) : chars.takeWhile (· != '\n') = chars := by
  rw [List.takeWhile_eq_self_iff]
  intro c member
  exact bne_iff_ne.mpr fun same => line (same ▸ member)

/-- A search whose hits agree finds what any of them gives. -/
theorem findSome?_eq_of_agree {α β : Type} {f : α → Option β} {list : List α} {result : β} {a : α} (member : a ∈ list)
    (hit : f a = some result) (agree : ∀ b ∈ list, ∀ other, f b = some other → other = result) :
    list.findSome? f = some result := by
  cases found : list.findSome? f with
  | none =>
    rw [List.findSome?_eq_none_iff] at found
    rw [found a member] at hit
    cases hit
  | some other =>
    obtain ⟨b, inside, gives⟩ := List.exists_of_findSome?_eq_some found
    rw [agree b inside other gives]

section Search

variable {mount : String} (plain : ':' ∉ mount.toList) {enclosureId slotId : ℕ} {action : String}
  (actionPlain : ':' ∉ action.toList)

include plain actionPlain

/-- A hit in the path of a drive is the drive itself. -/
theorem driveActionAt_tail {chars : List Char}
    (member : chars ∈ (WriteRoute.drivePath mount enclosureId slotId action).toList.tails) {slot : ℕ}
    {found : String} (hit : driveActionAt chars = some (slot, found)) :
    enclosureId = 252 ∧ slotId = slot ∧ slot ≤ 7 ∧ found = String.ofList (action.toList.takeWhile (· != '\n')) := by
  obtain ⟨digit, rest, rfl, low, rfl, rfl⟩ := driveActionAt_eq_some hit
  obtain ⟨before, whole⟩ := (List.mem_tails _ _).mp member
  rw [drivePath_toList] at whole
  have slotPlain : ':' ∉ (toString slotId).toList ++ '/' :: action.toList := by
    rw [List.mem_append, List.mem_cons]
    exact not_or.mpr ⟨Nat.notMem_toString rfl slotId, not_or.mpr ⟨by decide, actionPlain⟩⟩
  have frontPlain : ':' ∉ (mount.toList ++ "/drives".toList) ++ '/' :: (toString enclosureId).toList := by
    rw [List.mem_append, List.mem_append, List.mem_cons]
    exact not_or.mpr ⟨not_or.mpr ⟨plain, by decide⟩, not_or.mpr ⟨by decide, Nat.notMem_toString rfl enclosureId⟩⟩
  have split : ((mount.toList ++ "/drives".toList) ++ '/' :: (toString enclosureId).toList) ++
      ':' :: ((toString slotId).toList ++ '/' :: action.toList) =
        ((before ++ "/drives".toList) ++ '/' :: "252".toList) ++ ':' :: (digit :: '/' :: rest) := by
    rw [← whole]
    simp only [List.append_assoc]
    rfl
  obtain ⟨front, -, back⟩ := (List.append_cons_inj_of_notMem frontPlain slotPlain).mp split
  obtain ⟨-, enclosure⟩ := last_word_unique (Nat.notMem_toString rfl enclosureId) (by decide) front
  have digits : ∀ digit ∈ "01234567".toList, digit ≠ '/' ∧ digit.toNat - '0'.toNat ≤ 7 ∧
      (toString (digit.toNat - '0'.toNat)).toList = [digit] := by decide +kernel
  obtain ⟨other, bound, text⟩ := digits digit low
  have single : '/' ∉ [digit] := fun inside => other (List.mem_singleton.mp inside).symm
  obtain ⟨slot, rfl⟩ := List.first_word_inj (Nat.notMem_toString rfl slotId) single back
  refine ⟨Nat.toString_injective (String.toList_inj.mp enclosure), ?_, bound, rfl⟩
  exact Nat.toString_injective (String.toList_inj.mp (slot.trans text.symm))

omit plain actionPlain in
/-- The drives of the approved enclosure are found. -/
theorem driveActionAt_drive {slotId : ℕ} (low : slotId ≤ 7) (some_ : action ≠ "") (line : '\n' ∉ action.toList) :
    driveActionAt ("/drives/252:".toList ++ ((toString slotId).toList ++ '/' :: action.toList)) = some (slotId, action) := by
  have digits : ∀ slotId ≤ 7, ∃ digit, (toString slotId).toList = [digit] ∧ '0' ≤ digit ∧ digit ≤ '7' ∧
      digit.toNat - '0'.toNat = slotId := by
    intro slotId low
    interval_cases slotId <;> exact ⟨_, rfl, by decide⟩
  obtain ⟨digit, text, lower, upper, value⟩ := digits slotId low
  have kept := takeWhile_line line
  have behind : action.toList.dropWhile (· != '\n') = [] := by
    rw [List.dropWhile_eq_nil_iff]
    intro c member
    exact bne_iff_ne.mpr fun same => line (same ▸ member)
  have full : action.toList ≠ [] := fun empty => some_ (String.toList_eq_nil_iff.mp empty)
  have starts : "/drives/252:".toList.isPrefixOf ("/drives/252:".toList ++ digit :: '/' :: action.toList) = true :=
    List.isPrefixOf_iff_prefix.mpr (List.prefix_append _ _)
  have result : (if '0' ≤ digit ∧ digit ≤ '7' ∧ action.toList.takeWhile (· != '\n') ≠ [] ∧
      (action.toList.dropWhile (· != '\n') = [] ∨ action.toList.dropWhile (· != '\n') = ['\n']) then
        some (digit.toNat - '0'.toNat, String.ofList (action.toList.takeWhile (· != '\n')))
      else none) = some (slotId, action) := by
    rw [kept, behind, if_pos ⟨lower, upper, full, .inl rfl⟩, value, String.ofList_toList]
  rw [text, List.singleton_append, driveActionAt, starts, List.drop_left]
  exact result

/-- What the search finds in the path of a drive. -/
theorem searchDriveAction_drivePath (some_ : action ≠ "") (line : '\n' ∉ action.toList) :
    searchDriveAction (WriteRoute.drivePath mount enclosureId slotId action) =
      if enclosureId = 252 ∧ slotId ≤ 7 then some (slotId, action) else none := by
  have kept : String.ofList (action.toList.takeWhile (· != '\n')) = action := by
    rw [takeWhile_line line, String.ofList_toList]
  rw [searchDriveAction]
  split_ifs with approved
  · obtain ⟨rfl, low⟩ := approved
    apply findSome?_eq_of_agree _ (driveActionAt_drive low some_ line)
    · rintro chars member ⟨slot, found⟩ hit
      obtain ⟨-, rfl, -, rfl⟩ := driveActionAt_tail plain actionPlain member hit
      rw [kept]
    · rw [List.mem_tails, drivePath_toList]
      refine ⟨mount.toList, ?_⟩
      simp only [List.append_assoc]
      rfl
  · rw [List.findSome?_eq_none_iff]
    intro chars member
    cases hit : driveActionAt chars with
    | none => rfl
    | some found =>
      obtain ⟨enclosure, slot, low, -⟩ := driveActionAt_tail plain actionPlain member hit
      exact absurd ⟨enclosure, slot ▸ low⟩ approved

end Search

/-! ## Commands of a path -/

def suffixNames : List String := [
  "/controller/buzzer/silence", "/controller/buzzer/disable", "/controller/buzzer/enable",
  "/controller/patrol-read/start", "/controller/patrol-read/stop", "/controller/patrol-read/mode",
  "/controller/consistency-check/start", "/controller/consistency-check/stop", "/controller/consistency-check/mode",
  "/controller/foreign-config/import", "/controller/foreign-config/clear"]

theorem suffixes_names (policy : PolicyContent) : policy.suffixes.map Prod.fst = suffixNames := rfl

theorem mem_suffixNames {policy : PolicyContent} {entry : String × List String} (member : entry ∈ policy.suffixes) :
    entry.1 ∈ suffixNames := suffixes_names policy ▸ List.mem_map_of_mem member

/-- The end of a path decides about the suffixes, as none of them ends in it but itself. -/
theorem find_suffixes (policy : PolicyContent) {front tail : String}
    (apart : ∀ name ∈ suffixNames, Py.endsWith name tail = true → Py.endsWith tail name = true) :
    (policy.suffixes.find? fun entry => Py.endsWith (front ++ tail) entry.1) =
      policy.suffixes.find? fun entry => Py.endsWith tail entry.1 := by
  rw [← List.head?_filter, ← List.head?_filter]
  refine congrArg List.head? (List.filter_congr ?_)
  intro entry member
  exact endsWith_append (apart entry.1 (mem_suffixNames member))

/-- A path that ends in a suffix stands for the commands of that suffix. -/
theorem actionCommands_controller (policy : PolicyContent) (mount : String) {tail : String} {commands : List String}
    (member : (tail, commands) ∈ policy.suffixes)
    (only : ∀ name ∈ suffixNames, Py.endsWith name tail = true ∨ Py.endsWith tail name = true → name = tail) :
    policy.actionCommands (mount ++ tail) = commands := by
  have self : Py.endsWith tail tail = true := Py.endsWith_iff.mpr ⟨[], rfl⟩
  have apart : ∀ name ∈ suffixNames, Py.endsWith name tail = true → Py.endsWith tail name = true := by
    intro name inside ends
    rw [only name inside (.inl ends)]
    exact self
  have distinct : (policy.suffixes.map Prod.fst).Nodup := by
    rw [suffixes_names]
    decide
  have found : (policy.suffixes.find? fun entry => Py.endsWith tail entry.1) = some (tail, commands) := by
    cases hit : policy.suffixes.find? fun entry => Py.endsWith tail entry.1 with
    | none => exact absurd self (List.find?_eq_none.mp hit _ member)
    | some entry =>
      have inside := List.mem_of_find?_eq_some hit
      have ends : Py.endsWith tail entry.1 = true := by simpa using List.find?_some hit
      have same := only entry.1 (mem_suffixNames inside) (.inr ends)
      rw [List.inj_on_of_nodup_map distinct inside member same]
  rw [PolicyContent.actionCommands, find_suffixes policy apart, found]

theorem actionCommands_drive (policy : PolicyContent) {mount : String} (plain : ':' ∉ mount.toList)
    (enclosureId slotId : ℕ) {action : String} (actionPlain : ':' ∉ action.toList) (line : '\n' ∉ action.toList)
    (some_ : action ≠ "") (apart : ∀ name ∈ suffixNames,
      Py.endsWith name ("/" ++ action) = false ∧ Py.endsWith ("/" ++ action) name = false) :
    policy.actionCommands (WriteRoute.drivePath mount enclosureId slotId action) =
      if enclosureId = 252 ∧ slotId ≤ 7 then policy.driveCommands slotId action else [] := by
  have path : WriteRoute.drivePath mount enclosureId slotId action =
      (mount ++ "/drives/" ++ toString enclosureId ++ ":" ++ toString slotId) ++ ("/" ++ action) := by
    simp only [WriteRoute.drivePath, String.append_assoc]
  have missing : (policy.suffixes.find? fun entry =>
      Py.endsWith (WriteRoute.drivePath mount enclosureId slotId action) entry.1) = none := by
    rw [path, find_suffixes policy]
    · rw [List.find?_eq_none]
      intro entry member ends
      rw [(apart entry.1 (mem_suffixNames member)).2] at ends
      cases ends
    · intro name member ends
      rw [(apart name member).1] at ends
      cases ends
  rw [PolicyContent.actionCommands, missing, searchDriveAction_drivePath plain actionPlain some_ line]
  split_ifs <;> rfl

end Paths

/-! ## Commands of a route -/

/-- The command that the runner is asked for. -/
def WriteRoute.command (route : WriteRoute) : String := joinArgs (withJsonFlag route.argv)

/-- The routes whose commands the gate takes the path to stand for. -/
def WriteRoute.candidates (policy : PolicyContent) : WriteRoute → List WriteRoute
  | patrolRead (.mode _) => [patrolRead (.mode .auto), patrolRead (.mode .manual), patrolRead (.mode .disable)]
  | consistencyCheck (.start _) =>
    [consistencyCheck (.start none), consistencyCheck (.start (some policy.virtualDrive))]
  | consistencyCheck (.mode _) => [consistencyCheck (.mode .concurrent), consistencyCheck (.mode .sequential)]
  | replaceInsert enclosureId slotId _ _ _ =>
    if enclosureId = 252 ∧ slotId ≤ 7 then
      (policy.topology slotId).toList.map fun topology =>
        replaceInsert enclosureId slotId topology.dg topology.array topology.row
    else []
  | advancedDriveAction .markUbad _ _ => []
  | advancedDriveAction (.makeHotSpare _) enclosureId slotId =>
    if enclosureId = 252 ∧ slotId ≤ 7 then [advancedDriveAction (.makeHotSpare policy.diskGroup) enclosureId slotId]
    else []
  | advancedDriveAction .markUgood enclosureId slotId =>
    if enclosureId = 252 ∧ slotId ≤ 7 then [advancedDriveAction .markUgood enclosureId slotId] else []
  | advancedDriveAction .spinDown enclosureId slotId =>
    if enclosureId = 252 ∧ slotId ≤ 7 then [advancedDriveAction .spinDown enclosureId slotId] else []
  | locate action enclosureId slotId =>
    if enclosureId = 252 ∧ slotId ≤ 7 then [locate action enclosureId slotId] else []
  | replaceStep step enclosureId slotId =>
    if enclosureId = 252 ∧ slotId ≤ 7 then [replaceStep step enclosureId slotId] else []
  | route => [route]

theorem joinArgs_cons (first second : String) (rest : List String) :
    joinArgs (first :: second :: rest) = first ++ " " ++ joinArgs (second :: rest) := String.intercalate_cons_cons

/-- The commands of a drive as the policy writes them. -/
theorem joinArgs_drive (slotId : ℕ) (first : String) (rest : List String) :
    joinArgs (WriteRoute.driveSelector 252 slotId :: first :: rest) =
      "/c0/e252/s" ++ toString slotId ++ " " ++ joinArgs (first :: rest) := by
  have front : "/c0/e" ++ toString 252 ++ "/s" = "/c0/e252/s" := by decide
  rw [joinArgs_cons, WriteRoute.driveSelector, front]

theorem actionCommands_path (policy : PolicyContent) {mount : String} (plain : ':' ∉ mount.toList) (route : WriteRoute) :
    policy.actionCommands (route.path mount) = (route.candidates policy).map (·.command) := by
  have controller : ∀ {tail : String} {commands : List String}, (tail, commands) ∈ policy.suffixes →
      (∀ name ∈ suffixNames, Py.endsWith name tail = true ∨ Py.endsWith tail name = true → name = tail) →
        policy.actionCommands (mount ++ tail) = commands :=
    fun member only => actionCommands_controller policy mount member only
  have drive : ∀ (enclosureId slotId : ℕ) (action first : String) (rest : List String) (asked : WriteRoute),
      (':' ∉ action.toList ∧ '\n' ∉ action.toList ∧ action ≠ "") → (∀ name ∈ suffixNames,
        Py.endsWith name ("/" ++ action) = false ∧ Py.endsWith ("/" ++ action) name = false) →
      policy.driveCommands slotId action = ["/c0/e252/s" ++ toString slotId ++ " " ++ joinArgs (first :: rest)] →
      asked.command = joinArgs (WriteRoute.driveSelector enclosureId slotId :: first :: rest) →
      policy.actionCommands (WriteRoute.drivePath mount enclosureId slotId action) =
        (if enclosureId = 252 ∧ slotId ≤ 7 then [asked] else []).map (·.command) := by
    rintro enclosureId slotId action first rest asked ⟨actionPlain, line, some_⟩ apart commands own
    rw [actionCommands_drive policy plain enclosureId slotId actionPlain line some_ apart, commands]
    split_ifs with approved
    · obtain ⟨rfl, -⟩ := approved
      rw [List.map_singleton, own, joinArgs_drive]
    · rfl
  cases route with
  | buzzer action =>
    cases action with
    | silence => exact controller (List.mem_of_getElem? (i := 0) rfl) (by decide)
    | disable => exact controller (List.mem_of_getElem? (i := 1) rfl) (by decide)
    | enable => exact controller (List.mem_of_getElem? (i := 2) rfl) (by decide)
  | patrolRead action =>
    cases action with
    | start => exact controller (List.mem_of_getElem? (i := 3) rfl) (by decide)
    | stop => exact controller (List.mem_of_getElem? (i := 4) rfl) (by decide)
    | mode mode => exact controller (List.mem_of_getElem? (i := 5) rfl) (by decide)
  | consistencyCheck action =>
    cases action with
    | start vdId =>
      have found := controller (List.mem_of_getElem? (i := 6) rfl) (by decide)
      refine found.trans ?_
      have every : joinArgs (withJsonFlag ["/c0/vall", "start", "cc", "J"]) = "/c0/vall start cc J" := rfl
      have one : joinArgs (withJsonFlag ["/c0/v" ++ toString policy.virtualDrive, "start", "cc", "J"]) =
          "/c0/v" ++ toString policy.virtualDrive ++ " start cc J" := by
        have flagged : withJsonFlag ["/c0/v" ++ toString policy.virtualDrive, "start", "cc", "J"] =
            ["/c0/v" ++ toString policy.virtualDrive, "start", "cc", "J"] := rfl
        have tail : " " ++ joinArgs ["start", "cc", "J"] = " start cc J" := rfl
        rw [flagged, joinArgs_cons, String.append_assoc, tail]
      simp only [WriteRoute.candidates, List.map_cons, List.map_nil, WriteRoute.command, WriteRoute.argv, every, one]
    | stop => exact controller (List.mem_of_getElem? (i := 7) rfl) (by decide)
    | mode mode => exact controller (List.mem_of_getElem? (i := 8) rfl) (by decide)
  | foreignConfig action =>
    cases action with
    | importForeign => exact controller (List.mem_of_getElem? (i := 9) rfl) (by decide)
    | clear => exact controller (List.mem_of_getElem? (i := 10) rfl) (by decide)
  | locate action enclosureId slotId =>
    cases action with
    | start => exact drive _ _ "locate/start" "start" ["locate", "J"] _ (by decide) (by decide) rfl rfl
    | stop => exact drive _ _ "locate/stop" "stop" ["locate", "J"] _ (by decide) (by decide) rfl rfl
  | replaceStep step enclosureId slotId =>
    cases step with
    | offline => exact drive _ _ "replace/offline" "set" ["offline", "J"] _ (by decide) (by decide) rfl rfl
    | missing => exact drive _ _ "replace/missing" "set" ["missing", "J"] _ (by decide) (by decide) rfl rfl
  | advancedDriveAction action enclosureId slotId =>
    cases action with
    | markUbad =>
      refine (actionCommands_drive policy plain enclosureId slotId (by decide) (by decide) (by decide) (by decide)).trans ?_
      exact ite_self _
    | markUgood => exact drive _ _ "actions/mark-ugood" "set" ["good", "J"] _ (by decide) (by decide) rfl rfl
    | spinDown => exact drive _ _ "actions/spindown" "spindown" ["J"] _ (by decide) (by decide) rfl rfl
    | makeHotSpare dgId =>
      have tail : joinArgs ["add", "hotsparedrive", "dgs=" ++ toString policy.diskGroup, "J"] =
          "add hotsparedrive dgs=" ++ toString policy.diskGroup ++ " J" := by
        have front : "add" ++ " " ++ ("hotsparedrive" ++ " " ++ "dgs=") = "add hotsparedrive dgs=" := by decide
        rw [← front]
        simp only [joinArgs_cons, String.append_assoc]
        rfl
      exact drive _ _ "actions/hotspare" "add" ["hotsparedrive", "dgs=" ++ toString policy.diskGroup, "J"] _ (by decide)
        (by decide) (by rw [tail]; rfl) rfl
  | replaceInsert enclosureId slotId dg array row =>
    refine (actionCommands_drive policy plain enclosureId slotId (by decide) (by decide) (by decide) (by decide)).trans ?_
    rw [WriteRoute.candidates, PolicyContent.driveCommands, if_pos rfl]
    split_ifs with approved
    · obtain ⟨rfl, -⟩ := approved
      cases policy.topology slotId with
      | none => rfl
      | some topology =>
        refine congrArg (fun command => [command]) ?_
        have front : " " ++ ("insert" ++ " ") = " insert " := by decide
        have last : " " ++ "J" = " J" := by decide
        have own : (WriteRoute.replaceInsert 252 slotId topology.dg topology.array topology.row).command =
            joinArgs (WriteRoute.driveSelector 252 slotId :: "insert" :: topology.tokens ++ ["J"]) := rfl
        refine Eq.trans ?_ own.symm
        rw [← front, ← last]
        simp only [ReplacementTopology.tokens, List.cons_append, List.nil_append, joinArgs_cons,
          String.append_assoc]
        rfl
    · rfl

/-! ## What the gate asks -/

/-- A token that the runner takes as it is. -/
def Solid (token : String) : Prop := token ≠ "" ∧ ' ' ∉ token.toList

instance (token : String) : Decidable (Solid token) := inferInstanceAs (Decidable (_ ∧ _))

theorem solid_append {head tail : String} (some_ : head ≠ "") (whole : ' ' ∉ head.toList) (rest : ' ' ∉ tail.toList) :
    Solid (head ++ tail) := by
  refine ⟨?_, ?_⟩
  · intro empty
    exact some_ (String.append_eq_empty_iff.mp empty).1
  · rw [String.toList_append, List.mem_append]
    exact not_or.mpr ⟨whole, rest⟩

theorem solid_number (head : String) (some_ : head ≠ "") (whole : ' ' ∉ head.toList) (n : ℕ) : Solid (head ++ toString n) :=
  solid_append some_ whole (Nat.notMem_toString rfl n)

theorem solid_driveSelector (enclosureId slotId : ℕ) : Solid (WriteRoute.driveSelector enclosureId slotId) := by
  have enclosure := solid_number "/c0/e" (by decide) (by decide) enclosureId
  have mark : Solid ("/c0/e" ++ toString enclosureId ++ "/s") := solid_append enclosure.1 enclosure.2 (by decide)
  exact solid_number _ mark.1 mark.2 slotId

theorem solid_argv (route : WriteRoute) : ∀ token ∈ route.argv, Solid token := by
  have drive := solid_driveSelector
  have number : ∀ head, head ≠ "" ∧ ' ' ∉ head.toList → ∀ n : ℕ, Solid (head ++ toString n) :=
    fun head text n => solid_number head text.1 text.2 n
  cases route with
  | locate action enclosureId slotId =>
    cases action <;>
      exact List.forall_mem_cons.mpr ⟨drive enclosureId slotId, by decide⟩
  | replaceStep step enclosureId slotId =>
    cases step <;>
      exact List.forall_mem_cons.mpr ⟨drive enclosureId slotId, by decide⟩
  | replaceInsert enclosureId slotId dg array row =>
    simp only [WriteRoute.argv, List.forall_mem_cons]
    exact ⟨drive enclosureId slotId, by decide, number "dg=" (by decide) dg, number "array=" (by decide) array,
      number "row=" (by decide) row, by decide, by decide⟩
  | advancedDriveAction action enclosureId slotId =>
    cases action with
    | makeHotSpare dgId =>
      simp only [WriteRoute.argv, List.forall_mem_cons]
      exact ⟨drive enclosureId slotId, by decide, by decide, number "dgs=" (by decide) dgId, by decide⟩
    | markUbad | markUgood | spinDown => exact List.forall_mem_cons.mpr ⟨drive enclosureId slotId, by decide⟩
  | patrolRead action =>
    cases action with
    | mode mode => cases mode <;> decide
    | start | stop => decide
  | consistencyCheck action =>
    cases action with
    | start vdId =>
      cases vdId with
      | none => decide
      | some vdId => exact List.forall_mem_cons.mpr ⟨number "/c0/v" (by decide) vdId, by decide⟩
    | mode mode => cases mode <;> decide
    | stop => decide
  | buzzer action => cases action <;> decide
  | foreignConfig action => cases action <;> decide

theorem getLast?_withJsonFlag (args : List String) : (withJsonFlag args).getLast? = some "J" := by
  rw [withJsonFlag]
  split
  · assumption
  · exact List.getLast?_concat

theorem withJsonFlag_flagged (args : List String) : withJsonFlag (withJsonFlag args) = withJsonFlag args := by
  rw [withJsonFlag, if_pos (getLast?_withJsonFlag args)]

theorem solid_flagged (route : WriteRoute) : ∀ token ∈ withJsonFlag route.argv, Solid token := by
  rw [withJsonFlag]
  split
  · exact solid_argv route
  · intro token member
    rcases List.mem_append.mp member with inside | flag
    · exact solid_argv route token inside
    · rw [List.mem_singleton.mp flag]
      decide

/-- The command of a route falls back into its tokens. -/
theorem commandTokens_command (route : WriteRoute) : commandTokens route.command = withJsonFlag route.argv := by
  apply commandTokens_joinArgs fun token member => (solid_flagged route token member).2
  intro empty
  have last := getLast?_withJsonFlag route.argv
  rw [empty] at last
  cases last

theorem permits_iff (policy : PolicyContent) (args : List String) :
    policy.permits args = true ↔ policy.Lists (joinArgs (withJsonFlag args)) := by
  rw [PolicyContent.permits, List.contains_iff_mem, PolicyContent.Lists]

theorem permits_splitCommand (policy : PolicyContent) (route : WriteRoute) :
    policy.permits (splitCommand route.command) = true ↔ policy.Lists route.command := by
  have kept : (withJsonFlag route.argv).filter (· != "") = withJsonFlag route.argv := by
    rw [List.filter_eq_self]
    intro token member
    exact bne_iff_ne.mpr (solid_flagged route token member).1
  rw [permits_iff, splitCommand, commandTokens_command, kept, withJsonFlag_flagged]
  rfl

/-- Without a selected command the gate lets any candidate through. -/
theorem actionRefusal_none_iff (policy : PolicyContent) {mount : String} (plain : ':' ∉ mount.toList)
    (route : WriteRoute) : policy.actionRefusal (route.path mount) none = none ↔
      ∃ asked ∈ route.candidates policy, policy.Lists asked.command := by
  rw [PolicyContent.actionRefusal, actionCommands_path policy plain]
  simp only [List.any_map, ite_eq_left_iff, reduceCtorEq, imp_false, not_not, List.any_eq_true,
    Function.comp_apply, permits_splitCommand]

/-- With a selected command the gate lets through that command alone. -/
theorem actionRefusal_selected_iff (policy : PolicyContent) {mount : String} (plain : ':' ∉ mount.toList)
    (route : WriteRoute) : policy.actionRefusal (route.path mount) (some route.argv) = none ↔
      (∃ asked ∈ route.candidates policy, asked.command = route.command) ∧ policy.Lists route.command := by
  rw [PolicyContent.actionRefusal, actionCommands_path policy plain]
  simp only [List.filter_map, List.any_map, ite_eq_left_iff, reduceCtorEq, imp_false, not_not, List.any_eq_true, Function.comp_apply, permits_splitCommand, List.mem_filter, beq_iff_eq]
  constructor
  · rintro ⟨asked, ⟨member, same⟩, listed⟩
    have named : asked.command = route.command := same
    exact ⟨⟨asked, member, named⟩, named ▸ listed⟩
  · rintro ⟨⟨asked, member, same⟩, listed⟩
    exact ⟨asked, ⟨member, same⟩, same ▸ listed⟩

/-! ## What the runner asks -/

section Runner

variable [PyDigits]

/-- The policy approves every step of a replacement. -/
def ReplacementApproved (policy : PolicyContent) (enclosureId slotId : ℕ) : Prop :=
  (enclosureId = 252 ∧ slotId ≤ 7) ∧ policy.Lists (WriteRoute.replaceStep .offline enclosureId slotId).command ∧
    policy.Lists (WriteRoute.replaceStep .missing enclosureId slotId).command ∧
    ∃ topology ∈ policy.topology slotId,
      policy.Lists (WriteRoute.replaceInsert enclosureId slotId topology.dg topology.array topology.row).command

omit [PyDigits] in
theorem beforeLastSlash_append (front word : String) (whole : '/' ∉ word.toList) :
    beforeLastSlash (front ++ "/" ++ word) = front := by
  have chars : (front ++ "/" ++ word).toList.reverse = word.toList.reverse ++ '/' :: front.toList.reverse := by
    simp only [String.toList_append, List.reverse_append, List.append_assoc]
    rfl
  have rest : (front ++ "/" ++ word).toList.reverse.dropWhile (· != '/') = '/' :: front.toList.reverse := by
    rw [chars, List.dropWhile_append_of_pos]
    · rfl
    · intro c member
      exact bne_iff_ne.mpr fun same => whole (same ▸ List.mem_reverse.mp member)
  rw [beforeLastSlash, rest]
  dsimp only
  rw [List.reverse_reverse, String.ofList_toList]

omit [PyDigits] in
/-- The refusal of a replacement, from the path of any of its steps. -/
theorem replacementRefusal_iff (policy : PolicyContent) {mount : String} (plain : ':' ∉ mount.toList)
    (enclosureId slotId : ℕ) (step : String) (whole : '/' ∉ step.toList) :
    policy.replacementRefusal (WriteRoute.drivePath mount enclosureId slotId ("replace/" ++ step)) = none ↔
      ReplacementApproved policy enclosureId slotId := by
  have base : ∀ step : String, WriteRoute.drivePath mount enclosureId slotId ("replace/" ++ step) =
      mount ++ "/drives/" ++ toString enclosureId ++ ":" ++ toString slotId ++ "/replace" ++ "/" ++ step := by
    intro step
    have front : "/" ++ ("replace/" ++ step) = "/replace" ++ ("/" ++ step) := by
      rw [← String.append_assoc, ← String.append_assoc]
      exact congrArg (· ++ step) (by decide)
    simp only [WriteRoute.drivePath, String.append_assoc]
    rw [front]
  have paths : ∀ other : String, beforeLastSlash (WriteRoute.drivePath mount enclosureId slotId ("replace/" ++ step)) ++
      "/" ++ other = WriteRoute.drivePath mount enclosureId slotId ("replace/" ++ other) := by
    intro other
    rw [base step, beforeLastSlash_append _ _ whole, base other]
  have offline := actionRefusal_none_iff policy plain (.replaceStep .offline enclosureId slotId)
  have missing := actionRefusal_none_iff policy plain (.replaceStep .missing enclosureId slotId)
  have insert_ := actionRefusal_none_iff policy plain (.replaceInsert enclosureId slotId 0 0 0)
  have asks : policy.replacementRefusal (WriteRoute.drivePath mount enclosureId slotId ("replace/" ++ step)) = none ↔
      policy.actionRefusal ((WriteRoute.replaceStep .offline enclosureId slotId).path mount) none = none ∧
      policy.actionRefusal ((WriteRoute.replaceStep .missing enclosureId slotId).path mount) none = none ∧
      policy.actionRefusal ((WriteRoute.replaceInsert enclosureId slotId 0 0 0).path mount) none = none := by
    simp only [PolicyContent.replacementRefusal, List.findSome?_eq_none_iff, List.forall_mem_cons, List.not_mem_nil,
      false_imp_iff, implies_true, and_true, paths, Option.map_eq_none_iff]
    rfl
  rw [asks, offline, missing, insert_]
  by_cases approved : enclosureId = 252 ∧ slotId ≤ 7
  · simp only [WriteRoute.candidates, if_pos approved, List.mem_singleton, exists_eq_left, ReplacementApproved,
      List.mem_map, Option.mem_toList, exists_exists_and_eq_and]
    exact (and_iff_right approved).symm
  · simp only [WriteRoute.candidates, if_neg approved, List.not_mem_nil, false_and, exists_false, ReplacementApproved]
    exact ⟨False.elim, fun all => approved all.1⟩

omit [PyDigits] in
theorem replaceSlotMark_append {front : List Char} (plain : '/' ∉ front) (back : List Char) :
    replaceSlotMark (front ++ back) = front ++ replaceSlotMark back := by
  induction front with
  | nil => rfl
  | cons c front ih =>
    obtain ⟨other, rest⟩ := not_or.mp fun either => plain (List.mem_cons.mpr either)
    rw [List.cons_append, List.cons_append, ← ih rest, replaceSlotMark]
    intro back' slash
    exact absurd slash.symm other

omit [PyDigits] in
theorem replaceSlotMark_plain {chars : List Char} (plain : '/' ∉ chars) : replaceSlotMark chars = chars := by
  have whole := replaceSlotMark_append plain []
  rwa [List.append_nil, replaceSlotMark, List.append_nil] at whole

omit [PyDigits] in
theorem driveSelector_toList (enclosureId slotId : ℕ) : (WriteRoute.driveSelector enclosureId slotId).toList =
    "/c0/e".toList ++ ((toString enclosureId).toList ++ '/' :: 's' :: (toString slotId).toList) := by
  simp only [WriteRoute.driveSelector, String.toList_append, List.append_assoc]
  rfl

omit [PyDigits] in
theorem driveSelector_injective {enclosureId slotId enclosureId' slotId' : ℕ}
    (same : WriteRoute.driveSelector enclosureId slotId = WriteRoute.driveSelector enclosureId' slotId') :
    enclosureId = enclosureId' ∧ slotId = slotId' := by
  have chars := congrArg String.toList same
  rw [driveSelector_toList, driveSelector_toList] at chars
  obtain ⟨enclosure, back⟩ := List.first_word_inj (Nat.notMem_toString rfl enclosureId)
    (Nat.notMem_toString rfl enclosureId') (List.append_cancel_left chars)
  have slot := (List.cons_eq_cons.mp back).2
  exact ⟨Nat.toString_injective (String.toList_inj.mp enclosure), Nat.toString_injective (String.toList_inj.mp slot)⟩

omit [PyDigits] in
/-- The slot in the path that the runner makes of a drive. -/
theorem slotOfSelector_driveSelector (enclosureId slotId : ℕ) :
    slotOfSelector (WriteRoute.driveSelector enclosureId slotId) = toString enclosureId ++ ":" ++ toString slotId := by
  have chars := driveSelector_toList enclosureId slotId
  have starts : Py.startsWith (WriteRoute.driveSelector enclosureId slotId) "/c0/e" = true := by
    rw [Py.startsWith, chars, List.isPrefixOf_iff_prefix]
    exact List.prefix_append _ _
  have front : (Py.dropPrefix (WriteRoute.driveSelector enclosureId slotId) "/c0/e").toList =
      (toString enclosureId).toList ++ '/' :: 's' :: (toString slotId).toList := by
    rw [Py.dropPrefix, String.toList_ofList, chars, List.drop_left]
  rw [slotOfSelector, if_pos starts, front, replaceSlotMark_append (Nat.notMem_toString rfl enclosureId),
    replaceSlotMark, replaceSlotMark_plain (Nat.notMem_toString rfl slotId)]
  apply String.toList_inj.mp
  simp only [String.toList_ofList, String.toList_append, List.append_assoc]
  rfl

/-! ## Agreement -/

section Agreement

variable {policy : CommandPolicy}

/-- A listed command of a drive is one of an approved drive. -/
theorem approved_of_lists {route : WriteRoute} {enclosureId slotId : ℕ} {rest : List String}
    (tokens : withJsonFlag route.argv = WriteRoute.driveSelector enclosureId slotId :: rest)
    (listed : policy.Lists route.command) : enclosureId = 252 ∧ slotId ≤ 7 := by
  have drive := (policy.itemValid listed).drive
  rw [commandTokens_command, tokens, List.headD_cons] at drive
  have starts : Py.startsWith (WriteRoute.driveSelector enclosureId slotId) "/c0/e" = true := by
    rw [WriteRoute.driveSelector, String.append_assoc, String.append_assoc]
    exact Py.startsWith_append _ _
  obtain ⟨slot, approved⟩ := drive starts
  obtain ⟨low, same⟩ := approvedDrive_eq_some approved
  obtain ⟨rfl, rfl⟩ := driveSelector_injective same
  exact ⟨rfl, low⟩

/-- A vector of a route passes the runner when the policy lists it and, for a replacement, approves all steps. -/
theorem runnerAccepts_iff (route : WriteRoute) : RunnerAccepts policy.toPolicyContent route.argv ↔
    policy.Lists route.command ∧ policy.replacementCommandRefusal (withJsonFlag route.argv) = none := by
  rw [RunnerAccepts, permits_iff, withJsonFlag_flagged]
  constructor
  · rintro ⟨-, free, listed⟩
    exact ⟨listed, free⟩
  · rintro ⟨listed, free⟩
    have accepted := (policy.itemValid listed).accepted
    rw [commandTokens_command] at accepted
    exact ⟨accepted, free, listed⟩

/-- The runner asks the same about a replacement as the gate. -/
theorem replacementCommandRefusal_iff {enclosureId slotId : ℕ} (rest : List String)
    (replaces : rest.take 2 ∈ [["set", "offline"], ["set", "missing"]] ∨ rest[0]? = some "insert") :
    policy.replacementCommandRefusal (WriteRoute.driveSelector enclosureId slotId :: rest) = none ↔
      ReplacementApproved policy.toPolicyContent enclosureId slotId := by
  have asked : policy.replacementCommandRefusal (WriteRoute.driveSelector enclosureId slotId :: rest) =
      policy.replacementRefusal (WriteRoute.drivePath "" enclosureId slotId ("replace/" ++ "step")) := by
    rw [PolicyContent.replacementCommandRefusal]
    refine (if_pos replaces).trans ?_
    rw [List.headD_cons, slotOfSelector_driveSelector]
    apply congrArg policy.replacementRefusal
    have back : "/replace/step" = "/" ++ ("replace/" ++ "step") := by decide
    have front : "/drives/" = "" ++ "/drives/" := by decide
    rw [WriteRoute.drivePath, back, ← front]
    simp only [String.append_assoc]
  rw [asked]
  exact replacementRefusal_iff policy.toPolicyContent List.not_mem_nil enclosureId slotId "step" (by decide)

/-! ### Route by route -/

/-- The gate refuses nothing exactly when the runner accepts a vector that the handler can build. -/
def GateAgrees (policy : PolicyContent) (mount : MountPath) (route : WriteRoute) : Prop :=
  route.policyRefusal policy mount.text = none ↔ ∃ args, route.HandlerBuilds args ∧ RunnerAccepts policy args

variable {mount : MountPath} {route : WriteRoute}

/-- A route with one vector that is no replacement agrees when the gate asks for that vector. -/
theorem gateAgrees_of_command (gate : route.policyRefusal policy.toPolicyContent mount.text = none ↔ policy.Lists route.command)
    (builds : ∀ args, route.HandlerBuilds args ↔ route.InRange ∧ args = route.argv)
    (inRange : policy.Lists route.command → route.InRange)
    (free : policy.replacementCommandRefusal (withJsonFlag route.argv) = none) :
    GateAgrees policy.toPolicyContent mount route := by
  rw [GateAgrees, gate]
  constructor
  · intro listed
    exact ⟨route.argv, (builds _).mpr ⟨inRange listed, rfl⟩, (runnerAccepts_iff route).mpr ⟨listed, free⟩⟩
  · rintro ⟨args, built, accepted⟩
    obtain ⟨-, rfl⟩ := (builds args).mp built
    exact ((runnerAccepts_iff route).mp accepted).1

/-- An action of one drive that the gate knows. -/
theorem gateAgrees_drive {enclosureId slotId : ℕ} {rest : List String}
    (asks : route.policyRefusal policy.toPolicyContent mount.text = policy.actionRefusal (route.path mount.text) none)
    (candidates : route.candidates policy.toPolicyContent = if enclosureId = 252 ∧ slotId ≤ 7 then [route] else [])
    (tokens : withJsonFlag route.argv = WriteRoute.driveSelector enclosureId slotId :: rest)
    (builds : ∀ args, route.HandlerBuilds args ↔ route.InRange ∧ args = route.argv)
    (range : enclosureId ≤ 255 ∧ slotId ≤ 255 → route.InRange)
    (free : policy.replacementCommandRefusal (withJsonFlag route.argv) = none) :
    GateAgrees policy.toPolicyContent mount route := by
  refine gateAgrees_of_command ?_ builds ?_ free
  · rw [asks, actionRefusal_none_iff policy.toPolicyContent mount.plain, candidates]
    constructor
    · split_ifs
      · rintro ⟨asked, member, listed⟩
        rw [List.mem_singleton.mp member] at listed
        exact listed
      · rintro ⟨asked, member, -⟩
        cases member
    · intro listed
      rw [if_pos (approved_of_lists tokens listed)]
      exact ⟨route, List.mem_singleton_self _, listed⟩
  · intro listed
    obtain ⟨rfl, low⟩ := approved_of_lists tokens listed
    exact range ⟨by decide, low.trans (by decide)⟩

/-- An action of the controller that the gate knows. -/
theorem gateAgrees_controller
    (asks : route.policyRefusal policy.toPolicyContent mount.text = policy.actionRefusal (route.path mount.text) none)
    (candidates : route.candidates policy.toPolicyContent = [route])
    (builds : ∀ args, route.HandlerBuilds args ↔ route.InRange ∧ args = route.argv) (range : route.InRange)
    (free : policy.replacementCommandRefusal (withJsonFlag route.argv) = none) :
    GateAgrees policy.toPolicyContent mount route := by
  refine gateAgrees_of_command ?_ builds (fun _ => range) free
  rw [asks, actionRefusal_none_iff policy.toPolicyContent mount.plain, candidates]
  simp only [List.mem_singleton, exists_eq_left]

/-- A route whose body selects the command. -/
theorem gateAgrees_selected
    (asks : route.policyRefusal policy.toPolicyContent mount.text =
      policy.actionRefusal (route.path mount.text) (some route.argv))
    (candidates : policy.Lists route.command → ∃ asked ∈ route.candidates policy.toPolicyContent, asked.command = route.command)
    (builds : ∀ args, route.HandlerBuilds args ↔ route.InRange ∧ args = route.argv) (range : route.InRange)
    (free : policy.replacementCommandRefusal (withJsonFlag route.argv) = none) :
    GateAgrees policy.toPolicyContent mount route := by
  refine gateAgrees_of_command ?_ builds (fun _ => range) free
  rw [asks, actionRefusal_selected_iff policy.toPolicyContent mount.plain]
  exact ⟨And.right, fun listed => ⟨candidates listed, listed⟩⟩

theorem gateAgrees_locate (action : LocateAction) (enclosureId slotId : ℕ) :
    GateAgrees policy.toPolicyContent mount (.locate action enclosureId slotId) := by
  cases action with
  | start => exact gateAgrees_drive rfl rfl rfl (fun args => Iff.rfl) id rfl
  | stop => exact gateAgrees_drive rfl rfl rfl (fun args => Iff.rfl) id rfl

theorem gateAgrees_buzzer (action : BuzzerAction) : GateAgrees policy.toPolicyContent mount (.buzzer action) := by
  cases action with
  | silence | disable | enable => exact gateAgrees_controller rfl rfl (fun args => Iff.rfl) trivial rfl

theorem gateAgrees_foreignConfig (action : ForeignConfigAction) :
    GateAgrees policy.toPolicyContent mount (.foreignConfig action) := by
  cases action with
  | importForeign | clear => exact gateAgrees_controller rfl rfl (fun args => Iff.rfl) trivial rfl

theorem gateAgrees_patrolRead (action : PatrolReadAction) :
    GateAgrees policy.toPolicyContent mount (.patrolRead action) := by
  cases action with
  | start | stop => exact gateAgrees_controller rfl rfl (fun args => Iff.rfl) trivial rfl
  | mode mode =>
    refine gateAgrees_selected rfl (fun _ => ⟨.patrolRead (.mode mode), ?_, rfl⟩) (fun args => Iff.rfl) trivial ?_
    · cases mode <;> simp [WriteRoute.candidates]
    · cases mode <;> rfl

/-- A listed check of one virtual drive is that of the approved one. -/
theorem virtualDrive_of_lists {vdId : ℕ}
    (listed : policy.Lists (WriteRoute.consistencyCheck (.start (some vdId))).command) : vdId = policy.virtualDrive := by
  have own := (policy.itemValid listed).virtualDrive
  have tokens : withJsonFlag (WriteRoute.consistencyCheck (.start (some vdId))).argv =
      ["/c0/v" ++ toString vdId, "start", "cc", "J"] := rfl
  rw [commandTokens_command, tokens, List.headD_cons] at own
  rcases own (Py.startsWith_append _ _) with every | approved
  · have chars := congrArg String.toList every
    have front : "/c0/vall" = "/c0/v" ++ "all" := by decide
    rw [front, String.toList_append, String.toList_append] at chars
    have letter : 'a' ∈ (toString vdId).toList := by
      rw [List.append_cancel_left chars]
      decide
    exact absurd letter (Nat.notMem_toString rfl vdId)
  · have chars := congrArg String.toList approved
    rw [String.toList_append, String.toList_append] at chars
    exact Nat.toString_injective (String.toList_inj.mp (List.append_cancel_left chars))

theorem gateAgrees_consistencyCheck (action : ConsistencyCheckAction) :
    GateAgrees policy.toPolicyContent mount (.consistencyCheck action) := by
  cases action with
  | stop => exact gateAgrees_controller rfl rfl (fun args => Iff.rfl) trivial rfl
  | mode mode =>
    refine gateAgrees_selected rfl (fun _ => ⟨.consistencyCheck (.mode mode), ?_, rfl⟩) (fun args => Iff.rfl) trivial ?_
    · cases mode <;> simp [WriteRoute.candidates]
    · cases mode <;> rfl
  | start vdId =>
    by_cases range : (vdId.all fun id => decide (id ≤ 255)) = true
    · have bound : (WriteRoute.consistencyCheck (.start vdId)).InRange := by
        intro id member
        rw [Option.mem_def] at member
        simpa [member] using range
      refine gateAgrees_selected ?_ ?_ (fun args => Iff.rfl) bound ?_
      · rw [WriteRoute.policyRefusal, WriteRoute.requestedApprovalCommand, if_pos range]
        rfl
      · intro listed
        cases vdId with
        | none => exact ⟨.consistencyCheck (.start none), List.mem_cons_self, rfl⟩
        | some vdId =>
          obtain rfl := virtualDrive_of_lists listed
          exact ⟨.consistencyCheck (.start (some policy.virtualDrive)), List.mem_cons_of_mem _ List.mem_cons_self, rfl⟩
      · cases vdId <;> rfl
    · rw [GateAgrees, WriteRoute.policyRefusal, WriteRoute.requestedApprovalCommand, if_neg range]
      constructor
      · rintro ⟨⟩
      · rintro ⟨args, ⟨bound, -⟩, -⟩
        refine absurd ?_ range
        cases vdId with
        | none => rfl
        | some vdId => exact decide_eq_true (bound vdId rfl)

theorem gateAgrees_replaceStep (step : ReplaceStep) (enclosureId slotId : ℕ) :
    GateAgrees policy.toPolicyContent mount (.replaceStep step enclosureId slotId) := by
  have gate : (WriteRoute.replaceStep step enclosureId slotId).policyRefusal policy.toPolicyContent mount.text = none ↔
      ReplacementApproved policy.toPolicyContent enclosureId slotId := by
    cases step with
    | offline => exact replacementRefusal_iff policy.toPolicyContent mount.plain enclosureId slotId "offline" (by decide)
    | missing => exact replacementRefusal_iff policy.toPolicyContent mount.plain enclosureId slotId "missing" (by decide)
  have runner : policy.replacementCommandRefusal (withJsonFlag (WriteRoute.replaceStep step enclosureId slotId).argv) = none ↔
      ReplacementApproved policy.toPolicyContent enclosureId slotId := by
    cases step with
    | offline => exact replacementCommandRefusal_iff ["set", "offline", "J"] (by decide)
    | missing => exact replacementCommandRefusal_iff ["set", "missing", "J"] (by decide)
  rw [GateAgrees, gate]
  constructor
  · intro approved
    have range : enclosureId ≤ 255 ∧ slotId ≤ 255 := by
      obtain ⟨⟨rfl, low⟩, -⟩ := approved
      exact ⟨by decide, low.trans (by decide)⟩
    have listed : policy.Lists (WriteRoute.replaceStep step enclosureId slotId).command := by
      cases step with
      | offline => exact approved.2.1
      | missing => exact approved.2.2.1
    exact ⟨_, ⟨range, rfl⟩, (runnerAccepts_iff _).mpr ⟨listed, runner.mpr approved⟩⟩
  · rintro ⟨args, ⟨-, rfl⟩, accepted⟩
    exact runner.mp ((runnerAccepts_iff _).mp accepted).2

theorem gateAgrees_replaceInsert (enclosureId slotId dg array row : ℕ) :
    GateAgrees policy.toPolicyContent mount (.replaceInsert enclosureId slotId dg array row) := by
  have gate : (WriteRoute.replaceInsert enclosureId slotId dg array row).policyRefusal policy.toPolicyContent mount.text = none ↔
      ReplacementApproved policy.toPolicyContent enclosureId slotId :=
    replacementRefusal_iff policy.toPolicyContent mount.plain enclosureId slotId "insert" (by decide)
  have runner : ∀ dg array row, policy.replacementCommandRefusal
      (withJsonFlag (WriteRoute.replaceInsert enclosureId slotId dg array row).argv) = none ↔
        ReplacementApproved policy.toPolicyContent enclosureId slotId := by
    intro dg array row
    exact replacementCommandRefusal_iff _ (.inr rfl)
  rw [GateAgrees, gate]
  constructor
  · intro approved
    have whole := approved
    obtain ⟨⟨rfl, low⟩, -, -, topology, found, listed⟩ := whole
    have bounds : topology.slot ≤ 7 ∧ topology.dg ≤ 63 ∧ topology.array ≤ 63 ∧ topology.row ≤ 255 := by
      have fields := policy.fields
      simp only [PolicyContent.validFields, Bool.and_eq_true, List.all_eq_true, decide_eq_true_eq] at fields
      have own := fields.2 topology (List.mem_of_find?_eq_some found)
      exact ⟨own.1.1.1, own.1.1.2, own.1.2, own.2⟩
    exact ⟨_, ⟨topology.dg, topology.array, topology.row, ⟨by decide, low.trans (by decide), bounds.2⟩, rfl⟩,
      (runnerAccepts_iff _).mpr ⟨listed, (runner _ _ _).mpr approved⟩⟩
  · rintro ⟨args, ⟨dg, array, row, -, rfl⟩, accepted⟩
    exact (runner _ _ _).mp ((runnerAccepts_iff _).mp accepted).2

theorem not_lists_markUbad (enclosureId slotId : ℕ) :
    ¬ policy.Lists (WriteRoute.advancedDriveAction .markUbad enclosureId slotId).command := by
  intro listed
  have named := (policy.itemValid listed).namesApproved
  have tokens : withJsonFlag (WriteRoute.advancedDriveAction .markUbad enclosureId slotId).argv =
      [WriteRoute.driveSelector enclosureId slotId, "set", "bad", "J"] := rfl
  rw [commandTokens_command, tokens] at named
  generalize same : [WriteRoute.driveSelector enclosureId slotId, "set", "bad", "J"] = whole at named
  cases named with
  | controller fixed => simp [← same, controllerWrites] at fixed
  | drive low fixed =>
    rw [← (List.cons_eq_cons.mp same).2] at fixed
    exact absurd fixed (by decide)
  | virtualDrive | hotSpare | insert_ => simp at same

/-- The hot spare that the policy approves for a drive. -/
theorem diskGroup_of_lists {dgId enclosureId slotId : ℕ}
    (listed : policy.Lists (WriteRoute.advancedDriveAction (.makeHotSpare dgId) enclosureId slotId).command) :
    dgId = policy.diskGroup := by
  have group := (policy.itemValid listed).diskGroup
  have tokens : withJsonFlag (WriteRoute.advancedDriveAction (.makeHotSpare dgId) enclosureId slotId).argv =
      [WriteRoute.driveSelector enclosureId slotId, "add", "hotsparedrive", "dgs=" ++ toString dgId, "J"] := rfl
  rw [commandTokens_command, tokens, WriteRoute.driveSelector, String.append_assoc, String.append_assoc] at group
  have same := dgs_eq (group (by simp))
  have chars := congrArg String.toList same
  rw [String.toList_append, String.toList_append] at chars
  exact (Nat.toString_injective (String.toList_inj.mp (List.append_cancel_left chars))).symm

/-- The gate asks for the hot spare of the approved disk group, whichever group the body names. -/
theorem gateAgrees_makeHotSpare_iff (dgId enclosureId slotId : ℕ) :
    GateAgrees policy.toPolicyContent mount (.advancedDriveAction (.makeHotSpare dgId) enclosureId slotId) ↔
      (policy.Lists (WriteRoute.advancedDriveAction (.makeHotSpare policy.diskGroup) enclosureId slotId).command →
        dgId = policy.diskGroup) := by
  have asks : (WriteRoute.advancedDriveAction (.makeHotSpare dgId) enclosureId slotId).policyRefusal
      policy.toPolicyContent mount.text = none ↔
        policy.Lists (WriteRoute.advancedDriveAction (.makeHotSpare policy.diskGroup) enclosureId slotId).command := by
    refine (actionRefusal_none_iff policy.toPolicyContent mount.plain
      (.advancedDriveAction (.makeHotSpare dgId) enclosureId slotId)).trans ?_
    rw [WriteRoute.candidates]
    constructor
    · split_ifs
      · rintro ⟨asked, member, listed⟩
        rw [List.mem_singleton.mp member] at listed
        exact listed
      · rintro ⟨asked, member, -⟩
        cases member
    · intro listed
      rw [if_pos (approved_of_lists rfl listed)]
      exact ⟨_, List.mem_singleton_self _, listed⟩
  rw [GateAgrees, asks]
  constructor
  · intro agrees listed
    obtain ⟨args, ⟨-, rfl⟩, accepted⟩ := agrees.mp listed
    exact diskGroup_of_lists ((runnerAccepts_iff _).mp accepted).1
  · intro own
    constructor
    · intro listed
      obtain rfl := own listed
      obtain ⟨rfl, low⟩ := approved_of_lists rfl listed
      have bound : policy.diskGroup ≤ 63 := by
        have fields := policy.fields
        simp only [PolicyContent.validFields, Bool.and_eq_true, decide_eq_true_eq] at fields
        exact fields.1.1.1.2
      exact ⟨_, ⟨⟨by decide, low.trans (by decide), bound⟩, rfl⟩, (runnerAccepts_iff _).mpr ⟨listed, rfl⟩⟩
    · rintro ⟨args, ⟨-, rfl⟩, accepted⟩
      have listed := ((runnerAccepts_iff _).mp accepted).1
      obtain rfl := diskGroup_of_lists listed
      exact listed

end Agreement

/-- The route is a hot spare whose body names another disk group than the approved one, and the policy approves the
hot spare of its drive. -/
def HotSpareElsewhere (policy : PolicyContent) : WriteRoute → Prop
  | .advancedDriveAction (.makeHotSpare dgId) enclosureId slotId => dgId ≠ policy.diskGroup ∧
      policy.Lists (WriteRoute.advancedDriveAction (.makeHotSpare policy.diskGroup) enclosureId slotId).command
  | _ => False

/-- The gate agrees with the runner on every route but a hot spare for another disk group, and what a policy permits
names approved objects only. -/
theorem gate_agrees_iff (policy : CommandPolicy) (mount : MountPath) (route : WriteRoute) :
    (GateAgrees policy.toPolicyContent mount route ↔ ¬ HotSpareElsewhere policy.toPolicyContent route) ∧
    ∀ args, policy.permits args = true →
      commandAllowed (joinArgs (withJsonFlag args)) = true ∧
        ∃ tokens, joinArgs tokens = joinArgs (withJsonFlag args) ∧ NamesApproved policy.toPolicyContent tokens := by
  refine ⟨?_, ?_⟩
  · cases route with
    | locate action enclosureId slotId => exact iff_of_true (gateAgrees_locate action enclosureId slotId) id
    | replaceStep step enclosureId slotId => exact iff_of_true (gateAgrees_replaceStep step enclosureId slotId) id
    | replaceInsert enclosureId slotId dg array row =>
      exact iff_of_true (gateAgrees_replaceInsert enclosureId slotId dg array row) id
    | patrolRead action => exact iff_of_true (gateAgrees_patrolRead action) id
    | consistencyCheck action => exact iff_of_true (gateAgrees_consistencyCheck action) id
    | buzzer action => exact iff_of_true (gateAgrees_buzzer action) id
    | foreignConfig action => exact iff_of_true (gateAgrees_foreignConfig action) id
    | advancedDriveAction action enclosureId slotId =>
      cases action with
      | markUgood | spinDown => exact iff_of_true (gateAgrees_drive rfl rfl rfl (fun args => Iff.rfl) id rfl) id
      | markUbad =>
        refine iff_of_true (gateAgrees_of_command ?_ (fun args => Iff.rfl) ?_ rfl) id
        · refine (actionRefusal_none_iff policy.toPolicyContent mount.plain
            (.advancedDriveAction .markUbad enclosureId slotId)).trans ?_
          exact iff_of_false (fun asked => absurd asked.choose_spec.1 List.not_mem_nil)
            (not_lists_markUbad enclosureId slotId)
        · exact fun listed => absurd listed (not_lists_markUbad enclosureId slotId)
      | makeHotSpare dgId =>
        rw [gateAgrees_makeHotSpare_iff, HotSpareElsewhere]
        constructor
        · rintro own ⟨other, listed⟩
          exact other (own listed)
        · intro none_ listed
          exact by_contra fun other => none_ ⟨other, listed⟩
  · intro args permitted
    have listed := (permits_iff policy.toPolicyContent args).mp permitted
    have item := policy.itemValid listed
    exact ⟨item.allowed, _, joinArgs_commandTokens _, item.namesApproved⟩

end Runner

/-- The approved group is 0 and the body names group 1: the gate lets the request in, the runner refuses its command. -/
theorem gate_agrees_hot_spare_elsewhere :
    let _ := PyDigits.ascii
    ∃ policy : CommandPolicy, policy.diskGroup = 0 ∧
      ¬ GateAgrees policy.toPolicyContent ⟨"", .inl rfl⟩ (.advancedDriveAction (.makeHotSpare 1) 252 3) := by
  let _ := PyDigits.ascii
  let content : PolicyContent := {
    serviceUser := "megaraid"
    controllerSerial := "SR00000001"
    virtualDrive := 0
    diskGroup := 0
    replacements := []
    commands := [⟨"/c0/e252/s3 add hotsparedrive dgs=0 J", "reviewed help"⟩] }
  let policy : CommandPolicy := ⟨content, by decide +kernel, by decide +kernel⟩
  refine ⟨policy, rfl, ?_⟩
  rw [gateAgrees_makeHotSpare_iff]
  intro own
  have listed : "/c0/e252/s3 add hotsparedrive dgs=0 J" ∈ content.commands.map (·.command) := by decide
  have command : (WriteRoute.advancedDriveAction (.makeHotSpare 0) 252 3).command = "/c0/e252/s3 add hotsparedrive dgs=0 J" := by
    decide +kernel
  exact absurd (own (command ▸ listed)) (by decide)

end MegaraidDashboard.Web
