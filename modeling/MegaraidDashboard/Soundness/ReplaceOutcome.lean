import MegaraidDashboard.Model.Python.DateTime
import MegaraidDashboard.Model.Web.ReplaceOutcome
import MegaraidDashboard.Soundness.ReplacementAudit

/-! # The round trip of a replacement message

The message of a successful Missing reads back, by the pattern and by the tokenizer, exactly when its serial
number is one word. The message of a failed step has more blanks than the pattern.
-/

namespace MegaraidDashboard.Web

open Storcli

section Blanks

theorem count_blank_reference (enclosureId slotId : ℕ) : (slotReference enclosureId slotId).toList.count ' ' = 0 :=
  List.count_eq_zero.mpr (notMem_slotReference (by decide) _ _)

theorem count_blank_replaceMessage (step : ReplaceStep) (enclosureId slotId : ℕ) (serial outcome : String) :
    (replaceMessage step enclosureId slotId serial outcome).toList.count ' ' =
      7 + serial.toList.count ' ' + outcome.toList.count ' ' := by
  have opening : "replace step ".toList.count ' ' = 2 := by decide
  have name : step.name.toList.count ' ' = 0 := by cases step <;> decide
  have drive : "drive".toList.count ' ' = 0 := by decide
  have blank : " ".toList.count ' ' = 1 := by decide
  have word : " serial ".toList.count ' ' = 2 := by decide
  unfold replaceMessage
  simp only [String.toList_append, slotToken_toList, List.count_append, List.count_cons_self, opening, name, drive,
    blank, word, count_blank_reference]
  omega

/-- The pattern has seven blanks. -/
theorem count_blank_of_succeeded {message : String} (succeeded : replaceStepMissingSucceeded message = true) :
    message.toList.count ' ' = 7 := by
  obtain ⟨reference, number, split, -⟩ := replaceStepMissingSucceeded_iff.mp succeeded
  have length := congrArg List.length split
  rw [List.length_splitOn] at length
  exact Nat.succ.inj length

theorem count_blank_succeeded : "succeeded".toList.count ' ' = 0 := by decide

theorem blank_mem_append {head : String} (blank : ' ' ∈ head.toList) (rest : String) : ' ' ∈ (head ++ rest).toList := by
  rw [String.toList_append]
  exact List.mem_append_left _ blank

/-- A failure is told behind a blank. -/
theorem count_blank_outcome (failure : ReplaceFailure) : 0 < failure.outcome.toList.count ' ' := by
  rw [List.count_pos_iff]
  cases failure with
  | precheck error => exact blank_mem_append (by decide) _
  | command kind error => exact blank_mem_append (blank_mem_append (blank_mem_append (by decide) _) _) _

/-- No error text makes a failed step look like a success. -/
theorem not_succeeded_of_failure (step : ReplaceStep) (enclosureId slotId : ℕ) (serial : String)
    (failure : ReplaceFailure) :
    replaceStepMissingSucceeded (replaceMessage step enclosureId slotId serial failure.outcome) = false := by
  rw [Bool.eq_false_iff]
  intro succeeded
  have seven := count_blank_of_succeeded succeeded
  have blanks := count_blank_outcome failure
  rw [count_blank_replaceMessage] at seven
  omega

end Blanks

section Serial

/-- The pattern reads a successful Missing exactly when the serial number is one word. -/
theorem succeeded_replaceMessage_iff (enclosureId slotId : ℕ) (serial : String) :
    replaceStepMissingSucceeded (replaceMessage .missing enclosureId slotId serial "succeeded") = true ↔
      serial.toList ≠ [] ∧ ∀ char ∈ serial.toList, Py.isSpace char = false := by
  constructor
  · intro succeeded
    have seven := count_blank_of_succeeded succeeded
    rw [count_blank_replaceMessage, count_blank_succeeded] at seven
    have blank : ' ' ∉ serial.toList := List.count_eq_zero.mp (by omega)
    obtain ⟨reference, number, split, -, some_, solid⟩ := replaceStepMissingSucceeded_iff.mp succeeded
    rw [splitOn_replaceMessage_missing enclosureId slotId blank] at split
    simp only [missingWords, List.cons.injEq, and_true, true_and] at split
    rw [split.2]
    exact ⟨some_, solid⟩
  · rintro ⟨some_, solid⟩
    exact replaceStepMissingSucceeded_replaceMessage enclosureId slotId some_ solid

theorem isSpace_of_slotReference {enclosureId slotId : ℕ} {char : Char}
    (member : char ∈ (slotReference enclosureId slotId).toList) : Py.isSpace char = false := by
  rcases mem_slotReference member with digit | rfl
  · exact Py.isSpace_of_isDigit digit
  · decide

/-- The tokenizer finds a serial number that is one word. -/
theorem extractSerialFromAudit_replaceMessage (enclosureId slotId : ℕ) {serial : String} (some_ : serial.toList ≠ [])
    (solid : ∀ char ∈ serial.toList, Py.isSpace char = false) :
    extractSerialFromAudit (replaceMessage .missing enclosureId slotId serial "succeeded") = some serial := by
  have words : (replaceMessage .missing enclosureId slotId serial "succeeded").toList.splitOnP Py.isSpace =
      missingWords (slotReference enclosureId slotId).toList serial.toList := by
    rw [replaceMessage_missing_toList]
    apply List.splitOnP_intercalate (by decide)
    · intro word member
      simp only [missingWords, List.mem_cons, List.not_mem_nil, or_false] at member
      rcases member with rfl | rfl | rfl | rfl | rfl | rfl | rfl | rfl
      · decide
      · decide
      · decide
      · decide
      · exact fun char => isSpace_of_slotReference
      · decide
      · exact solid
      · decide
    · exact List.cons_ne_nil _ _
  have reference : (slotReference enclosureId slotId).toList.isEmpty = false :=
    List.isEmpty_eq_false_iff.mpr (List.ne_nil_of_mem (colon_mem_slotReference enclosureId slotId))
  have number : serial.toList.isEmpty = false := List.isEmpty_eq_false_iff.mpr some_
  have notSerial : slotReference enclosureId slotId ≠ "serial" := by
    intro same
    have colon := colon_mem_slotReference enclosureId slotId
    rw [same] at colon
    exact absurd colon (by decide)
  have tokens : splitWords (replaceMessage .missing enclosureId slotId serial "succeeded") =
      ["replace", "step", "missing", "drive", slotReference enclosureId slotId, "serial", serial, "succeeded"] := by
    rw [splitWords, words]
    simp [missingWords, reference, number]
  rw [extractSerialFromAudit, tokens]
  simp [serialAfter, notSerial]

end Serial

/-- Of the serial numbers that the live check accepts, those of one word make the round trip, and no others; no
failed step can be taken for a success. -/
theorem missing_message_round_trip_iff (enclosureId slotId : ℕ) (liveSerial : Json) (state serial : String)
    (live : DriveShow.validate state liveSerial = .ok ⟨state, serial⟩) :
    ((canTransitionStep3 (some (replaceMessage .missing enclosureId slotId serial "succeeded")) = true ∧
        extractSerialFromAudit (replaceMessage .missing enclosureId slotId serial "succeeded") = some serial) ↔
      ∀ char ∈ serial.toList, Py.isSpace char = false) ∧
    ∀ step failure,
      canTransitionStep3 (some (replaceMessage step enclosureId slotId serial (ReplaceFailure.outcome failure))) = false := by
  have some_ : serial.toList ≠ [] := by
    intro empty
    cases liveSerial with
    | str number =>
      rw [DriveShow.validate] at live
      split_ifs at live with blank
      have same : Py.strip number = serial := (DriveShow.mk.inj (Except.ok.inj live)).2
      exact blank (.inr (same.trans (String.toList_inj.mp (empty.trans String.toList_empty.symm))))
    | _ => cases live
  simp only [canTransitionStep3, Option.any_some]
  refine ⟨?_, fun step failure => not_succeeded_of_failure step enclosureId slotId serial failure⟩
  constructor
  · rintro ⟨succeeded, -⟩
    exact ((succeeded_replaceMessage_iff enclosureId slotId serial).mp succeeded).2
  · intro solid
    have succeeded := (succeeded_replaceMessage_iff enclosureId slotId serial).mpr ⟨some_, solid⟩
    exact ⟨succeeded, extractSerialFromAudit_replaceMessage enclosureId slotId some_ solid⟩

/-- A serial number of one word, with the blanks around it that the live check drops. -/
theorem missing_message_round_trip_one_word :
    ((canTransitionStep3 (some (replaceMessage .missing 252 4 "S1" "succeeded")) = true ∧
        extractSerialFromAudit (replaceMessage .missing 252 4 "S1" "succeeded") = some "S1") ↔
      ∀ char ∈ "S1".toList, Py.isSpace char = false) ∧
    ∀ step failure, canTransitionStep3 (some (replaceMessage step 252 4 "S1" (ReplaceFailure.outcome failure))) = false :=
  missing_message_round_trip_iff 252 4 (.str " S1 ") "Offln" "S1" (by decide)

/-- A serial number of two words passes both readers; its Missing neither opens the gate nor gives it back. -/
theorem missing_message_two_words :
    (stripSerialNumber (.str "WD WX1") = .ok "WD WX1" ∧
      DriveShow.validate "Offln" (.str "WD WX1") = .ok ⟨"Offln", "WD WX1"⟩) ∧
    canTransitionStep3 (some (replaceMessage .missing 252 4 "WD WX1" "succeeded")) = false ∧
    extractSerialFromAudit (replaceMessage .missing 252 4 "WD WX1" "succeeded") = some "WD" := by
  refine ⟨⟨?_, ?_⟩, ?_, ?_⟩
  · decide
  · decide
  · decide
  · decide

end MegaraidDashboard.Web
