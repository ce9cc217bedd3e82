import MegaraidDashboard.Model.Scripts.StorcliRollout
import MegaraidDashboard.Soundness.CommandPolicy
import MegaraidDashboard.ToMathlib.Decimals
import MegaraidDashboard.ToMathlib.Sudoers

/-! # What the rollout grants

The rendered policy lets the service user run the reads and the approved commands, and nothing else; the checks that
the script renders for the same policy agree with it.
-/

namespace MegaraidDashboard.Storcli

/-! ## Approved commands by their action -/

/-- An approved command without a drive, or one of the fixed actions on an approved drive. -/
theorem NamesApproved.of_fixed {policy : PolicyContent} {tokens : List String} (approved : NamesApproved policy tokens)
    (notAdd : tokens[1]? ≠ some "add") (notInsert : tokens[1]? ≠ some "insert") (notCheck : tokens[2]? ≠ some "cc") :
    tokens ∈ controllerWrites ∨ ∃ slot ≤ 7, ∃ tail ∈ driveWrites, tokens = Web.WriteRoute.driveSelector 252 slot :: tail := by
  cases approved with
  | controller fixed => exact .inl fixed
  | virtualDrive => exact absurd rfl notCheck
  | drive low fixed => exact .inr ⟨_, low, _, fixed, rfl⟩
  | hotSpare low => exact absurd rfl notAdd
  | insert_ low approved own group => exact absurd rfl notInsert

theorem NamesApproved.of_check {policy : PolicyContent} {tokens : List String} (approved : NamesApproved policy tokens)
    (check : tokens[2]? = some "cc") (start : tokens[1]? = some "start") :
    tokens.head? = some "/c0/vall" ∨ tokens.head? = some ("/c0/v" ++ toString policy.virtualDrive) := by
  cases approved with
  | controller fixed =>
    have each : ∀ tokens ∈ controllerWrites, tokens[2]? = some "cc" → tokens[1]? = some "start" →
        tokens.head? = some "/c0/vall" := by decide
    exact .inl (each tokens fixed check start)
  | virtualDrive => exact .inr rfl
  | @drive slot tail low fixed =>
    have each : ∀ tail ∈ driveWrites, tail[1]? ≠ some "cc" := by decide
    exact absurd check (each tail fixed)
  | hotSpare low => exact absurd (Option.some.inj start : "add" = "start") (by decide)
  | insert_ low approved own group => exact absurd (Option.some.inj start : "insert" = "start") (by decide)

theorem NamesApproved.of_add {policy : PolicyContent} {tokens : List String} (approved : NamesApproved policy tokens)
    (add : tokens[1]? = some "add") : tokens[3]? = some ("dgs=" ++ toString policy.diskGroup) := by
  cases approved with
  | controller fixed =>
    have each : ∀ tokens ∈ controllerWrites, tokens[1]? ≠ some "add" := by decide
    exact absurd add (each tokens fixed)
  | virtualDrive => exact absurd (Option.some.inj add : "start" = "add") (by decide)
  | @drive slot tail low fixed =>
    have each : ∀ tail ∈ driveWrites, tail[0]? ≠ some "add" := by decide
    exact absurd add (each tail fixed)
  | hotSpare low => rfl
  | insert_ low approved own group => exact absurd (Option.some.inj add : "insert" = "add") (by decide)

theorem NamesApproved.of_insert {policy : PolicyContent} {tokens : List String} (approved : NamesApproved policy tokens)
    (insert_ : tokens[1]? = some "insert") : ∃ topology ∈ policy.replacements,
      tokens = Web.WriteRoute.driveSelector 252 topology.slot :: "insert" :: topology.tokens ++ ["J"] := by
  cases approved with
  | controller fixed =>
    have each : ∀ tokens ∈ controllerWrites, tokens[1]? ≠ some "insert" := by decide
    exact absurd insert_ (each tokens fixed)
  | virtualDrive => exact absurd (Option.some.inj insert_ : "start" = "insert") (by decide)
  | @drive slot tail low fixed =>
    have each : ∀ tail ∈ driveWrites, tail[0]? ≠ some "insert" := by decide
    exact absurd insert_ (each tail fixed)
  | hotSpare low => exact absurd (Option.some.inj insert_ : "add" = "insert") (by decide)
  | insert_ low approved own group => exact ⟨_, approved, by rw [own]⟩

end MegaraidDashboard.Storcli

namespace MegaraidDashboard.Scripts.StorcliRollout

open Storcli TextPattern

/-! ## Plain commands -/

section Plain

variable [PyDigits]

/-- No command of the allowlist has a character that sudo reads as its own. -/
theorem not_mem_of_commandAllowed {command : String} (allowed : commandAllowed command = true) {c : Char}
    (special : c ∈ [',', '\\', '\n']) : c ∉ command.toList := by
  have digit : Py.isDecimal c = false := by
    have each : ∀ c ∈ [',', '\\', '\n'], c.toNat < 128 ∧ c.isDigit = false := by decide
    obtain ⟨ascii, other⟩ := each c special
    rw [Py.isDecimal, PyDigits.decimal_ascii c ascii, other]
    rfl
  rw [commandAllowed, List.any_eq_true] at allowed
  obtain ⟨patterns, member, matched⟩ := allowed
  refine not_mem_of_avoids ?_ (fullMatch_iff.mp matched)
  revert patterns
  simp only [List.mem_cons, List.not_mem_nil, or_false] at special
  rcases special with rfl | rfl | rfl
  all_goals
    intro patterns member _
    simp only [allowedCommandPatterns, List.mem_cons, List.not_mem_nil, or_false] at member
    rcases member with rfl | rfl | rfl | rfl | rfl | rfl | rfl | rfl | rfl | rfl | rfl | rfl | rfl | rfl | rfl | rfl |
      rfl | rfl | rfl | rfl | rfl | rfl | rfl | rfl | rfl | rfl
    all_goals simp [sentence, avoids, literal, digits, either, drivePattern, digit]

end Plain

theorem getLast?_joinArgs {front : List String} {last : String} (solid : last ≠ "") :
    (joinArgs (front ++ [last])).toList.getLast? = last.toList.getLast? := by
  rw [joinArgs_toList, List.map_append, List.map_singleton]
  induction front with
  | nil => rw [List.map_nil, List.nil_append, List.intercalate_singleton]
  | cons first front ih =>
    have later : front.map String.toList ++ [last.toList] ≠ [] := by simp
    rw [List.map_cons, List.cons_append, List.intercalate_cons_of_ne_nil later, List.getLast?_append, ih]
    cases found : last.toList.getLast? with
    | none => exact absurd (String.toList_inj.mp (List.getLast?_eq_none_iff.mp found)) solid
    | some c => rfl

/-- The full command of a binary needs no quoting. -/
theorem plainCommand {binary command : String} (known : binary ∈ [pinnedBinary, originalBinary])
    (plain : ∀ c ∈ [',', '\\', '\n'], c ∉ command.toList) (last : command.toList.getLast? = some 'J') :
    Sudoers.PlainCommand (binary ++ " " ++ command).toList := by
  have path : binary.toList.head? = some '/' ∧ ∀ c ∈ [',', '\\', '\n'], c ∉ binary.toList := by
    simp only [List.mem_cons, List.not_mem_nil, or_false] at known
    rcases known with rfl | rfl <;> decide
  obtain ⟨start, clean⟩ := path
  have chars : (binary ++ " " ++ command).toList = binary.toList ++ (' ' :: command.toList) := by
    rw [String.toList_append, String.toList_append, List.append_assoc]
    rfl
  rw [chars]
  constructor
  · obtain ⟨rest, begins⟩ := List.head?_eq_some_iff.mp start
    obtain ⟨front, ends⟩ := List.getLast?_eq_some_iff.mp last
    rw [Sudoers.trim, begins, ends, List.cons_append, List.dropWhile_cons_of_neg (by decide)]
    have shape : '/' :: (rest ++ ' ' :: (front ++ ['J'])) = ('/' :: (rest ++ ' ' :: front)) ++ ['J'] := by simp
    rw [shape, List.rdropWhile_concat_neg _ _ _ (by decide)]
  · intro c inside special
    rcases List.mem_append.mp inside with inside | inside
    · exact clean c special inside
    · rcases List.mem_cons.mp inside with rfl | inside
      · exact absurd special (by decide)
      · exact plain c special inside

theorem plain_reads : ∀ command ∈ reads, (∀ c ∈ [',', '\\', '\n'], c ∉ command.toList) ∧
    command.toList.getLast? = some 'J' := by decide

theorem renderAlias_toList (alias_ user : String) (lines : List String) :
    (renderAlias alias_ user lines).toList = Sudoers.render alias_.toList user.toList (lines.map String.toList) := by
  delta renderAlias Sudoers.render
  rw [String.toList_append, String.toList_append, String.toList_append, String.toList_append, String.toList_append,
    String.toList_append, String.toList_append, String.toList_append, String.toList_intercalate]

/-! ## Grants -/

section Grants

variable [PyDigits]

theorem plain_of_lists (policy : CommandPolicy) {command : String} (listed : policy.Lists command) :
    (∀ c ∈ [',', '\\', '\n'], c ∉ command.toList) ∧ command.toList.getLast? = some 'J' := by
  have item := policy.itemValid listed
  refine ⟨fun c special => not_mem_of_commandAllowed item.allowed special, ?_⟩
  obtain ⟨front, tokens⟩ := List.getLast?_eq_some_iff.mp item.json
  have joined := joinArgs_commandTokens command
  rw [tokens] at joined
  rw [← joined, getLast?_joinArgs (by decide)]
  rfl

/-- A service user is a word of the file, and not the word that begins an alias. -/
theorem plain_serviceUser (policy : CommandPolicy) :
    Sudoers.Plain policy.serviceUser.toList ∧ policy.serviceUser ≠ "Cmnd_Alias" := by
  have validated := policy.validated
  simp only [PolicyContent.validateCommands, require_bind] at validated
  have user := validated.1
  rw [PolicyContent.validServiceUser] at user
  cases chars : policy.serviceUser.toList with
  | nil =>
    rw [chars] at user
    cases user
  | cons first rest =>
    rw [chars] at user
    simp only [Bool.and_eq_true, Bool.or_eq_true, beq_iff_eq, List.all_eq_true] at user
    refine ⟨⟨List.cons_ne_nil _ _, ?_⟩, ?_⟩
    · intro c inside special
      have lower : ∀ c ∈ [' ', ',', '=', '\\', '\n'], c.isLower = false ∧ c.isDigit = false ∧ c ≠ '_' ∧ c ≠ '-' := by decide
      obtain ⟨notLower, notDigit, notLine, notDash⟩ := lower c special
      rcases List.mem_cons.mp inside with rfl | inside
      · rcases user.1 with letter | line
        · rw [notLower] at letter
          cases letter
        · exact notLine line
      · rcases user.2 c inside with ((letter | digit) | line) | dash
        · rw [notLower] at letter
          cases letter
        · rw [notDigit] at digit
          cases digit
        · exact notLine line
        · exact notDash dash
    · intro same
      rw [same] at chars
      obtain ⟨rfl, -⟩ := List.cons_eq_cons.mp chars
      exact absurd user.1 (by decide)

/-! ## Denied commands -/

/-- The limits of the fields. -/
theorem validFields_bounds (policy : CommandPolicy) : policy.virtualDrive ≤ 63 ∧ policy.diskGroup ≤ 63 ∧
    ∀ topology ∈ policy.replacements, topology.array ≤ 63 ∧ topology.row ≤ 255 := by
  have fields := policy.fields
  simp only [PolicyContent.validFields, Bool.and_eq_true, decide_eq_true_eq, List.all_eq_true] at fields
  obtain ⟨⟨⟨⟨⟨-, virtualDrive⟩, diskGroup⟩, -⟩, -⟩, replacements⟩ := fields
  exact ⟨virtualDrive, diskGroup, fun topology member => ⟨(replacements topology member).1.2, (replacements topology member).2⟩⟩

omit [PyDigits] in
theorem shows_of_reads : ∀ command ∈ reads, "show" ∈ commandTokens command := by decide

omit [PyDigits] in
theorem number_inj {label : String} {m n : ℕ} (same : label ++ toString m = label ++ toString n) : m = n := by
  have chars := congrArg String.toList same
  simp only [String.toList_append] at chars
  exact Nat.toString_injective (String.toList_inj.mp (List.append_cancel_left chars))

/-- Only the approved position of a slot can be inserted. -/
theorem eq_topology_of_slot (policy : CommandPolicy) {topology other : ReplacementTopology}
    (member : topology ∈ policy.replacements) (inside : other ∈ policy.replacements) (same : topology.slot = other.slot) :
    topology = other := by
  have validated := policy.validated
  simp only [PolicyContent.validateCommands, require_bind, decide_eq_true_eq] at validated
  exact List.inj_on_of_nodup_map validated.2.1 member inside same

omit [PyDigits] in
theorem drive_eq (slot : ℕ) : drive slot = Web.WriteRoute.driveSelector 252 slot := by
  have front : "/c0/e252/s" = "/c0/e" ++ toString 252 ++ "/s" := by decide
  rw [drive, front]
  rfl

/-- A command of the pinned binary that the policy does not approve. -/
def Refused (policy : CommandPolicy) (command : String) : Prop :=
  ¬Sudoers.Grants (fullPolicy policy.toPolicyContent) policy.serviceUser command

omit [PyDigits] in
theorem insertCommand_eq (binary selector dg array row : String) :
    binary ++ " " ++ selector ++ " insert dg=" ++ dg ++ " array=" ++ array ++ " row=" ++ row ++ " J" =
      binary ++ " " ++ joinArgs [selector, "insert", "dg=" ++ dg, "array=" ++ array, "row=" ++ row, "J"] := by
  have gaps : " insert dg=".toList = [' '] ++ "insert".toList ++ [' '] ++ "dg=".toList ∧
      " array=".toList = [' '] ++ "array=".toList ∧ " row=".toList = [' '] ++ "row=".toList ∧
      " J".toList = [' '] ++ "J".toList := by decide
  apply String.toList_inj.mp
  simp only [String.toList_append, joinArgs_toList, List.map_cons, List.map_nil, List.intercalate_cons_cons, List.intercalate_singleton,
    gaps.1, gaps.2.1, gaps.2.2.1, gaps.2.2.2, List.append_assoc]

/-- `sudo -l` answers the check as the script expects. -/
def AuthorizationCheck.Passes (installed user : String) : AuthorizationCheck → Prop
  | granted command => Sudoers.Grants installed user command
  | denied command => ¬Sudoers.Grants installed user command

/-- The script ends with success where this policy is installed. -/
def ChecksPass (installed : String) (approved : PolicyContent) : Prop :=
  ∀ check ∈ authorizationChecks approved, check.Passes installed approved.serviceUser

end Grants

end MegaraidDashboard.Scripts.StorcliRollout
