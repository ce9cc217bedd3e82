import MegaraidDashboard.Model.Storcli.Policy
import MegaraidDashboard.Model.Web.WriteRoutes
import Mathlib.Tactic.IntervalCases

/-! # What a policy permits

A command that the validator let in is a write of the allowlist whose drive, virtual drive, disk group and insert
position are the approved ones.
-/

namespace MegaraidDashboard.Storcli

open TextPattern

/-! ## Commands and tokens -/

theorem joinArgs_toList (args : List String) : (joinArgs args).toList = [' '].intercalate (args.map String.toList) := by
  rw [joinArgs, String.toList_intercalate]
  rfl

theorem joinArgs_commandTokens (command : String) : joinArgs (commandTokens command) = command := by
  apply String.toList_inj.mp
  rw [joinArgs_toList, commandTokens, List.map_map]
  have same : String.toList ∘ String.ofList = id := funext fun chars => String.toList_ofList
  rw [same, List.map_id, List.intercalate_splitOn]

theorem commandTokens_joinArgs {args : List String} (solid : ∀ arg ∈ args, ' ' ∉ arg.toList) (some_ : args ≠ []) :
    commandTokens (joinArgs args) = args := by
  have whole : ∀ word ∈ args.map String.toList, ' ' ∉ word := by
    intro word member
    obtain ⟨arg, inside, rfl⟩ := List.mem_map.mp member
    exact solid arg inside
  rw [commandTokens, joinArgs_toList, List.splitOn_intercalate ' ' whole (by simpa using some_), List.map_map]
  have same : String.ofList ∘ String.toList = id := funext fun text => String.ofList_toList
  rw [same, List.map_id]

theorem digit_mem {digit : Char} (low : '0' ≤ digit) (high : digit ≤ '7') : digit ∈ "01234567".toList := by
  have bounds : 48 ≤ digit.toNat ∧ digit.toNat ≤ 55 := ⟨low, high⟩
  rw [← Char.ofNat_toNat digit]
  generalize digit.toNat = code at bounds
  obtain ⟨lower, upper⟩ := bounds
  interval_cases code <;> decide

/-- The approved drives are those of enclosure 252 in the slots 0 to 7. -/
theorem approvedDrive_eq_some {selector : String} {slot : ℕ} (approved : approvedDrive selector = some slot) :
    slot ≤ 7 ∧ selector = Web.WriteRoute.driveSelector 252 slot := by
  unfold approvedDrive at approved
  split at approved
  · next digit chars =>
    split_ifs at approved with bounds
    have member := digit_mem bounds.1 bounds.2
    have each : ∀ digit ∈ "01234567".toList, digit.toNat - '0'.toNat ≤ 7 ∧
        ['/', 'c', '0', '/', 'e', '2', '5', '2', '/', 's', digit] =
          (Web.WriteRoute.driveSelector 252 (digit.toNat - '0'.toNat)).toList := by decide +kernel
    rw [← String.toList_inj, chars, ← Option.some.inj approved]
    exact each digit member
  · cases approved

/-! ## Validated commands -/

section Validated

variable [PyDigits]

/-- What the validator checks of a command. -/
structure ItemValid (policy : PolicyContent) (command : String) : Prop where
  accepted : validateCommand (commandTokens command) = .ok ()
  json : (commandTokens command).getLast? = some "J"
  write : "show" ∉ commandTokens command
  drive : Py.startsWith ((commandTokens command).headD "") "/c0/e" = true →
    ∃ slot, approvedDrive ((commandTokens command).headD "") = some slot
  virtualDrive : Py.startsWith ((commandTokens command).headD "") "/c0/v" = true →
    (commandTokens command).headD "" = "/c0/vall" ∨
      (commandTokens command).headD "" = "/c0/v" ++ toString policy.virtualDrive
  diskGroup : "add" ∈ commandTokens command → "dgs=" ++ toString policy.diskGroup ∈ commandTokens command
  insert_ : "insert" ∈ commandTokens command → policy.approvesInsert (commandTokens command) = true

omit [PyDigits] in
theorem require_eq_ok {holds : Bool} {message : String} : require holds message = .ok () ↔ holds = true := by
  cases holds <;> simp [require]

omit [PyDigits] in
theorem require_bind {holds : Bool} {message : String} {rest : Unit → Except String Unit} :
    require holds message >>= rest = .ok () ↔ holds = true ∧ rest () = .ok () := by
  cases holds
  · simp [require, bind, Except.bind]
  · simp [require, bind, Except.bind]

theorem itemValid_of_validateItem {policy : PolicyContent} {seen : List String} {command : String}
    (validated : policy.validateItem seen command = .ok ()) : ItemValid policy command := by
  simp only [PolicyContent.validateItem, require_bind, require_eq_ok] at validated
  obtain ⟨accepted, format, drive, virtualDrive, diskGroup, insert_⟩ := validated
  simp only [Bool.and_eq_true, Bool.not_eq_true', beq_iff_eq, List.contains_eq_mem, decide_eq_false_iff_not] at format
  refine ⟨?_, format.1.2, format.2, ?_, ?_, ?_, ?_⟩
  · cases checked : validateCommand (commandTokens command) with
    | error error =>
      rw [checked] at accepted
      cases accepted
    | ok done => rfl
  · intro starts
    rw [starts, Bool.not_true, Bool.false_or] at drive
    exact Option.isSome_iff_exists.mp drive
  · intro starts
    rw [starts, Bool.not_true, Bool.false_or, Bool.or_eq_true, beq_iff_eq, beq_iff_eq] at virtualDrive
    exact virtualDrive
  · intro adds
    simpa [adds] using diskGroup
  · intro inserts
    simpa [inserts] using insert_

theorem ItemValid.allowed {policy : PolicyContent} {command : String} (item : ItemValid policy command) :
    commandAllowed command = true := by
  have accepted := item.accepted
  rw [validateCommand, joinArgs_commandTokens] at accepted
  split_ifs at accepted
  · cases accepted
  · assumption
  · cases accepted

theorem validateItems_mem {policy : PolicyContent} {commands seen : List String}
    (validated : policy.validateItems seen commands = .ok ()) : ∀ command ∈ commands, ItemValid policy command := by
  induction commands generalizing seen with
  | nil => exact fun command member => absurd member List.not_mem_nil
  | cons first rest ih =>
    rw [PolicyContent.validateItems] at validated
    cases checked : policy.validateItem seen first with
    | error message =>
      rw [checked] at validated
      cases validated
    | ok done =>
      rw [checked] at validated
      intro command member
      rcases List.mem_cons.mp member with rfl | later
      · exact itemValid_of_validateItem checked
      · exact ih validated command later

/-- The policy lists the command. -/
def PolicyContent.Lists (policy : PolicyContent) (command : String) : Prop := command ∈ policy.commands.map (·.command)

theorem CommandPolicy.itemValid (policy : CommandPolicy) {command : String} (listed : policy.Lists command) :
    ItemValid policy.toPolicyContent command := by
  have validated := policy.validated
  simp only [PolicyContent.validateCommands, require_bind] at validated
  exact validateItems_mem validated.2.2 command listed

/-! ## The grammar of the approved writes -/

/-- The writes that name neither a drive nor one virtual drive. -/
def controllerWrites : List (List String) := [
  ["/c0", "start", "patrolread", "J"], ["/c0", "stop", "patrolread", "J"],
  ["/c0", "set", "patrolread=on", "mode=auto", "J"], ["/c0", "set", "patrolread=on", "mode=manual", "J"],
  ["/c0", "set", "patrolread=off", "J"], ["/c0/vall", "start", "cc", "J"], ["/c0/vall", "stop", "cc", "J"],
  ["/c0", "set", "cc=conc", "J"], ["/c0", "set", "cc=seq", "J"], ["/c0", "set", "alarm=silence", "J"],
  ["/c0", "set", "alarm=off", "J"], ["/c0", "set", "alarm=on", "J"], ["/c0", "set", "activityforlocate=on", "J"],
  ["/c0", "set", "activityforlocate=off", "J"], ["/c0/fall", "import", "J"], ["/c0/fall", "delete", "J"]]

/-- What a write does to the drive that it names. -/
def driveWrites : List (List String) := [
  ["start", "locate", "J"], ["stop", "locate", "J"], ["set", "offline", "J"], ["set", "missing", "J"],
  ["set", "good", "J"], ["spindown", "J"]]

/-- The tokens of a write that names approved objects only. -/
inductive NamesApproved (policy : PolicyContent) : List String → Prop
  | controller {tokens : List String} (fixed : tokens ∈ controllerWrites) : NamesApproved policy tokens
  | virtualDrive : NamesApproved policy ["/c0/v" ++ toString policy.virtualDrive, "start", "cc", "J"]
  | drive {slot : ℕ} {tail : List String} (low : slot ≤ 7) (fixed : tail ∈ driveWrites) :
      NamesApproved policy (Web.WriteRoute.driveSelector 252 slot :: tail)
  | hotSpare {slot : ℕ} (low : slot ≤ 7) : NamesApproved policy [Web.WriteRoute.driveSelector 252 slot, "add",
      "hotsparedrive", "dgs=" ++ toString policy.diskGroup, "J"]
  | insert_ {slot : ℕ} {topology : ReplacementTopology} (low : slot ≤ 7) (approved : topology ∈ policy.replacements)
      (own : topology.slot = slot) (group : topology.dg = policy.diskGroup) :
      NamesApproved policy (Web.WriteRoute.driveSelector 252 slot :: "insert" :: topology.tokens ++ ["J"])

theorem avoids_space : ∀ patterns ∈ allowedCommandPatterns, patterns.all (avoids ' ') = true := by
  have space : Py.isDecimal ' ' = false := by
    rw [Py.isDecimal, PyDigits.decimal_ascii ' ' (by decide)]
    rfl
  simp [allowedCommandPatterns, avoids, literal, digits, either, drivePattern, space]

/-- The words of an allowed command match one of the patterns. -/
theorem words_of_commandAllowed {command : String} (allowed : commandAllowed command = true) :
    ∃ patterns ∈ allowedCommandPatterns, List.Forall₂ Matches patterns (command.toList.splitOn ' ') := by
  rw [commandAllowed, List.any_eq_true] at allowed
  obtain ⟨patterns, member, matched⟩ := allowed
  have some_ : patterns ≠ [] := by
    rintro rfl
    revert member
    simp [allowedCommandPatterns]
  exact ⟨patterns, member, forall₂_splitOn_of_sentence (avoids_space patterns member) some_ (fullMatch_iff.mp matched)⟩

/-- The forms of the allowlist. -/
inductive AllowedTokens : List String → Prop
  | read {tokens : List String} (shows : "show" ∈ tokens) : AllowedTokens tokens
  | controller {tokens : List String} (fixed : tokens ∈ controllerWrites) : AllowedTokens tokens
  | virtualDrive (name : String) : AllowedTokens ["/c0/v" ++ name, "start", "cc", "J"]
  | drive (name : String) {tail : List String} (fixed : tail ∈ driveWrites) : AllowedTokens (("/c0/e" ++ name) :: tail)
  | hotSpare (name group : String) :
      AllowedTokens ["/c0/e" ++ name, "add", "hotsparedrive", "dgs=" ++ group, "J"]
  | insert_ (name dg array row : String) : AllowedTokens ["/c0/e" ++ name, "insert", "dg=" ++ dg, "array=" ++ array,
      "row=" ++ row, "J"]

theorem allowedTokens_of_commandAllowed {command : String} (allowed : commandAllowed command = true) :
    AllowedTokens (commandTokens command) := by
  obtain ⟨patterns, member, words⟩ := words_of_commandAllowed allowed
  have tokens : commandTokens command = (command.toList.splitOn ' ').map String.ofList := rfl
  generalize command.toList.splitOn ' ' = split at words tokens
  have read : ∀ {chars : List (List Char)}, split = chars → "show" ∈ chars.map String.ofList →
      AllowedTokens (commandTokens command) := by
    rintro chars rfl shows
    exact .read (tokens ▸ shows)
  have fixed : ∀ {chars : List (List Char)}, split = chars → chars.map String.ofList ∈ controllerWrites →
      AllowedTokens (commandTokens command) := by
    rintro chars rfl listed
    exact .controller (tokens ▸ listed)
  have drive : ∀ {name : List Char} {tail : List (List Char)}, split = ("/c0/e".toList ++ name) :: tail →
      tail.map String.ofList ∈ driveWrites → AllowedTokens (commandTokens command) := by
    rintro name tail rfl listed
    rw [tokens, List.map_cons, String.ofList_append]
    exact .drive (String.ofList name) listed
  simp only [allowedCommandPatterns, List.mem_cons, List.not_mem_nil, or_false] at member
  rcases member with rfl | rfl | rfl | rfl | rfl | rfl | rfl | rfl | rfl | rfl | rfl | rfl | rfl | rfl | rfl | rfl | rfl |
    rfl | rfl | rfl | rfl | rfl | rfl | rfl | rfl | rfl
  all_goals simp only [List.forall₂_cons_left_iff, List.forall₂_nil_left_iff, literal, either, matches_word_iff,
    matches_choice_iff, matches_seq_iff, drivePattern, digits, exists_eq_left, or_and_right, exists_or, exists_and_left,
    existsAndEq, and_true] at words
  · exact read words (by decide +kernel)
  · exact read words (by decide +kernel)
  · exact read words (by decide +kernel)
  · exact read words (by decide +kernel)
  · exact read words (by decide +kernel)
  · exact read words (by decide +kernel)
  · rcases words with words | words
    · exact fixed words (by decide +kernel)
    · exact fixed words (by decide +kernel)
  · rcases words with words | words
    · exact fixed words (by decide +kernel)
    · exact fixed words (by decide +kernel)
  · exact fixed words (by decide +kernel)
  · exact read words (by decide +kernel)
  · exact read words (by decide +kernel)
  · rcases words with words | ⟨name, -, rfl⟩
    · exact fixed words (by decide +kernel)
    · rw [tokens, List.map_cons, String.ofList_append]
      exact .virtualDrive (String.ofList name)
  · exact fixed words (by decide +kernel)
  · rcases words with words | words
    · exact fixed words (by decide +kernel)
    · exact fixed words (by decide +kernel)
  · rcases words with words | words | words
    · exact fixed words (by decide +kernel)
    · exact fixed words (by decide +kernel)
    · exact fixed words (by decide +kernel)
  · rcases words with words | words
    · exact fixed words (by decide +kernel)
    · exact fixed words (by decide +kernel)
  · exact read words (by decide +kernel)
  · exact fixed words (by decide +kernel)
  · exact fixed words (by decide +kernel)
  · obtain ⟨enclosure, slot, -, words⟩ := words
    exact read words (List.mem_cons_of_mem _ (by decide +kernel))
  · obtain ⟨enclosure, slot, -, words⟩ := words
    exact read words (List.mem_cons_of_mem _ (by decide +kernel))
  · obtain ⟨enclosure, slot, -, words | words⟩ := words
    · exact drive words (by decide +kernel)
    · exact drive words (by decide +kernel)
  · obtain ⟨enclosure, slot, -, words | words | words⟩ := words
    · exact drive words (by decide +kernel)
    · exact drive words (by decide +kernel)
    · exact drive words (by decide +kernel)
  · obtain ⟨enclosure, slot, -, words⟩ := words
    exact drive words (by decide +kernel)
  · obtain ⟨enclosure, slot, -, group, -, rfl⟩ := words
    simp only [tokens, List.map_cons, String.ofList_append, String.ofList_toList, List.map_nil]
    exact .hotSpare _ (String.ofList group)
  · obtain ⟨enclosure, slot, -, dg, array, row, -, rfl⟩ := words
    simp only [tokens, List.map_cons, String.ofList_append, String.ofList_toList, List.map_nil]
    exact .insert_ _ (String.ofList dg) (String.ofList array) (String.ofList row)

omit [PyDigits] in
/-- Only one token of a hot spare command names a disk group. -/
theorem dgs_eq {name group wanted : String}
    (member : "dgs=" ++ wanted ∈ ["/c0/e" ++ name, "add", "hotsparedrive", "dgs=" ++ group, "J"]) :
    "dgs=" ++ wanted = "dgs=" ++ group := by
  have starts : Py.startsWith ("dgs=" ++ wanted) "dgs=" = true := Py.startsWith_append _ _
  have other : Py.startsWith ("/c0/e" ++ name) "dgs=" = false :=
    (Py.startsWith_append_of_length_le (by decide)).trans (by decide)
  simp only [List.mem_cons, List.not_mem_nil, or_false] at member
  rcases member with same | same | same | same | same
  · rw [same, other] at starts
    cases starts
  · rw [same] at starts
    exact absurd starts (by decide)
  · rw [same] at starts
    exact absurd starts (by decide)
  · exact same
  · rw [same] at starts
    exact absurd starts (by decide)

theorem insertSlot_driveSelector {slot : ℕ} (low : slot ≤ 7) :
    PolicyContent.insertSlot (Web.WriteRoute.driveSelector 252 slot) = slot := by
  have last : ∀ slot ≤ 7, (((Web.WriteRoute.driveSelector 252 slot).toList.splitOn 's').getLastD []) =
      [Char.ofNat (48 + slot)] := by decide +kernel
  have value : ∀ slot ≤ 7, (Char.ofNat (48 + slot)).toNat < 128 ∧
      (if (Char.ofNat (48 + slot)).isDigit then some ((Char.ofNat (48 + slot)).toNat - 48) else none) = some slot := by
    decide +kernel
  obtain ⟨ascii, digit⟩ := value slot low
  rw [PolicyContent.insertSlot, last slot low, Py.decimalValue, List.foldl_cons, List.foldl_nil,
    PyDigits.decimal_ascii _ ascii, digit]
  exact Nat.zero_add slot

theorem ItemValid.namesApproved {policy : PolicyContent} {command : String} (item : ItemValid policy command) :
    NamesApproved policy (commandTokens command) := by
  have allowed := allowedTokens_of_commandAllowed item.allowed
  obtain ⟨-, -, write, drive, virtualDrive, diskGroup, insert_⟩ := item
  revert write drive virtualDrive diskGroup insert_
  generalize commandTokens command = tokens at allowed
  intro write drive virtualDrive diskGroup insert_
  cases allowed with
  | read shows => exact absurd shows write
  | controller fixed => exact .controller fixed
  | virtualDrive name =>
    rcases virtualDrive (Py.startsWith_append _ _) with every | own
    · rw [List.headD_cons] at every
      rw [every]
      exact .controller (by decide +kernel)
    · rw [List.headD_cons] at own
      rw [own]
      exact .virtualDrive
  | drive name fixed =>
    obtain ⟨slot, approved⟩ := drive (Py.startsWith_append _ _)
    obtain ⟨low, same⟩ := approvedDrive_eq_some approved
    rw [List.headD_cons] at same
    rw [same]
    exact .drive low fixed
  | hotSpare name group =>
    obtain ⟨slot, approved⟩ := drive (Py.startsWith_append _ _)
    obtain ⟨low, same⟩ := approvedDrive_eq_some approved
    rw [List.headD_cons] at same
    rw [same, ← dgs_eq (diskGroup (by simp))]
    exact .hotSpare low
  | insert_ name dg array row =>
    obtain ⟨slot, approved⟩ := drive (Py.startsWith_append _ _)
    obtain ⟨low, same⟩ := approvedDrive_eq_some approved
    rw [List.headD_cons] at same
    have position := insert_ (by simp)
    rw [PolicyContent.approvesInsert, Option.any_eq_true] at position
    obtain ⟨topology, found, agrees⟩ := position
    rw [List.headD_cons, same, insertSlot_driveSelector low] at found
    rw [Bool.and_eq_true, beq_iff_eq, beq_iff_eq] at agrees
    have own : topology.slot = slot := by simpa using List.find?_some found
    have tokens : ["dg=" ++ dg, "array=" ++ array, "row=" ++ row] = topology.tokens := agrees.1
    have whole := NamesApproved.insert_ low (List.mem_of_find?_eq_some found) own agrees.2
    rw [← tokens] at whole
    rw [same]
    exact whole

end Validated

end MegaraidDashboard.Storcli
