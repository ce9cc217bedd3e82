import MegaraidDashboard.Model.Storcli.Parser
import MegaraidDashboard.ToMathlib.TextPatterns

/-! # The command policy

A policy lists the exact commands that an operator approved. Its validator lets in only writes of the allowlist of the
runner, on approved drives, disk groups and topologies. The web layer asks it by path, the runner by arguments.
-/

namespace MegaraidDashboard.Storcli

open TextPattern

/-! ## The allowlist of the runner -/

section Allowlist

variable [PyDigits]

def literal (text : String) : TextPattern Char := .word text.toList

/-- `\d+` -/
def digits : TextPattern Char := .run Py.isDecimal

/-- `(first|second)` -/
def either (first second : String) : TextPattern Char := .choice (literal first) (literal second)

/-- `/c0/e\d+/s\d+` -/
def drivePattern : TextPattern Char := .seq (literal "/c0/e") (.seq digits (.seq (literal "/s") digits))

/-- `_ALLOWED_COMMAND_PATTERNS`, token by token; one space stands between two tokens. -/
def allowedCommandPatterns : List (List (TextPattern Char)) := [
  [literal "/c0", literal "show", literal "all", literal "J"],
  [literal "/c0/vall", literal "show", literal "all", literal "J"],
  [literal "/c0/eall/sall", literal "show", literal "all", literal "J"],
  [literal "/c0/cv", literal "show", literal "all", literal "J"],
  [literal "/c0/bbu", literal "show", literal "all", literal "J"],
  [literal "/c0", literal "show", literal "patrolread", literal "J"],
  [literal "/c0", either "start" "stop", literal "patrolread", literal "J"],
  [literal "/c0", literal "set", literal "patrolread=on", .seq (literal "mode=") (either "auto" "manual"), literal "J"],
  [literal "/c0", literal "set", literal "patrolread=off", literal "J"],
  [literal "/c0", literal "show", literal "cc", literal "J"],
  [literal "/c0/vall", literal "show", literal "cc", literal "J"],
  [.seq (literal "/c0/v") (.choice (literal "all") digits), literal "start", literal "cc", literal "J"],
  [literal "/c0/vall", literal "stop", literal "cc", literal "J"],
  [literal "/c0", literal "set", .seq (literal "cc=") (either "conc" "seq"), literal "J"],
  [literal "/c0", literal "set", .seq (literal "alarm=") (.choice (literal "silence") (either "off" "on")), literal "J"],
  [literal "/c0", literal "set", .seq (literal "activityforlocate=") (either "on" "off"), literal "J"],
  [literal "/c0/fall", literal "show", literal "all", literal "J"],
  [literal "/c0/fall", literal "import", literal "J"],
  [literal "/c0/fall", literal "delete", literal "J"],
  [drivePattern, literal "show", literal "all", literal "J"],
  [drivePattern, literal "show", literal "rebuild", literal "J"],
  [drivePattern, either "start" "stop", literal "locate", literal "J"],
  [drivePattern, literal "set", .choice (literal "offline") (either "missing" "good"), literal "J"],
  [drivePattern, literal "spindown", literal "J"],
  [drivePattern, literal "add", literal "hotsparedrive", .seq (literal "dgs=") digits, literal "J"],
  [drivePattern, literal "insert", .seq (literal "dg=") digits, .seq (literal "array=") digits,
    .seq (literal "row=") digits, literal "J"]]

/-- Some pattern matches the whole command. -/
def commandAllowed (command : String) : Bool :=
  allowedCommandPatterns.any fun tokens => (sentence ' ' tokens).fullMatch command.toList

/-- `" ".join` -/
def joinArgs (args : List String) : String := " ".intercalate args

/-- `_validate_command` -/
def validateCommand (args : List String) : Except PyError Unit :=
  if args.any fun arg => arg == "" || arg.toList.any Py.isSpace then raise .commandFailed
  else if commandAllowed (joinArgs args) then .ok ()
  else raise .commandFailed

end Allowlist

/-- `_with_json_flag` -/
def withJsonFlag (args : List String) : List String := if args.getLast? = some "J" then args else args ++ ["J"]

/-! ## The policy -/

structure ApprovedCommand where
  command : String
  evidence : String
deriving DecidableEq, Repr

structure ReplacementTopology where
  slot : ℕ
  dg : ℕ
  array : ℕ
  row : ℕ
deriving DecidableEq, Repr

/-- The fields of a policy file. -/
structure PolicyContent where
  serviceUser : String
  controllerSerial : String
  virtualDrive : ℕ
  diskGroup : ℕ
  replacements : List ReplacementTopology
  commands : List ApprovedCommand
deriving DecidableEq, Repr

/-- A check of the validator, with the text of its `ValueError`. -/
def require (holds : Bool) (message : String) : Except String Unit := if holds then .ok () else .error message

/-- `command.split(" ")` -/
def commandTokens (command : String) : List String := (command.toList.splitOn ' ').map String.ofList

/-- `/c0/e252/s([0-7])` -/
def approvedDrive (selector : String) : Option ℕ :=
  match selector.toList with
  | ['/', 'c', '0', '/', 'e', '2', '5', '2', '/', 's', digit] =>
    if '0' ≤ digit ∧ digit ≤ '7' then some (digit.toNat - '0'.toNat) else none
  | _ => none

/-- `[f"dg={topology.dg}", f"array={topology.array}", f"row={topology.row}"]` -/
def ReplacementTopology.tokens (topology : ReplacementTopology) : List String :=
  ["dg=" ++ toString topology.dg, "array=" ++ toString topology.array, "row=" ++ toString topology.row]

namespace PolicyContent

/-- The constraints of the fields. -/
def validFields (policy : PolicyContent) : Bool :=
  policy.controllerSerial != "" && decide (policy.virtualDrive ≤ 63) && decide (policy.diskGroup ≤ 63) &&
    !policy.commands.isEmpty && policy.commands.all (·.evidence != "") &&
    policy.replacements.all fun topology =>
      decide (topology.slot ≤ 7) && decide (topology.dg ≤ 63) && decide (topology.array ≤ 63) &&
        decide (topology.row ≤ 255)

/-- `[a-z_][a-z0-9_-]*` -/
def validServiceUser (user : String) : Bool :=
  match user.toList with
  | [] => false
  | first :: rest => (first.isLower || first == '_') &&
      rest.all fun c => c.isLower || c.isDigit || c == '_' || c == '-'

def topology (policy : PolicyContent) (slot : ℕ) : Option ReplacementTopology :=
  policy.replacements.find? (·.slot == slot)

section Validation

variable [PyDigits]

/-- `int(selector.rsplit("s", 1)[1])` -/
def insertSlot (selector : String) : ℕ := Py.decimalValue ((selector.toList.splitOn 's').getLastD [])

/-- The insert position of the tokens is the approved one of their slot. -/
def approvesInsert (policy : PolicyContent) (tokens : List String) : Bool :=
  (policy.topology (insertSlot (tokens.headD ""))).any fun topology =>
    (tokens.drop 2).take 3 == topology.tokens && topology.dg == policy.diskGroup

/-- One pass of the loop in `validate_commands`. -/
def validateItem (policy : PolicyContent) (seen : List String) (command : String) : Except String Unit := do
  let tokens := commandTokens command
  let selector := tokens.headD ""
  require (validateCommand tokens).isOk "Unsupported command; no sudo grant may be generated"
  require (!seen.contains command && tokens.getLast? == some "J" && !tokens.contains "show")
    "Expected unique JSON write commands"
  require (!Py.startsWith selector "/c0/e" || (approvedDrive selector).isSome) "Only approved enclosure 252 slots 0-7"
  require (!Py.startsWith selector "/c0/v" || selector == "/c0/vall" ||
    selector == "/c0/v" ++ toString policy.virtualDrive) "Wrong virtual drive"
  require (!tokens.contains "add" || tokens.contains ("dgs=" ++ toString policy.diskGroup)) "Wrong disk group"
  require (!tokens.contains "insert" || policy.approvesInsert tokens)
    "Replacement requires explicitly approved topology"

/-- The loop in `validate_commands`. -/
def validateItems (policy : PolicyContent) : List String → List String → Except String Unit
  | _, [] => .ok ()
  | seen, command :: rest => do
    policy.validateItem seen command
    policy.validateItems (command :: seen) rest

/-- `validate_commands` -/
def validateCommands (policy : PolicyContent) : Except String Unit := do
  require (validServiceUser policy.serviceUser) "Invalid service account"
  require (decide (policy.replacements.map (·.slot)).Nodup) "Duplicate replacement slot"
  policy.validateItems [] (policy.commands.map (·.command))

end Validation

end PolicyContent

/-- A policy that the validator let in. -/
structure CommandPolicy [PyDigits] extends PolicyContent where
  fields : toPolicyContent.validFields = true
  validated : toPolicyContent.validateCommands = .ok ()

/-! ## Questions to the policy -/

/-- `permits` -/
def PolicyContent.permits (policy : PolicyContent) (args : List String) : Bool :=
  (policy.commands.map (·.command)).contains (joinArgs (withJsonFlag args))

/-- The dictionary of `action_commands`. -/
def PolicyContent.suffixes (policy : PolicyContent) : List (String × List String) := [
  ("/controller/buzzer/silence", ["/c0 set alarm=silence J"]),
  ("/controller/buzzer/disable", ["/c0 set alarm=off J"]),
  ("/controller/buzzer/enable", ["/c0 set alarm=on J"]),
  ("/controller/patrol-read/start", ["/c0 start patrolread J"]),
  ("/controller/patrol-read/stop", ["/c0 stop patrolread J"]),
  ("/controller/patrol-read/mode",
    ["/c0 set patrolread=on mode=auto J", "/c0 set patrolread=on mode=manual J", "/c0 set patrolread=off J"]),
  ("/controller/consistency-check/start",
    ["/c0/vall start cc J", "/c0/v" ++ toString policy.virtualDrive ++ " start cc J"]),
  ("/controller/consistency-check/stop", ["/c0/vall stop cc J"]),
  ("/controller/consistency-check/mode", ["/c0 set cc=conc J", "/c0 set cc=seq J"]),
  ("/controller/foreign-config/import", ["/c0/fall import J"]),
  ("/controller/foreign-config/clear", ["/c0/fall delete J"])]

/-- The groups of `/drives/252:([0-7])/(.+)$` where the match starts; the last dot and the end leave out a newline. -/
def driveActionAt (chars : List Char) : Option (ℕ × String) :=
  match "/drives/252:".toList.isPrefixOf chars, chars.drop "/drives/252:".toList.length with
  | true, digit :: '/' :: rest =>
    let action := rest.takeWhile (· != '\n')
    let behind := rest.dropWhile (· != '\n')
    if '0' ≤ digit ∧ digit ≤ '7' ∧ action ≠ [] ∧ (behind = [] ∨ behind = ['\n']) then
      some (digit.toNat - '0'.toNat, String.ofList action)
    else none
  | _, _ => none

/-- `re.search` -/
def searchDriveAction (path : String) : Option (ℕ × String) := path.toList.tails.findSome? driveActionAt

/-- The dictionary of the actions of one drive. -/
def PolicyContent.tails (policy : PolicyContent) : List (String × String) := [
  ("locate/start", "start locate J"),
  ("locate/stop", "stop locate J"),
  ("actions/mark-ugood", "set good J"),
  ("actions/spindown", "spindown J"),
  ("actions/hotspare", "add hotsparedrive dgs=" ++ toString policy.diskGroup ++ " J"),
  ("replace/offline", "set offline J"),
  ("replace/missing", "set missing J")]

/-- The commands of an action of the drive in a slot. -/
def PolicyContent.driveCommands (policy : PolicyContent) (slot : ℕ) (action : String) : List String :=
  let drive := "/c0/e252/s" ++ toString slot
  if action = "replace/insert" then
    match policy.topology slot with
    | none => []
    | some topology => [drive ++ " insert " ++ joinArgs topology.tokens ++ " J"]
  else match policy.tails.lookup action with
    | none => []
    | some tail => [drive ++ " " ++ tail]

/-- `action_commands` -/
def PolicyContent.actionCommands (policy : PolicyContent) (path : String) : List String :=
  match policy.suffixes.find? fun entry => Py.endsWith path entry.1 with
  | some (_, commands) => commands
  | none => match searchDriveAction path with
    | none => []
    | some (slot, action) => policy.driveCommands slot action

/-- `command.split()` on a command whose only blanks are spaces. -/
def splitCommand (command : String) : List String := (commandTokens command).filter (· != "")

/-- `action_refusal` -/
def PolicyContent.actionRefusal (policy : PolicyContent) (path : String) (selected : Option (List String)) :
    Option String :=
  let commands := match selected with
    | none => policy.actionCommands path
    | some args => (policy.actionCommands path).filter (· == joinArgs (withJsonFlag args))
  if commands.any fun command => policy.permits (splitCommand command) then none
  else some ("Unavailable: exact StorCLI 1.23.02 syntax or topology is not approved. " ++
    "Ask the administrator to review read-only help and regenerate the exact sudo policy.")

/-- `path.rsplit("/", 1)[0]` -/
def beforeLastSlash (path : String) : String :=
  match path.toList.reverse.dropWhile (· != '/') with
  | [] => path
  | _ :: front => String.ofList front.reverse

/-- `replacement_refusal` -/
def PolicyContent.replacementRefusal (policy : PolicyContent) (path : String) : Option String :=
  ["offline", "missing", "insert"].findSome? fun step =>
    (policy.actionRefusal (beforeLastSlash path ++ "/" ++ step) none).map fun _ =>
      "Replacement unavailable: " ++ step.capitalize ++ " command or topology is not approved. " ++
        "Ask the administrator to approve every replacement step before taking a drive offline."

/-- `.replace("/s", ":")` -/
def replaceSlotMark : List Char → List Char
  | '/' :: 's' :: rest => ':' :: replaceSlotMark rest
  | c :: rest => c :: replaceSlotMark rest
  | [] => []

/-- `selector.removeprefix("/c0/e").replace("/s", ":")` -/
def slotOfSelector (selector : String) : String :=
  let front := if Py.startsWith selector "/c0/e" then Py.dropPrefix selector "/c0/e" else selector
  String.ofList (replaceSlotMark front.toList)

/-- `replacement_command_refusal` -/
def PolicyContent.replacementCommandRefusal (policy : PolicyContent) (args : List String) : Option String :=
  if (args.drop 1).take 2 ∈ [["set", "offline"], ["set", "missing"]] ∨ args[1]? = some "insert" then
    policy.replacementRefusal ("/drives/" ++ slotOfSelector (args.headD "") ++ "/replace/step")
  else none

end MegaraidDashboard.Storcli
