import MegaraidDashboard.Model.Storcli.Policy

/-! # The rollout of the exact commands

An operator installs the sudo policy that the script renders, and runs its checks as the service user: some commands
must be granted, some must not. Nothing here runs a command of the controller.
-/

namespace MegaraidDashboard.Storcli

/-- `PINNED_BINARY`, which the script names `STAGED` -/
def pinnedBinary : String := "/usr/local/libexec/megaraid-dashboard/storcli-1.23.02/storcli64"

/-- The text that all three renderings share: one alias, granted to one user. -/
def renderAlias (alias_ user : String) (lines : List String) : String :=
  "Cmnd_Alias " ++ alias_ ++ " = " ++ ", \\\n  ".intercalate lines ++ "\n" ++ user ++ " ALL=(root) NOPASSWD: " ++ alias_ ++
    "\n"

/-- `CommandPolicy.sudoers` -/
def PolicyContent.sudoers (policy : PolicyContent) (reads : List String) : String :=
  let commands := (reads ++ policy.commands.map (·.command)).eraseDups
  renderAlias "MEGARAID_APPROVED" policy.serviceUser (commands.map fun command => pinnedBinary ++ " " ++ command)

end MegaraidDashboard.Storcli

namespace MegaraidDashboard.Scripts.StorcliRollout

open Storcli

/-- `ORIGINAL` -/
def originalBinary : String := "/usr/local/sbin/storcli64"

/-- `/c0/e252/s{slot}` -/
def drive (slot : ℕ) : String := "/c0/e252/s" ++ toString slot

/-- `READS` -/
def reads : List String := [
  "/c0 show all J",
  "/c0/vall show all J",
  "/c0/eall/sall show all J",
  "/c0/cv show all J",
  "/c0/bbu show all J",
  "/c0/fall show all J",
  "/c0 show patrolread J",
  "/c0 show cc J",
  "/c0/vall show cc J"] ++
  (List.range 8).flatMap fun slot => ["all", "rebuild"].map fun probe => drive slot ++ " show " ++ probe ++ " J"

/-- `full_policy`, once the policy is loaded. -/
def fullPolicy (policy : PolicyContent) : String := policy.sudoers reads

/-- `policy`; other binaries are a `ValueError`. -/
def readPolicy (binary : String) : Except String String :=
  if binary ∈ [pinnedBinary, originalBinary] then
    .ok (renderAlias "MEGARAID_RO_READS" "megaraid" (reads.map fun command => binary ++ " " ++ command))
  else .error "Only the two recorded binary selections are supported"

/-- `locate_policy` -/
def locatePolicy : String :=
  renderAlias "MEGARAID_LOCATE" "megaraid" ((List.range 8).flatMap fun slot => ["start", "stop"].map fun action =>
    pinnedBinary ++ " " ++ drive slot ++ " " ++ action ++ " locate J")

/-! ## Authorization checks -/

/-- What a check expects `sudo -l` to answer for a command. -/
inductive AuthorizationCheck where
  | granted (command : String)
  | denied (command : String)
deriving DecidableEq, Repr

/-- The lines of a check. The quotes that `shlex.quote` adds to other paths are not needed. -/
def AuthorizationCheck.lines : AuthorizationCheck → List String
  | granted command => ["sudo -n -l -- " ++ command ++ " >/dev/null"]
  | denied command => ["if sudo -n -l -- " ++ command ++ " >/dev/null 2>&1; then",
      "  echo 'Unexpected permission: " ++ command ++ "' >&2; exit 1", "fi"]

/-- The tuple `denied`. -/
def deniedCommands (approved : PolicyContent) : List String := [
  originalBinary ++ " /c0 set alarm=on J",
  pinnedBinary ++ " /c1 set alarm=on J",
  pinnedBinary ++ " /c0/e252/s8 start locate J",
  pinnedBinary ++ " /c0/e252/s0 set bad J",
  pinnedBinary ++ " /c0/e252/s0 set offline force J",
  pinnedBinary ++ " /c0/v" ++ toString ((approved.virtualDrive + 1) % 64) ++ " start cc J",
  pinnedBinary ++ " /c0/e252/s0 add hotsparedrive dgs=" ++ toString ((approved.diskGroup + 1) % 64) ++ " J",
  pinnedBinary ++ " /c0/e252/s0 insert dg=" ++ toString approved.diskGroup ++ " array=64 row=0 J"] ++
  approved.replacements.map fun topology =>
    pinnedBinary ++ " " ++ drive topology.slot ++ " insert dg=" ++ toString topology.dg ++ " array=" ++
      toString topology.array ++ " row=" ++ toString ((topology.row + 1) % 256) ++ " J"

def authorizationChecks (approved : PolicyContent) : List AuthorizationCheck :=
  (reads ++ approved.commands.map (·.command)).map (fun command => .granted (pinnedBinary ++ " " ++ command)) ++
    (deniedCommands approved).map .denied

/-- `authorization_checks`, once the policy is loaded. -/
def authorizationScript (approved : PolicyContent) : String :=
  "\n".intercalate (["#!/bin/sh", "set -eu", "# Run as " ++ approved.serviceUser ++ "; never as root."] ++
    (authorizationChecks approved).flatMap (·.lines)) ++ "\n"

end MegaraidDashboard.Scripts.StorcliRollout
