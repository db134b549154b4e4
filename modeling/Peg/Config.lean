import Mathlib.Data.List.Basic

namespace Peg.Config

/-- Modelled from the spec: `types.MachineConfig` is not among the sources. These are the
fields `qemu.go` reads, under the names of the spec's data model (§3); `SSH.Port` is
`sshPort`. -/
structure MachineConfig where
  id : String
  drives : List String
  driveSizes : List String
  autoDriveSetup : Bool
  iso : String
  dataSource : String
  stateDir : String
  process : String
  arch : String
  memory : String
  cpu : String
  cpuType : String
  display : String
  disableDefaultNetworking : Bool
  sshPort : String
  args : List String
  deriving DecidableEq, Repr, Inhabited

def driveSizes (defaultDriveSize : String) (cfg : MachineConfig) : List String :=
  let sizes := cfg.driveSizes.map (· ++ "M")
  if sizes.length = 0 then sizes ++ [defaultDriveSize ++ "M"] else sizes

def monitorSockFile (join : String → String → String) (cfg : MachineConfig) : String :=
  join cfg.stateDir "qemu-monitor.sock"

theorem driveSizes_eq (defaultDriveSize : String) (cfg : MachineConfig) :
    driveSizes defaultDriveSize cfg =
      if cfg.driveSizes = [] then [defaultDriveSize ++ "M"] else cfg.driveSizes.map (· ++ "M") := by
  unfold driveSizes
  by_cases h : cfg.driveSizes = [] <;> simp [h]

theorem length_driveSizes (defaultDriveSize : String) (cfg : MachineConfig) :
    (driveSizes defaultDriveSize cfg).length = max 1 cfg.driveSizes.length := by
  rw [driveSizes_eq]
  split <;> simp_all [Nat.one_le_iff_ne_zero]

end Peg.Config
