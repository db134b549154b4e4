import Mathlib.Data.List.Nodup
import Peg.BootOrder
import Peg.Runtime

namespace Peg.Qemu

open Peg.Config Peg.QemuOpts Peg.Drives Peg.Layout Peg.BootOrder Peg.Runtime Peg.Decimal

variable (host : Host) (join : String → String → String)

def commonPaths : List String :=
  ["/home/linuxbrew/.linuxbrew/bin/", "/usr/local/bin/", "/usr/bin/", "/opt/homebrew/bin/",
    "/usr/local/homebrew/bin/"]

def searchCommonPaths (qemuBinary : String) : List String → Exec (Option String)
  | [] => pure none
  | path :: paths => do
    match ← Exec.invoke host (.stat (join path qemuBinary)) with
    | none => pure (some (join path qemuBinary))
    | some _ => searchCommonPaths qemuBinary paths

def findQEMUBinary (arch : String) : Exec String := do
  let qemuBinary := "qemu-system-" ++ arch
  match ← searchCommonPaths host join qemuBinary commonPaths with
  | some path => pure path
  | none =>
    match ← Exec.invoke host (.lookPath qemuBinary) with
    | .ok path => pure path
    | .error err => Exec.throw (.wrap (qemuBinary ++ " not found in common paths or PATH: ") err)

def createDisk (cfg : MachineConfig) (diskname size : String) : Exec Unit := do
  Exec.check (← Exec.invoke host (.mkdirAll cfg.stateDir))
  let (out, err) ← Exec.invoke host
    (.sh ("qemu-img create -f qcow2 " ++ join cfg.stateDir diskname ++ " " ++ size))
  match err with
  | some err => Exec.throw (.wrap (out ++ " : ") err)
  | none => pure ()

def diskName (cfg : MachineConfig) (i : Nat) : String := cfg.id ++ "-" ++ Nat.repr i ++ ".img"

/-- The auto-provisioning loop of `Create` from index `i`, over the sizes left, with the
drives made so far. -/
def provision (cfg : MachineConfig) : Nat → List String → List String → Exec (List String)
  | _, [], userDrives => pure userDrives
  | i, s :: sizes, userDrives => do
    Exec.wrapErr ("creating disk with size " ++ s ++ ": ") (createDisk host join cfg (diskName cfg i) s)
    provision cfg (i + 1) sizes (userDrives ++ [join cfg.stateDir (diskName cfg i)])

def setupDrives (defaultDriveSize : String) (cfg : MachineConfig) : Exec (List String) :=
  if cfg.autoDriveSetup && cfg.drives.length == 0 then
    provision host join cfg 0 (driveSizes defaultDriveSize cfg) cfg.drives
  else pure cfg.drives

def monitorOpts (sock : String) : String := "unix:" ++ sock ++ ",server,nowait"

def qemuOpts (cfg : MachineConfig) : List String :=
  let display := if cfg.display ≠ "" then cfg.display else "-nographic"
  let opts := ["-m", cfg.memory, "-smp", "cores=" ++ cfg.cpu, "-rtc", "base=utc,clock=rt",
    "-monitor", monitorOpts (monitorSockFile join cfg), "-device", "virtio-serial"]
  let opts := if !cfg.disableDefaultNetworking then
      opts ++ ["-nic", "user,hostfwd=tcp::" ++ cfg.sshPort ++ "-:22"] else opts
  let opts := opts ++ display.splitOn " "
  let opts := if cfg.cpuType ≠ "" then opts ++ ["-cpu", cfg.cpuType]
    else if cfg.arch = "aarch64" then opts ++ ["-cpu", "max"] else opts
  let opts := opts ++ cfg.args
  let opts := if cfg.arch = "aarch64" then
      opts ++ ["-machine", "virt,accel=tcg,acpi=on,gic-version=2"] else opts
  opts ++ ["-boot", "order=dc,menu=on"]

/-- The rest of `Create` once the drives are known: resolve the binary, then start the
process (`process.New`, the failure monitor and `Run`) on the synthesized arguments. -/
def launch (cfg : MachineConfig) (userDrives : List String) : Exec Unit := do
  let processName ← if cfg.process ≠ "" then pure cfg.process
    else Exec.wrapErr "failed to find QEMU binary: " (findQEMUBinary host join cfg.arch)
  Exec.check (← Exec.invoke host
    (.processRun processName (qemuOpts join cfg ++ genDrives userDrives cfg) cfg.stateDir))

def create (defaultDriveSize : String) (cfg : MachineConfig) : Exec Unit := do
  let userDrives ← setupDrives host join defaultDriveSize cfg
  launch host join cfg userDrives

def stop (cfg : MachineConfig) : Exec Unit := do
  Exec.check (← Exec.invoke host (.processStop cfg.stateDir))

def clean (cfg : MachineConfig) : Exec Unit :=
  if cfg.stateDir ≠ "" then do Exec.check (← Exec.invoke host (.removeAll cfg.stateDir))
  else pure ()

def alive (cfg : MachineConfig) : Exec Bool := Exec.invoke host (.processIsAlive cfg.stateDir)

theorem createDisk_calls (cfg : MachineConfig) (diskname size : String) :
    Exec.CallsWithin (fun c => c = .mkdirAll cfg.stateDir ∨ ∃ cmd, c = .sh cmd)
      (createDisk host join cfg diskname size) :=
  Exec.callsWithin_bind (Exec.callsWithin_invoke (.inl rfl) host) fun r =>
    Exec.callsWithin_bind (Exec.callsWithin_check r) fun _ =>
      Exec.callsWithin_bind (Exec.callsWithin_invoke (.inr ⟨_, rfl⟩) host) fun
        | (_, some _) => Exec.callsWithin_throw _
        | (_, none) => Exec.callsWithin_pure ()

def diskTrace (cfg : MachineConfig) (sizes : List String) (tr : List Call) : Nat → List Call
  | 0 => tr
  | k + 1 => (createDisk host join cfg (diskName cfg k) (sizes.getD k "") (diskTrace cfg sizes tr k)).2

def diskResult (cfg : MachineConfig) (sizes : List String) (tr : List Call) (k : Nat) :
    Except GoError Unit :=
  (createDisk host join cfg (diskName cfg k) (sizes.getD k "") (diskTrace host join cfg sizes tr k)).1

theorem createDisk_diskTrace (cfg : MachineConfig) (sizes : List String) (tr : List Call) (k : Nat) :
    createDisk host join cfg (diskName cfg k) (sizes.getD k "") (diskTrace host join cfg sizes tr k) =
      (diskResult host join cfg sizes tr k, diskTrace host join cfg sizes tr (k + 1)) := rfl

theorem getD_of_drop_eq_cons {sizes ss : List String} {i : Nat} {s : String}
    (h : sizes.drop i = s :: ss) : sizes.getD i "" = s ∧ sizes.drop (i + 1) = ss := by
  rw [← List.drop_drop, h, List.getD_eq_getElem?_getD, ← List.head?_drop, h]
  exact ⟨rfl, rfl⟩

theorem provision_ok (cfg : MachineConfig) (sizes : List String) (tr : List Call) (ss : List String) :
    ∀ i acc, sizes.drop i = ss → (∀ k, i ≤ k → k < i + ss.length → diskResult host join cfg sizes tr k = .ok ()) →
      provision host join cfg i ss acc (diskTrace host join cfg sizes tr i) =
        (.ok (acc ++ (List.range' i ss.length).map (fun k => join cfg.stateDir (diskName cfg k))),
          diskTrace host join cfg sizes tr (i + ss.length)) := by
  induction ss with
  | nil => intro i acc _ _; simp [provision]
  | cons s ss ih =>
    intro i acc hdrop hok
    obtain ⟨hs, hdrop'⟩ := getD_of_drop_eq_cons hdrop
    have hc := createDisk_diskTrace host join cfg sizes tr i
    rw [hs, hok i le_rfl (by simp), ] at hc
    rw [provision, Exec.bind_ok (Exec.wrapErr_ok hc _),
      ih (i + 1) _ hdrop' (fun k hk hk' => hok k (by omega) (by simp at hk' ⊢; omega))]
    simp [List.range'_succ, Nat.add_assoc, Nat.add_comm 1]

theorem provision_error (cfg : MachineConfig) (sizes : List String) (tr : List Call) (k : Nat)
    (e : GoError) (hk : diskResult host join cfg sizes tr k = .error e) (ss : List String) :
    ∀ i acc, sizes.drop i = ss → i ≤ k → k < i + ss.length →
      (∀ j, i ≤ j → j < k → diskResult host join cfg sizes tr j = .ok ()) →
      provision host join cfg i ss acc (diskTrace host join cfg sizes tr i) =
        (.error (.wrap ("creating disk with size " ++ sizes.getD k "" ++ ": ") e),
          diskTrace host join cfg sizes tr (k + 1)) := by
  induction ss with
  | nil => intro i acc _ hik hki; simp at hki; omega
  | cons s ss ih =>
    intro i acc hdrop hik hki hok
    obtain ⟨hs, hdrop'⟩ := getD_of_drop_eq_cons hdrop
    have hc := createDisk_diskTrace host join cfg sizes tr i
    rcases Nat.lt_or_eq_of_le hik with hlt | rfl
    · rw [hs, hok i le_rfl hlt] at hc
      rw [provision, Exec.bind_ok (Exec.wrapErr_ok hc _),
        ih (i + 1) _ hdrop' hlt (by simp at hki; omega) (fun j hj hj' => hok j (by omega) hj')]
    · rw [hk] at hc
      rw [provision, ← hs, Exec.bind_error (Exec.wrapErr_error hc _)]

theorem diskTrace_calls (cfg : MachineConfig) (sizes : List String) (tr : List Call) (k : Nat) :
    ∃ extra, diskTrace host join cfg sizes tr k = tr ++ extra ∧
      ∀ c ∈ extra, c = .mkdirAll cfg.stateDir ∨ ∃ cmd, c = .sh cmd := by
  induction k with
  | zero => exact ⟨[], by simp [diskTrace]⟩
  | succ k ih =>
    obtain ⟨e₁, h₁, hp₁⟩ := ih
    obtain ⟨e₂, h₂, hp₂⟩ := createDisk_calls host join cfg (diskName cfg k) (sizes.getD k "")
      (diskTrace host join cfg sizes tr k)
    refine ⟨e₁ ++ e₂, by rw [diskTrace, h₂, h₁, List.append_assoc], fun c hc => ?_⟩
    rcases List.mem_append.mp hc with hc | hc
    · exact hp₁ c hc
    · exact hp₂ c hc

theorem diskName_injective (cfg : MachineConfig) : Function.Injective (diskName cfg) := fun _ _ h =>
  repr_injective (String.ext (by simpa [diskName, List.append_assoc] using congrArg String.data h))

theorem setupDrives_auto (defaultDriveSize : String) {cfg : MachineConfig}
    (hauto : cfg.autoDriveSetup = true) (hnone : cfg.drives = []) :
    setupDrives host join defaultDriveSize cfg =
      provision host join cfg 0 (driveSizes defaultDriveSize cfg) [] := by
  simp [setupDrives, hauto, hnone]

theorem launch_start (cfg : MachineConfig) (userDrives : List String) {tr tr' : List Call}
    {name : String} (h : cfg.process ≠ "" ∧ name = cfg.process ∧ tr' = tr ∨
      cfg.process = "" ∧ findQEMUBinary host join cfg.arch tr = (.ok name, tr')) :
    let start := Call.processRun name (qemuOpts join cfg ++ genDrives userDrives cfg) cfg.stateDir
    launch host join cfg userDrives tr = Exec.check (host.reply tr' start) (tr' ++ [start]) := by
  rcases h with ⟨hp, rfl, rfl⟩ | ⟨hp, hf⟩
  · rw [launch, if_pos hp]
    rfl
  · rw [launch, if_neg (not_not.mpr hp), Exec.bind_ok (Exec.wrapErr_ok hf _)]
    rfl

theorem enum_map_range {α : Type} (g : Nat → α) (n : Nat) :
    ((List.range n).map g).enum = (List.range n).map fun i => (i, g i) :=
  List.ext_getElem (by simp) fun i _ _ => by simp

/-- With auto-provisioning on and no drives configured, `Create` makes one disk per size (the
default size when none is given), named `<id>-<i>.img`, in order, and stops at the first
failure, before the process is touched. The disks made become the drive list QEMU is started
on, disk `i` as block device `drv<i>` booting at `i + 1`. Otherwise the configured drives are
passed through untouched. -/
theorem create_drives (defaultDriveSize : String) (cfg : MachineConfig) (tr : List Call) :
    let sizes := driveSizes defaultDriveSize cfg
    let n := max 1 cfg.driveSizes.length
    let made := (List.range n).map (fun i => join cfg.stateDir (diskName cfg i))
    let start := fun name => Call.processRun name (qemuOpts join cfg ++ genDrives made cfg) cfg.stateDir
    (cfg.autoDriveSetup = true → cfg.drives = [] →
      sizes = (if cfg.driveSizes = [] then [defaultDriveSize ++ "M"]
        else cfg.driveSizes.map (· ++ "M")) ∧
      sizes.length = n ∧ ((List.range n).map (diskName cfg)).Nodup ∧
      ((∀ k < n, diskResult host join cfg sizes tr k = .ok ()) →
        create host join defaultDriveSize cfg tr =
          launch host join cfg made (diskTrace host join cfg sizes tr n) ∧
        (∀ name tr', cfg.process ≠ "" ∧ name = cfg.process ∧ tr' = diskTrace host join cfg sizes tr n ∨
            cfg.process = "" ∧
              findQEMUBinary host join cfg.arch (diskTrace host join cfg sizes tr n) = (.ok name, tr') →
          create host join defaultDriveSize cfg tr =
            Exec.check (host.reply tr' (start name)) (tr' ++ [start name])) ∧
        ((List.range n).flatMap fun i => [("-drive", diskDriveOpts (driveID i) (join cfg.stateDir (diskName cfg i))),
          ("-device", diskDeviceOpts (driveID i) (i + 1))]) <+: pairs (genDrives made cfg)) ∧
      (∀ k < n, ∀ e, (∀ j < k, diskResult host join cfg sizes tr j = .ok ()) →
        diskResult host join cfg sizes tr k = .error e →
        create host join defaultDriveSize cfg tr =
          (.error (.wrap ("creating disk with size " ++ sizes.getD k "" ++ ": ") e),
            diskTrace host join cfg sizes tr (k + 1)) ∧
        ∃ extra, diskTrace host join cfg sizes tr (k + 1) = tr ++ extra ∧
          ∀ c ∈ extra, c = .mkdirAll cfg.stateDir ∨ ∃ cmd, c = .sh cmd)) ∧
    (cfg.autoDriveSetup = false ∨ cfg.drives ≠ [] →
      create host join defaultDriveSize cfg tr = launch host join cfg cfg.drives tr) := by
  intro sizes n made start
  have hn : sizes.length = n := length_driveSizes defaultDriveSize cfg
  refine ⟨fun hauto hnone => ⟨driveSizes_eq _ _, hn, (List.nodup_range n).map (diskName_injective cfg),
    fun hok => ?_, fun k hk e hbefore hke => ⟨?_, diskTrace_calls host join cfg sizes tr (k + 1)⟩⟩,
    fun hother => ?_⟩
  · have hp := provision_ok host join cfg sizes tr sizes 0 [] rfl (fun k _ hk => hok k (by omega))
    have hcreate : create host join defaultDriveSize cfg tr =
        launch host join cfg made (diskTrace host join cfg sizes tr n) := by
      rw [create, Exec.bind_ok (by rw [setupDrives_auto host join _ hauto hnone]; exact hp)]
      simp [hn, made, List.range_eq_range']
    refine ⟨hcreate, fun name tr' h => hcreate.trans (launch_start host join cfg made h), ?_⟩
    have hpre := userDiskPairs_lead made cfg
    rwa [enum_map_range, List.flatMap_map] at hpre
  · have hp := provision_error host join cfg sizes tr k e hke sizes 0 [] rfl (Nat.zero_le k)
      (by omega) (fun j _ hj => hbefore j hj)
    rw [create, Exec.bind_error (by rw [setupDrives_auto host join _ hauto hnone]; exact hp)]
  · have hs : setupDrives host join defaultDriveSize cfg = pure cfg.drives := by
      rcases hother with h | h <;> simp [setupDrives, h]
    rw [create, hs]
    rfl

theorem create_drives_one_default_disk :
    let cfg : MachineConfig := { (default : MachineConfig) with
      id := "vm", autoDriveSetup := true, stateDir := "/tmp/vm", process := "qemu-system-x86_64" }
    let join := fun dir file => dir ++ "/" ++ file
    let noSpace : Host := { Host.succeeding with reply := fun tr c => match c with
      | .sh _ => ("No space left on device", some (.text "exit status 1"))
      | c => Host.succeeding.reply tr c }
    let start := Call.processRun "qemu-system-x86_64"
      (qemuOpts join cfg ++ genDrives ["/tmp/vm/vm-0.img"] cfg) "/tmp/vm"
    cfg.autoDriveSetup = true ∧ cfg.drives = [] ∧
      (∀ k < 1, diskResult Host.succeeding join cfg ["10240M"] [] k = .ok ()) ∧
      create Host.succeeding join "10240" cfg [] =
        (.ok (), diskTrace Host.succeeding join cfg ["10240M"] [] 1 ++ [start]) ∧
      diskResult noSpace join cfg ["10240M"] [] 0 =
        .error (.wrap "No space left on device : " (.text "exit status 1")) ∧
      create noSpace join "10240" cfg [] =
        (.error (.wrap "creating disk with size 10240M: "
          (.wrap "No space left on device : " (.text "exit status 1"))),
          diskTrace noSpace join cfg ["10240M"] [] 1) := by
  intro cfg join noSpace start
  have hok : ∀ k < 1, diskResult Host.succeeding join cfg ["10240M"] [] k = .ok () := by
    intro k hk
    obtain rfl : k = 0 := by omega
    rfl
  have hfail : diskResult noSpace join cfg ["10240M"] [] 0 =
      .error (.wrap "No space left on device : " (.text "exit status 1")) := rfl
  exact ⟨rfl, rfl, hok,
    ((create_drives Host.succeeding join "10240" cfg []).1 rfl rfl).2.2.2.1 hok |>.2.1
      "qemu-system-x86_64" _ (.inl ⟨by decide, rfl, rfl⟩),
    hfail, ((create_drives noSpace join "10240" cfg []).1 rfl rfl).2.2.2.2 0 (by decide) _
      nofun hfail |>.1⟩

end Peg.Qemu
