import Peg.Qemu

namespace Peg.Monitor

open Peg.Config Peg.QemuOpts Peg.Drives Peg.Layout Peg.BootOrder Peg.Runtime Peg.Qemu

variable (host : Host) (join : String → String → String)

def withMonitor {α : Type} (sock : String) (body : Exec α) : Exec α := do
  Exec.check (← Exec.invoke host (.dial sock))
  Exec.defer body (do let _ ← Exec.invoke host .close)

def drain : Nat → Exec Unit
  | 0 => do let _ ← Exec.invoke host .read
  | budget + 1 => do
    match ← Exec.invoke host .read with
    | some _ => pure ()
    | none => drain budget

def sendCommand (cmd : String) : Exec Unit := do
  let (n, err) ← Exec.invoke host (.write cmd)
  Exec.check err
  if n ≠ cmd.utf8ByteSize then
    Exec.throw (.text ("didn't send the full command (" ++ Nat.repr n ++ " out of " ++
      Nat.repr cmd.utf8ByteSize ++ " bytes)"))
  Exec.check (← Exec.invoke host .setReadDeadline)
  drain host host.readBudget

def screenshot (cfg : MachineConfig) : Exec String :=
  withMonitor host (monitorSockFile join cfg) do
    match ← Exec.invoke host (.createTemp "qemu-screenshot-*.png") with
    | .error err => Exec.throw err
    | .ok name =>
      let _ ← Exec.invoke host (.closeFile name)
      let _ ← Exec.invoke host (.remove name)
      sendCommand host ("screendump " ++ name ++ "\r\n")
      pure name

def detachCD (cfg : MachineConfig) : Exec Unit :=
  withMonitor host (monitorSockFile join cfg) (sendCommand host "eject -f ide0-cd0\r\n")

/-- The read loop's stopping rule after the calls `tr`: `k` reads answered, then one more that
failed, or that used up the budget of `k` answered reads. -/
def Drains (budget : Nat) (tr : List Call) (k : Nat) : Prop :=
  k ≤ budget ∧ (∀ m < k, host.reply (tr ++ List.replicate m .read) .read = none) ∧
    (k = budget ∨ host.reply (tr ++ List.replicate k .read) .read ≠ none)

/-- What one `sendCommand` after the calls `tr` leaves on the socket and returns, each way
chosen by the host's replies: the deadline and the drain follow only a line written whole, and
once the deadline is set the command succeeds whatever the reads return. -/
inductive Exchange (cmd : String) (tr : List Call) : List Call → Except GoError Unit → Prop
  | writeFailed {n : Nat} {e : GoError} (hw : host.reply tr (.write cmd) = (n, some e)) :
      Exchange cmd tr [.write cmd] (.error e)
  | shortWrite {n : Nat} (hw : host.reply tr (.write cmd) = (n, none)) (hn : n ≠ cmd.utf8ByteSize) :
      Exchange cmd tr [.write cmd]
        (.error (.text ("didn't send the full command (" ++ Nat.repr n ++ " out of " ++
          Nat.repr cmd.utf8ByteSize ++ " bytes)")))
  | deadlineFailed {e : GoError} (hw : host.reply tr (.write cmd) = (cmd.utf8ByteSize, none))
      (hd : host.reply (tr ++ [.write cmd]) .setReadDeadline = some e) :
      Exchange cmd tr [.write cmd, .setReadDeadline] (.error e)
  | drained {k : Nat} (hw : host.reply tr (.write cmd) = (cmd.utf8ByteSize, none))
      (hd : host.reply (tr ++ [.write cmd]) .setReadDeadline = none)
      (hk : Drains host host.readBudget (tr ++ [.write cmd, .setReadDeadline]) k) :
      Exchange cmd tr ([.write cmd, .setReadDeadline] ++ List.replicate (k + 1) .read) (.ok ())

inductive Session (sock cmd : String) (tr : List Call) : List Call → Except GoError Unit → Prop
  | dialFailed {e : GoError} (hd : host.reply tr (.dial sock) = some e) :
      Session sock cmd tr [.dial sock] (.error e)
  | exchanged {calls : List Call} {r : Except GoError Unit} (hd : host.reply tr (.dial sock) = none)
      (hx : Exchange host cmd (tr ++ [.dial sock]) calls r) :
      Session sock cmd tr (.dial sock :: calls ++ [.close]) r

inductive ScreenshotRun (sock : String) (tr : List Call) : List Call → Except GoError String → Prop
  | dialFailed {e : GoError} (hd : host.reply tr (.dial sock) = some e) :
      ScreenshotRun sock tr [.dial sock] (.error e)
  | tempFailed {e : GoError} (hd : host.reply tr (.dial sock) = none)
      (ht : host.reply (tr ++ [.dial sock]) (.createTemp "qemu-screenshot-*.png") = .error e) :
      ScreenshotRun sock tr [.dial sock, .createTemp "qemu-screenshot-*.png", .close] (.error e)
  | exchanged {name : String} {calls : List Call} {r : Except GoError Unit}
      (hd : host.reply tr (.dial sock) = none)
      (ht : host.reply (tr ++ [.dial sock]) (.createTemp "qemu-screenshot-*.png") = .ok name)
      (hx : Exchange host ("screendump " ++ name ++ "\r\n")
        (tr ++ [.dial sock, .createTemp "qemu-screenshot-*.png", .closeFile name, .remove name]) calls r) :
      ScreenshotRun sock tr (.dial sock :: .createTemp "qemu-screenshot-*.png" :: .closeFile name ::
        .remove name :: calls ++ [.close]) (r.map fun _ => name)

theorem Exchange.mem_calls {cmd : String} {tr calls : List Call} {r : Except GoError Unit}
    (hx : Exchange host cmd tr calls r) :
    ∀ c ∈ calls, c = .write cmd ∨ c = .setReadDeadline ∨ c = .read := by
  intro c hc
  cases hx with
  | writeFailed | shortWrite => exact .inl (List.mem_singleton.mp hc)
  | deadlineFailed => exact (List.mem_pair.mp hc).imp_right .inl
  | drained =>
    rcases List.mem_append.mp hc with hc | hc
    · exact (List.mem_pair.mp hc).imp_right .inl
    · exact .inr (.inr (List.eq_of_mem_replicate hc))

theorem Drains.unique {budget : Nat} {tr : List Call} {k₁ k₂ : Nat}
    (h₁ : Drains host budget tr k₁) (h₂ : Drains host budget tr k₂) : k₁ = k₂ := by
  have stops : ∀ {a b}, Drains host budget tr a → Drains host budget tr b → ¬ a < b :=
    fun ⟨_, _, hstop⟩ ⟨hb, hok, _⟩ hab => hstop.elim (fun h => by omega) (· (hok _ hab))
  exact le_antisymm (not_lt.mp (stops h₂ h₁)) (not_lt.mp (stops h₁ h₂))

theorem withMonitor_apply {α : Type} (sock : String) (body : Exec α) (tr : List Call) :
    withMonitor host sock body tr =
      match host.reply tr (.dial sock) with
      | some e => (.error e, tr ++ [.dial sock])
      | none => ((body (tr ++ [.dial sock])).1, (body (tr ++ [.dial sock])).2 ++ [.close]) := by
  rw [withMonitor, Exec.bind_ok (Exec.invoke_apply host _ tr)]
  cases host.reply tr (.dial sock) <;> rfl

theorem drain_reads (budget : Nat) (tr : List Call) :
    ∃ k, Drains host budget tr k ∧ drain host budget tr = (.ok (), tr ++ List.replicate (k + 1) .read) := by
  induction budget generalizing tr with
  | zero => exact ⟨0, ⟨le_rfl, nofun, .inl rfl⟩, rfl⟩
  | succ budget ih =>
    rcases h : host.reply tr .read with _ | e
    · obtain ⟨k, ⟨hkb, hok, hstop⟩, hk⟩ := ih (tr ++ [.read])
      refine ⟨k + 1, ⟨by omega, fun m hm => ?_, ?_⟩, ?_⟩
      · cases m with
        | zero => simpa using h
        | succ m => simpa [List.replicate_succ] using hok m (by omega)
      · simpa [List.replicate_succ] using hstop
      · rw [drain, Exec.bind_ok (Exec.invoke_apply host .read tr), h]
        exact hk.trans (by simp [List.replicate_succ])
    · refine ⟨0, ⟨Nat.zero_le _, nofun, .inr (by simp [h])⟩, ?_⟩
      rw [drain, Exec.bind_ok (Exec.invoke_apply host .read tr), h]
      rfl

theorem sendCommand_apply (cmd : String) (tr : List Call) :
    sendCommand host cmd tr =
      match host.reply tr (.write cmd) with
      | (_, some e) => (.error e, tr ++ [.write cmd])
      | (n, none) =>
        if n ≠ cmd.utf8ByteSize then
          (.error (.text ("didn't send the full command (" ++ Nat.repr n ++ " out of " ++
            Nat.repr cmd.utf8ByteSize ++ " bytes)")), tr ++ [.write cmd])
        else match host.reply (tr ++ [.write cmd]) .setReadDeadline with
          | some e => (.error e, tr ++ [.write cmd, .setReadDeadline])
          | none => drain host host.readBudget (tr ++ [.write cmd, .setReadDeadline]) := by
  rw [sendCommand, Exec.bind_ok (Exec.invoke_apply host _ tr)]
  rcases host.reply tr (.write cmd) with ⟨n, _ | e⟩
  · dsimp only
    split
    · rfl
    · show (Exec.invoke host .setReadDeadline >>= fun r => Exec.check r >>= fun _ =>
        drain host host.readBudget) (tr ++ [.write cmd]) = _
      rw [Exec.bind_ok (Exec.invoke_apply host _ _), List.append_assoc]
      cases host.reply (tr ++ [.write cmd]) .setReadDeadline <;> rfl
  · rfl

theorem sendCommand_exchange (cmd : String) (tr : List Call) :
    ∃ calls, (sendCommand host cmd tr).2 = tr ++ calls ∧
      Exchange host cmd tr calls (sendCommand host cmd tr).1 := by
  rw [sendCommand_apply]
  split
  · next hw => exact ⟨_, rfl, .writeFailed hw⟩
  · next n hw =>
    split
    · next hn => exact ⟨_, rfl, .shortWrite hw hn⟩
    · next hn =>
      rw [not_not.mp hn] at hw
      split
      · next hd => exact ⟨_, rfl, .deadlineFailed hw hd⟩
      · next hd =>
        obtain ⟨k, hk, hdrain⟩ := drain_reads host host.readBudget (tr ++ [.write cmd, .setReadDeadline])
        rw [hdrain]
        exact ⟨_, by simp, .drained hw hd hk⟩

theorem Exchange.sendCommand_eq {cmd : String} {tr calls : List Call} {r : Except GoError Unit}
    (hx : Exchange host cmd tr calls r) : sendCommand host cmd tr = (r, tr ++ calls) := by
  rw [sendCommand_apply]
  cases hx with
  | writeFailed hw => rw [hw]
  | shortWrite hw hn => rw [hw]; simp [hn]
  | deadlineFailed hw hd => rw [hw]; simp [hd]
  | drained hw hd hk =>
    obtain ⟨k', hk', hdrain⟩ := drain_reads host host.readBudget (tr ++ [.write cmd, .setReadDeadline])
    rw [hw]
    simp [hd, hdrain, hk'.unique host hk]

theorem Session.withMonitor_eq {sock cmd : String} {tr calls : List Call} {r : Except GoError Unit}
    (hs : Session host sock cmd tr calls r) :
    withMonitor host sock (sendCommand host cmd) tr = (r, tr ++ calls) := by
  rw [withMonitor_apply]
  cases hs with
  | dialFailed hd => rw [hd]
  | exchanged hd hx => rw [hd, hx.sendCommand_eq]; simp

theorem sendCommand_calls {P : Call → Prop} (cmd : String) (hwrite : P (.write cmd))
    (hdeadline : P .setReadDeadline) (hread : P .read) :
    Exec.CallsWithin P (sendCommand host cmd) := fun tr =>
  let ⟨calls, h, hx⟩ := sendCommand_exchange host cmd tr
  ⟨calls, h, fun c hc => by
    rcases hx.mem_calls host c hc with rfl | rfl | rfl
    exacts [hwrite, hdeadline, hread]⟩

theorem withMonitor_calls {α : Type} {P : Call → Prop} (sock : String) {body : Exec α}
    (hdial : P (.dial sock)) (hclose : P .close) (hbody : Exec.CallsWithin P body) :
    Exec.CallsWithin P (withMonitor host sock body) :=
  Exec.callsWithin_bind (Exec.callsWithin_invoke hdial host) fun r =>
    Exec.callsWithin_bind (Exec.callsWithin_check r) fun _ =>
      Exec.callsWithin_defer hbody
        (Exec.callsWithin_bind (Exec.callsWithin_invoke hclose host) fun _ => Exec.callsWithin_pure ())

theorem detachCD_calls (cfg : MachineConfig) :
    Exec.CallsWithin (fun c => c = .dial (monitorSockFile join cfg) ∨ c = .write "eject -f ide0-cd0\r\n" ∨
      c = .setReadDeadline ∨ c = .read ∨ c = .close) (detachCD host join cfg) :=
  withMonitor_calls host _ (.inl rfl) (by simp)
    (sendCommand_calls host _ (by simp) (by simp) (by simp))

theorem iso_drive_mem_genDrives (userDrives : List String) {m : MachineConfig} (hiso : m.iso ≠ "") :
    ("-drive", cdromDriveOpts (driveID userDrives.length) m.iso) ∈ pairs (genDrives userDrives m) := by
  rw [pairs_genDrives, layout, if_pos hiso, render_append, render_append, length_userDescriptors]
  simp [render_singleton, descriptorPairs, DriveDescriptor.driveOpts]

theorem driveID_ne_ide0_cd0 (j : Nat) : driveID j ≠ "ide0-cd0" := fun h => by
  have := congrArg (fun s : String => s.data.head?) h
  simp [driveID] at this

theorem ide0_cd0_not_mem_driveIds (userDrives : List String) (m : MachineConfig) :
    "ide0-cd0" ∉ driveIds (pairs (genDrives userDrives m)) := by
  rw [pairs_genDrives, driveIds_render, map_enumFrom_fst]
  simpa using fun j _ => driveID_ne_ide0_cd0 j

theorem eject_name_eq {name : String} (h : "eject -f ide0-cd0\r\n" = "eject -f " ++ name ++ "\r\n") :
    name = "ide0-cd0" := by
  have h' : "eject -f ".data ++ (name.data ++ "\r\n".data) =
      "eject -f ".data ++ ("ide0-cd0".data ++ "\r\n".data) := by
    simpa [List.append_assoc] using (congrArg String.data h).symm
  exact String.ext (List.append_cancel_right (List.append_cancel_left h'))

/-- Whatever the configuration, `DetachCD` ejects `ide0-cd0`, the name of the install medium
in the old IDE layout. `Create` now attaches the install medium as a `scsi-cd` on block
device `drv<N>`, and no device it creates is named `ide0-cd0`. -/
theorem detachCD_ejects_unknown_device (userDrives : List String) (m : MachineConfig)
    (hiso : m.iso ≠ "") :
    ("-drive", cdromDriveOpts (driveID userDrives.length) m.iso) ∈ pairs (genDrives userDrives m) ∧
      lookupOpt "id" (cdromDriveOpts (driveID userDrives.length) m.iso) =
        some (driveID userDrives.length) ∧
      Exec.CallsWithin (fun c => ∀ name, c = .write ("eject -f " ++ name ++ "\r\n") →
        name = "ide0-cd0" ∧ name ≠ driveID userDrives.length ∧
          name ∉ driveIds (pairs (genDrives userDrives m))) (detachCD host join m) := by
  refine ⟨iso_drive_mem_genDrives userDrives hiso,
    lookupOpt_id_driveOpts userDrives.length ⟨m.iso, .cdrom, 50⟩, ?_⟩
  refine (detachCD_calls host join m).mono fun c hc name hname => ?_
  subst hname
  have h : "eject -f " ++ name ++ "\r\n" = "eject -f ide0-cd0\r\n" := by simpa using hc
  obtain rfl := eject_name_eq h.symm
  exact ⟨rfl, (driveID_ne_ide0_cd0 _).symm, ide0_cd0_not_mem_driveIds userDrives m⟩

theorem detachCD_install_iso_unknown :
    let m : MachineConfig :=
      { (default : MachineConfig) with iso := "/tmp/install.iso", stateDir := "/tmp/vm" }
    let join := fun dir file => dir ++ "/" ++ file
    m.iso ≠ "" ∧ lookupOpt "id" (cdromDriveOpts (driveID 0) m.iso) = some "drv0" ∧
      Exec.CallsWithin (fun c => ∀ name, c = .write ("eject -f " ++ name ++ "\r\n") →
        name = "ide0-cd0" ∧ name ≠ "drv0" ∧ name ∉ driveIds (pairs (genDrives [] m)))
        (detachCD Host.succeeding join m) ∧
      detachCD Host.succeeding join m [] = (.ok (), [.dial "/tmp/vm/qemu-monitor.sock",
        .write "eject -f ide0-cd0\r\n", .setReadDeadline, .read, .close]) :=
  have h := detachCD_ejects_unknown_device Host.succeeding (fun dir file => dir ++ "/" ++ file) []
    { (default : MachineConfig) with iso := "/tmp/install.iso", stateDir := "/tmp/vm" } (by decide)
  ⟨by decide, h.2.1, h.2.2, rfl⟩

/-- Whatever the host answers, `DetachCD` after the calls `tr` makes `calls` and returns `r`
exactly when `Session` gives that run for the host's replies: it dials the monitor socket and,
if that works, writes its eject line, sets the deadline, drains and closes, in that order; it
succeeds exactly when the line went out whole and the deadline was set, without reading the
monitor's answer. -/
theorem detachCD_session (cfg : MachineConfig) (tr calls : List Call) (r : Except GoError Unit) :
    detachCD host join cfg tr = (r, tr ++ calls) ↔
      Session host (monitorSockFile join cfg) "eject -f ide0-cd0\r\n" tr calls r := by
  refine Exec.apply_eq_iff ?_ (fun _ _ hs => hs.withMonitor_eq host) calls r
  rw [detachCD, withMonitor_apply]
  split
  · next hd => exact ⟨_, rfl, .dialFailed hd⟩
  · next hd =>
    obtain ⟨calls, h, hx⟩ := sendCommand_exchange host _ (tr ++ [.dial _])
    exact ⟨_, by simp [h], .exchanged hd hx⟩

theorem screenshot_apply (cfg : MachineConfig) (tr : List Call) :
    let sock := monitorSockFile join cfg
    let pattern := "qemu-screenshot-*.png"
    screenshot host join cfg tr =
      match host.reply tr (.dial sock) with
      | some e => (.error e, tr ++ [.dial sock])
      | none =>
        match host.reply (tr ++ [.dial sock]) (.createTemp pattern) with
        | .error e => (.error e, tr ++ [.dial sock, .createTemp pattern, .close])
        | .ok name =>
          let r := sendCommand host ("screendump " ++ name ++ "\r\n")
            (tr ++ [.dial sock, .createTemp pattern, .closeFile name, .remove name])
          (r.1.map fun _ => name, r.2 ++ [.close]) := by
  dsimp only
  rw [screenshot, withMonitor_apply]
  cases host.reply tr (.dial (monitorSockFile join cfg)) with
  | some e => rfl
  | none =>
    dsimp only
    rw [Exec.bind_ok (Exec.invoke_apply host _ _)]
    cases host.reply (tr ++ [.dial (monitorSockFile join cfg)]) (.createTemp "qemu-screenshot-*.png") with
    | error e => simp
    | ok name =>
      dsimp only
      rw [Exec.bind_ok (Exec.invoke_apply host _ _), Exec.bind_ok (Exec.invoke_apply host _ _),
        Exec.bind_apply]
      simp only [List.append_assoc, List.cons_append, List.nil_append]
      rcases sendCommand host _ _ with ⟨_ | ⟨⟩, t⟩ <;> rfl

theorem ScreenshotRun.screenshot_eq {cfg : MachineConfig} {tr calls : List Call}
    {r : Except GoError String} (hs : ScreenshotRun host (monitorSockFile join cfg) tr calls r) :
    screenshot host join cfg tr = (r, tr ++ calls) := by
  rw [screenshot_apply]
  cases hs with
  | dialFailed hd => rw [hd]
  | tempFailed hd ht => rw [hd, ht]
  | exchanged hd ht hx => rw [hd, ht]; simp [hx.sendCommand_eq]

/-- Whatever the host answers, `Screenshot` after the calls `tr` makes `calls` and returns `r`
exactly when `ScreenshotRun` gives that run for the host's replies: a connection it opens it
closes last, it writes nothing until `CreateTemp` has named a file, which it has closed and
removed by then, and the only line it writes is the `screendump` of that name, which it returns
when the exchange succeeds. -/
theorem screenshot_run (cfg : MachineConfig) (tr calls : List Call) (r : Except GoError String) :
    screenshot host join cfg tr = (r, tr ++ calls) ↔
      ScreenshotRun host (monitorSockFile join cfg) tr calls r := by
  refine Exec.apply_eq_iff ?_ (fun _ _ hs => hs.screenshot_eq host join) calls r
  rw [screenshot_apply]
  split
  · next hd => exact ⟨_, rfl, .dialFailed hd⟩
  · next hd =>
    split
    · next ht => exact ⟨_, by simp, .tempFailed hd ht⟩
    · next name ht =>
      obtain ⟨calls, hcalls, hx⟩ := sendCommand_exchange host _ _
      exact ⟨_, by simp [hcalls], .exchanged hd ht hx⟩

example :
    screenshot { Host.succeeding with reply := fun tr c => match c with
        | .createTemp _ => .ok "/tmp/qemu-screenshot-4711.png"
        | c => Host.succeeding.reply tr c }
      (fun dir file => dir ++ "/" ++ file) { (default : MachineConfig) with stateDir := "/tmp/vm" } [] =
    (.ok "/tmp/qemu-screenshot-4711.png",
      [.dial "/tmp/vm/qemu-monitor.sock", .createTemp "qemu-screenshot-*.png",
        .closeFile "/tmp/qemu-screenshot-4711.png", .remove "/tmp/qemu-screenshot-4711.png",
        .write "screendump /tmp/qemu-screenshot-4711.png\r\n", .setReadDeadline, .read, .close]) := rfl

end Peg.Monitor
