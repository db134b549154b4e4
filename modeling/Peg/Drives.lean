import Peg.Config
import Peg.QemuOpts

namespace Peg.Drives

open Peg.Config Peg.QemuOpts

def driveID (id : Nat) : String := "drv" ++ Nat.repr id

def diskDriveOpts (driveID d : String) : String := "if=none,id=" ++ driveID ++ ",file=" ++ d

def diskDeviceOpts (driveID : String) (bootindex : Nat) : String :=
  "virtio-blk-pci,drive=" ++ driveID ++ ",bootindex=" ++ Nat.repr bootindex

def cdromDriveOpts (driveID file : String) : String :=
  "if=none,id=" ++ driveID ++ ",media=cdrom,file=" ++ file

def cdromDeviceOpts (driveID : String) (bootindex : Nat) : String :=
  "scsi-cd,drive=" ++ driveID ++ ",bus=scsi0.0,bootindex=" ++ Nat.repr bootindex

structure GenState where
  allDrives : List String
  scsiAdded : Bool
  id : Nat

def userDriveStep (i : Nat) (d : String) (s : GenState) : GenState :=
  { s with
    allDrives := s.allDrives ++
      ["-drive", diskDriveOpts (driveID s.id) d, "-device", diskDeviceOpts (driveID s.id) (i + 1)]
    id := s.id + 1 }

def userDrivesLoop : Nat → List String → GenState → GenState
  | _, [], s => s
  | i, d :: ds, s => userDrivesLoop (i + 1) ds (userDriveStep i d s)

def addSCSIIfNeeded (s : GenState) : GenState :=
  if !s.scsiAdded then
    { s with allDrives := s.allDrives ++ ["-device", "virtio-scsi-pci,id=scsi0"], scsiAdded := true }
  else s

def mediaBlock (file : String) (bootindex : Nat) (s : GenState) : GenState :=
  let s := addSCSIIfNeeded s
  { s with
    allDrives := s.allDrives ++
      ["-drive", cdromDriveOpts (driveID s.id) file, "-device", cdromDeviceOpts (driveID s.id) bootindex]
    id := s.id + 1 }

def genDrives (userDrives : List String) (m : MachineConfig) : List String :=
  let s := userDrivesLoop 0 userDrives ⟨[], false, 0⟩
  let s := if m.iso ≠ "" then mediaBlock m.iso 50 s else s
  let s := if m.dataSource ≠ "" then mediaBlock m.dataSource 60 s else s
  s.allDrives

inductive Media
  | disk
  | cdrom
  deriving DecidableEq, Repr

def Media.onSCSI : Media → Bool
  | .disk => false
  | .cdrom => true

@[simp] theorem Media.onSCSI_disk : Media.disk.onSCSI = false := rfl

@[simp] theorem Media.onSCSI_cdrom : Media.cdrom.onSCSI = true := rfl

/-- A drive descriptor of the spec: backing file, medium and boot priority. A disk hangs on
its own virtio-blk device, a CD on the shared SCSI controller; the block-device id is the
descriptor's position. -/
structure DriveDescriptor where
  file : String
  media : Media
  bootindex : Nat
  deriving DecidableEq, Repr

def userDescriptors : Nat → List String → List DriveDescriptor
  | _, [] => []
  | i, d :: ds => ⟨d, .disk, i + 1⟩ :: userDescriptors (i + 1) ds

def layout (userDrives : List String) (m : MachineConfig) : List DriveDescriptor :=
  userDescriptors 0 userDrives ++ (if m.iso ≠ "" then [⟨m.iso, .cdrom, 50⟩] else []) ++
    (if m.dataSource ≠ "" then [⟨m.dataSource, .cdrom, 60⟩] else [])

def scsiController : String × String := ("-device", "virtio-scsi-pci,id=scsi0")

def DriveDescriptor.driveOpts (dd : DriveDescriptor) (driveID : String) : String :=
  match dd.media with
  | .disk => diskDriveOpts driveID dd.file
  | .cdrom => cdromDriveOpts driveID dd.file

def DriveDescriptor.deviceOpts (dd : DriveDescriptor) (driveID : String) : String :=
  match dd.media with
  | .disk => diskDeviceOpts driveID dd.bootindex
  | .cdrom => cdromDeviceOpts driveID dd.bootindex

def descriptorPairs (driveID : String) (dd : DriveDescriptor) : List (String × String) :=
  [("-drive", dd.driveOpts driveID), ("-device", dd.deviceOpts driveID)]

def render : Nat → Bool → List DriveDescriptor → List (String × String)
  | _, _, [] => []
  | k, added, dd :: dds =>
    (if dd.media.onSCSI && !added then [scsiController] else []) ++ descriptorPairs (driveID k) dd ++
      render (k + 1) (added || dd.media.onSCSI) dds

theorem render_append (k : Nat) (added : Bool) (xs ys : List DriveDescriptor) :
    render k added (xs ++ ys) =
      render k added xs ++ render (k + xs.length) (added || xs.any (·.media.onSCSI)) ys := by
  induction xs generalizing k added with
  | nil => simp [render]
  | cons x xs ih =>
    rw [List.cons_append, render, ih, render]
    simp only [List.append_assoc, List.length_cons, List.any_cons, Bool.or_assoc, Nat.add_assoc,
      Nat.add_comm 1]

theorem render_singleton (k : Nat) (added : Bool) (dd : DriveDescriptor) :
    render k added [dd] =
      (if dd.media.onSCSI && !added then [scsiController] else []) ++ descriptorPairs (driveID k) dd := by
  simp [render]

theorem addSCSIIfNeeded_allDrives (s : GenState) :
    (addSCSIIfNeeded s).allDrives =
      s.allDrives ++ joinPairs (if s.scsiAdded then [] else [scsiController]) := by
  cases h : s.scsiAdded <;> simp [addSCSIIfNeeded, h, scsiController]

@[simp] theorem addSCSIIfNeeded_scsiAdded (s : GenState) : (addSCSIIfNeeded s).scsiAdded = true := by
  cases h : s.scsiAdded <;> simp [addSCSIIfNeeded, h]

@[simp] theorem addSCSIIfNeeded_id (s : GenState) : (addSCSIIfNeeded s).id = s.id := by
  cases h : s.scsiAdded <;> simp [addSCSIIfNeeded, h]

/-- The simulation relation: the closure's state after it has emitted the descriptors `dds`. -/
def Emitted (dds : List DriveDescriptor) (s : GenState) : Prop :=
  s.allDrives = joinPairs (render 0 false dds) ∧ s.id = dds.length ∧
    s.scsiAdded = dds.any (·.media.onSCSI)

theorem emitted_nil : Emitted [] ⟨[], false, 0⟩ := ⟨rfl, rfl, rfl⟩

theorem emitted_userDriveStep {dds : List DriveDescriptor} {s : GenState} (h : Emitted dds s)
    (i : Nat) (d : String) : Emitted (dds ++ [⟨d, .disk, i + 1⟩]) (userDriveStep i d s) := by
  obtain ⟨ha, hid, hscsi⟩ := h
  refine ⟨?_, by simp [userDriveStep, hid], by simp [userDriveStep, hscsi]⟩
  simp [userDriveStep, render_append, render_singleton, ha, hid, descriptorPairs,
    DriveDescriptor.driveOpts, DriveDescriptor.deviceOpts]

theorem emitted_mediaBlock {dds : List DriveDescriptor} {s : GenState} (h : Emitted dds s)
    (file : String) (bootindex : Nat) :
    Emitted (dds ++ [⟨file, .cdrom, bootindex⟩]) (mediaBlock file bootindex s) := by
  obtain ⟨ha, hid, hscsi⟩ := h
  refine ⟨?_, by simp [mediaBlock, hid], by simp [mediaBlock]⟩
  simp only [mediaBlock, addSCSIIfNeeded_allDrives, addSCSIIfNeeded_id, render_append,
    render_singleton, hscsi, ha, hid]
  cases dds.any (·.media.onSCSI) <;>
    simp [descriptorPairs, DriveDescriptor.driveOpts, DriveDescriptor.deviceOpts]

theorem emitted_mediaBlock_if {dds : List DriveDescriptor} {s : GenState} (h : Emitted dds s)
    (c : Prop) [Decidable c] (file : String) (bootindex : Nat) :
    Emitted (dds ++ if c then [⟨file, .cdrom, bootindex⟩] else [])
      (if c then mediaBlock file bootindex s else s) := by
  split
  · exact emitted_mediaBlock h file bootindex
  · simpa using h

theorem emitted_userDrivesLoop {dds : List DriveDescriptor} {s : GenState} (h : Emitted dds s)
    (i : Nat) (ds : List String) :
    Emitted (dds ++ userDescriptors i ds) (userDrivesLoop i ds s) := by
  induction ds generalizing i dds s with
  | nil => simpa [userDescriptors, userDrivesLoop] using h
  | cons d ds ih =>
    simpa [userDescriptors, userDrivesLoop] using ih (emitted_userDriveStep h i d) (i + 1)

/-- The closure, with its flag and shared counter, emits exactly the rendering of the spec's
descriptor list. -/
theorem genDrives_eq_render (userDrives : List String) (m : MachineConfig) :
    genDrives userDrives m = joinPairs (render 0 false (layout userDrives m)) := by
  have hu := emitted_userDrivesLoop emitted_nil 0 userDrives
  rw [List.nil_append] at hu
  exact (emitted_mediaBlock_if (emitted_mediaBlock_if hu _ _ _) _ _ _).1

end Peg.Drives
