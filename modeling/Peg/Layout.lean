import Peg.Decimal
import Peg.Drives

namespace Peg.Layout

open Peg.Config Peg.QemuOpts Peg.Drives Peg.Decimal

theorem comma_not_mem_driveID (j : Nat) : ',' ∉ (driveID j).data := by
  simpa [driveID] using comma_not_mem_repr j

theorem splitFields_diskDriveOpts (j : Nat) (d : String) :
    splitFields (diskDriveOpts (driveID j) d).data =
      "if=none".data :: ("id=" ++ driveID j).data :: splitFields ("file=" ++ d).data := by
  have h : (diskDriveOpts (driveID j) d).data =
      "if=none".data ++ ',' :: (("id=" ++ driveID j).data ++ ',' :: ("file=" ++ d).data) := by
    simp only [diskDriveOpts, String.data_append, List.append_assoc]; rfl
  rw [h, splitFields_append_comma (by decide) (by exact head?_ne_comma (by decide) _),
    splitFields_append_comma (by simpa using comma_not_mem_driveID j) (by exact head?_ne_comma (by decide) _)]

theorem splitFields_cdromDriveOpts (j : Nat) (file : String) :
    splitFields (cdromDriveOpts (driveID j) file).data =
      "if=none".data :: ("id=" ++ driveID j).data :: "media=cdrom".data ::
        splitFields ("file=" ++ file).data := by
  have h : (cdromDriveOpts (driveID j) file).data =
      "if=none".data ++ ',' :: (("id=" ++ driveID j).data ++ ',' :: ("media=cdrom".data ++
        ',' :: ("file=" ++ file).data)) := by
    simp only [cdromDriveOpts, String.data_append, List.append_assoc]; rfl
  rw [h, splitFields_append_comma (by decide) (by exact head?_ne_comma (by decide) _),
    splitFields_append_comma (by simpa using comma_not_mem_driveID j) (by exact head?_ne_comma (by decide) _),
    splitFields_append_comma (by decide) (by exact head?_ne_comma (by decide) _)]

theorem splitFields_diskDeviceOpts (j b : Nat) :
    splitFields (diskDeviceOpts (driveID j) b).data =
      ["virtio-blk-pci".data, ("drive=" ++ driveID j).data, ("bootindex=" ++ Nat.repr b).data] := by
  have h : (diskDeviceOpts (driveID j) b).data =
      "virtio-blk-pci".data ++ ',' :: (("drive=" ++ driveID j).data ++ ',' ::
        ("bootindex=" ++ Nat.repr b).data) := by
    simp only [diskDeviceOpts, String.data_append, List.append_assoc]; rfl
  rw [h, splitFields_append_comma (by decide) (by exact head?_ne_comma (by decide) _),
    splitFields_append_comma (by simpa using comma_not_mem_driveID j) (by exact head?_ne_comma (by decide) _),
    splitFields_of_comma_not_mem (by simpa using comma_not_mem_repr b)]

theorem splitFields_cdromDeviceOpts (j b : Nat) :
    splitFields (cdromDeviceOpts (driveID j) b).data =
      ["scsi-cd".data, ("drive=" ++ driveID j).data, "bus=scsi0.0".data,
        ("bootindex=" ++ Nat.repr b).data] := by
  have h : (cdromDeviceOpts (driveID j) b).data =
      "scsi-cd".data ++ ',' :: (("drive=" ++ driveID j).data ++ ',' :: ("bus=scsi0.0".data ++
        ',' :: ("bootindex=" ++ Nat.repr b).data)) := by
    simp only [cdromDeviceOpts, String.data_append, List.append_assoc]; rfl
  rw [h, splitFields_append_comma (by decide) (by exact head?_ne_comma (by decide) _),
    splitFields_append_comma (by simpa using comma_not_mem_driveID j) (by exact head?_ne_comma (by decide) _),
    splitFields_append_comma (by decide) (by exact head?_ne_comma (by decide) _),
    splitFields_of_comma_not_mem (by simpa using comma_not_mem_repr b)]

theorem splitFields_scsiController :
    splitFields scsiController.2.data = ["virtio-scsi-pci".data, "id=scsi0".data] := by decide

theorem findOpt_field {key : List Char} {s : String} (hs : s.data = key ++ ['=']) (v : String)
    (fs : List (List Char)) : findOpt key ((s ++ v).data :: fs) = some v.data := by
  simpa [hs] using findOpt_cons_key key v.data fs

theorem lookupOpt_id_driveOpts (j : Nat) (dd : DriveDescriptor) :
    lookupOpt "id" (dd.driveOpts (driveID j)) = some (driveID j) := by
  cases h : dd.media <;> simp only [lookupOpt, DriveDescriptor.driveOpts, h]
  · rw [splitFields_diskDriveOpts, findOpt_cons_other (by decide), findOpt_field (by rfl)]; rfl
  · rw [splitFields_cdromDriveOpts, findOpt_cons_other (by decide), findOpt_field (by rfl)]; rfl

theorem lookupOpt_drive_deviceOpts (j : Nat) (dd : DriveDescriptor) :
    lookupOpt "drive" (dd.deviceOpts (driveID j)) = some (driveID j) := by
  cases h : dd.media <;> simp only [lookupOpt, DriveDescriptor.deviceOpts, h]
  · rw [splitFields_diskDeviceOpts, findOpt_cons_other (by decide), findOpt_field (by rfl)]; rfl
  · rw [splitFields_cdromDeviceOpts, findOpt_cons_other (by decide), findOpt_field (by rfl)]; rfl

theorem lookupOpt_bootindex_deviceOpts (j : Nat) (dd : DriveDescriptor) :
    lookupOpt "bootindex" (dd.deviceOpts (driveID j)) = some (Nat.repr dd.bootindex) := by
  cases h : dd.media <;> simp only [lookupOpt, DriveDescriptor.deviceOpts, h]
  · rw [splitFields_diskDeviceOpts, findOpt_cons_other (by decide),
      findOpt_cons_of_head_ne (by rfl) (by rfl) (by decide), findOpt_field (by rfl)]; rfl
  · rw [splitFields_cdromDeviceOpts, findOpt_cons_other (by decide),
      findOpt_cons_of_head_ne (by rfl) (by rfl) (by decide), findOpt_cons_other (by decide), findOpt_field (by rfl)]; rfl

theorem head_splitFields_deviceOpts (j : Nat) (dd : DriveDescriptor) :
    (splitFields (dd.deviceOpts (driveID j)).data).head? =
      some (match dd.media with | .disk => "virtio-blk-pci".data | .cdrom => "scsi-cd".data) := by
  cases h : dd.media <;>
    simp only [DriveDescriptor.deviceOpts, h, splitFields_diskDeviceOpts, splitFields_cdromDeviceOpts,
      List.head?_cons]

theorem deviceOpts_ne_scsiController (j : Nat) (dd : DriveDescriptor) :
    dd.deviceOpts (driveID j) ≠ scsiController.2 := fun h => by
  have := head_splitFields_deviceOpts j dd
  rw [h, splitFields_scsiController] at this
  cases hm : dd.media <;> simp [hm] at this

def driveEntries (ps : List (String × String)) : List String :=
  ps.filterMap fun p => if p.1 = "-drive" then some p.2 else none

def driveIds (ps : List (String × String)) : List String :=
  ps.filterMap fun p => if p.1 = "-drive" then lookupOpt "id" p.2 else none

def deviceDrives (ps : List (String × String)) : List String :=
  ps.filterMap fun p => if p.1 = "-device" then lookupOpt "drive" p.2 else none

/-- The boot priorities the `-device` options carry, as QEMU reads the numbers. -/
def bootindexes (ps : List (String × String)) : List Nat :=
  ps.filterMap fun p =>
    if p.1 = "-device" then (lookupOpt "bootindex" p.2).map (digitsValue 0 ·.data) else none

theorem filterMap_render {α : Type} (sel : String × String → Option α) (g : Nat → DriveDescriptor → α)
    (hctrl : sel scsiController = none)
    (hdesc : ∀ j dd, (descriptorPairs (driveID j) dd).filterMap sel = [g j dd])
    (k : Nat) (added : Bool) (dds : List DriveDescriptor) :
    (render k added dds).filterMap sel = (dds.enumFrom k).map (fun p => g p.1 p.2) := by
  induction dds generalizing k added with
  | nil => rfl
  | cons dd dds ih =>
    simp only [render, List.filterMap_append, hdesc, ih, List.enumFrom_cons, List.map_cons]
    split <;> simp [hctrl]

theorem driveEntries_render (k : Nat) (added : Bool) (dds : List DriveDescriptor) :
    driveEntries (render k added dds) = (dds.enumFrom k).map (fun p => p.2.driveOpts (driveID p.1)) :=
  filterMap_render _ (fun j dd => dd.driveOpts (driveID j)) rfl (fun _ _ => by simp [descriptorPairs])
    k added dds

theorem driveIds_render (k : Nat) (added : Bool) (dds : List DriveDescriptor) :
    driveIds (render k added dds) = (dds.enumFrom k).map (fun p => driveID p.1) :=
  filterMap_render _ (fun j _ => driveID j) rfl
    (fun j dd => by simp [descriptorPairs, lookupOpt_id_driveOpts]) k added dds

theorem deviceDrives_render (k : Nat) (added : Bool) (dds : List DriveDescriptor) :
    deviceDrives (render k added dds) = (dds.enumFrom k).map (fun p => driveID p.1) :=
  filterMap_render _ (fun j _ => driveID j) (by decide)
    (fun j dd => by simp [descriptorPairs, lookupOpt_drive_deviceOpts]) k added dds

theorem bootindexes_render (k : Nat) (added : Bool) (dds : List DriveDescriptor) :
    bootindexes (render k added dds) = (dds.enumFrom k).map (fun p => p.2.bootindex) :=
  filterMap_render _ (fun _ dd => dd.bootindex) (by decide)
    (fun j dd => by simp [descriptorPairs, lookupOpt_bootindex_deviceOpts, digitsValue_repr]) k added dds

/-- Every `-drive` is immediately followed by a `-device` that attaches it. -/
def DrivesAttached (ps : List (String × String)) : Prop :=
  ∀ j v, ps[j]? = some ("-drive", v) →
    ∃ w, ps[j + 1]? = some ("-device", w) ∧ lookupOpt "drive" w = lookupOpt "id" v

def OnSCSIBus (w : String) : Prop :=
  (decodeOpts w).head? = some "scsi-cd" ∧ lookupOpt "bus" w = some "scsi0.0"

/-- Every device on the SCSI bus comes after the controller. -/
def ControllerFirst (ps : List (String × String)) : Prop :=
  ∀ j w, ps[j]? = some ("-device", w) → OnSCSIBus w → scsiController ∈ ps.take j

theorem drivesAttached_cons {x : String × String} {ps : List (String × String)}
    (hx : x.1 ≠ "-drive") (h : DrivesAttached ps) : DrivesAttached (x :: ps) := by
  rintro (_ | j) v hj
  · simp only [List.getElem?_cons_zero, Option.some.injEq] at hj
    exact absurd (congrArg Prod.fst hj) hx
  · simpa using h j v (by simpa using hj)

theorem drivesAttached_pair {v w : String} {ps : List (String × String)}
    (hvw : lookupOpt "drive" w = lookupOpt "id" v) (h : DrivesAttached ps) :
    DrivesAttached (("-drive", v) :: ("-device", w) :: ps) := by
  rintro (_ | _ | j) v' hj
  · simp only [List.getElem?_cons_zero, Option.some.injEq, Prod.mk.injEq, true_and] at hj
    exact ⟨w, by simp, hj ▸ hvw⟩
  · simp at hj
  · simpa using h j v' (by simpa using hj)

theorem drivesAttached_render (k : Nat) (added : Bool) (dds : List DriveDescriptor) :
    DrivesAttached (render k added dds) := by
  induction dds generalizing k added with
  | nil => intro j v hj; simp [render] at hj
  | cons dd dds ih =>
    have hp : DrivesAttached (descriptorPairs (driveID k) dd ++ render (k + 1) (added || dd.media.onSCSI) dds) :=
      drivesAttached_pair (by rw [lookupOpt_drive_deviceOpts, lookupOpt_id_driveOpts]) (ih _ _)
    simp only [render]
    split
    · exact drivesAttached_cons (by decide) hp
    · exact hp

def ControllerFirstFrom (added : Bool) (ps : List (String × String)) : Prop :=
  ∀ j w, ps[j]? = some ("-device", w) → OnSCSIBus w → added = true ∨ scsiController ∈ ps.take j

theorem controllerFirstFrom_cons {added : Bool} {x : String × String} {ps : List (String × String)}
    (hx : ∀ w, x = ("-device", w) → ¬ OnSCSIBus w) (h : ControllerFirstFrom added ps) :
    ControllerFirstFrom added (x :: ps) := by
  rintro (_ | j) w hj hw
  · simp only [List.getElem?_cons_zero, Option.some.injEq] at hj
    exact absurd hw (hx w hj)
  · rcases h j w (by simpa using hj) hw with h | h
    · exact .inl h
    · exact .inr (by simp [h])

theorem not_onSCSIBus_of_head {w : String} {h : List Char} (hw : (splitFields w.data).head? = some h)
    (hne : h ≠ "scsi-cd".data) : ¬ OnSCSIBus w := fun hs => by
  simp only [OnSCSIBus, decodeOpts, List.head?_map, hw, Option.map_some', Option.some.injEq] at hs
  exact hne (congrArg String.data hs.1)

theorem controllerFirstFrom_scsiController (added : Bool) (ps : List (String × String)) :
    ControllerFirstFrom added (scsiController :: ps) := by
  rintro (_ | j) w hj hw
  · simp only [List.getElem?_cons_zero, Option.some.injEq] at hj
    obtain rfl : scsiController.2 = w := congrArg Prod.snd hj
    exact absurd hw (not_onSCSIBus_of_head (by rw [splitFields_scsiController]; rfl) (by decide))
  · exact .inr (by simp)

theorem controllerFirstFrom_render (k : Nat) (added : Bool) (dds : List DriveDescriptor) :
    ControllerFirstFrom added (render k added dds) := by
  induction dds generalizing k added with
  | nil => intro j w hj; simp [render] at hj
  | cons dd dds ih =>
    cases hm : dd.media with
    | disk =>
      have hr : render k added (dd :: dds) = ("-drive", dd.driveOpts (driveID k)) ::
          ("-device", dd.deviceOpts (driveID k)) :: render (k + 1) added dds := by
        simp [render, hm, descriptorPairs]
      have hdev : ∀ w, ("-device", dd.deviceOpts (driveID k)) = ("-device", w) → ¬ OnSCSIBus w := by
        rintro w ⟨⟩
        exact not_onSCSIBus_of_head (head_splitFields_deviceOpts k dd) (by simp [hm])
      rw [hr]
      exact controllerFirstFrom_cons (by simp) (controllerFirstFrom_cons hdev (ih _ _))
    | cdrom =>
      cases added with
      | true => exact fun _ _ _ _ => .inl rfl
      | false =>
        have hr : render k false (dd :: dds) = scsiController ::
            (descriptorPairs (driveID k) dd ++ render (k + 1) true dds) := by
          simp [render, hm]
        rw [hr]
        exact controllerFirstFrom_scsiController _ _

theorem count_scsiController_render (k : Nat) (added : Bool) (dds : List DriveDescriptor) :
    (render k added dds).count scsiController =
      if !added && dds.any (·.media.onSCSI) then 1 else 0 := by
  induction dds generalizing k added with
  | nil => simp [render]
  | cons dd dds ih =>
    have hd : (descriptorPairs (driveID k) dd).count scsiController = 0 := by
      simp [descriptorPairs, scsiController, List.count_cons]
      exact deviceOpts_ne_scsiController k dd
    simp only [render, List.count_append, hd, ih, List.any_cons]
    rcases Bool.eq_false_or_eq_true dd.media.onSCSI with h1 | h1 <;>
      rcases Bool.eq_false_or_eq_true (dds.any (·.media.onSCSI)) with h2 | h2 <;>
      cases added <;> simp [h1, h2]

theorem flag_of_mem_render {k : Nat} {added : Bool} {dds : List DriveDescriptor}
    {p : String × String} (hp : p ∈ render k added dds) : p.1 = "-drive" ∨ p.1 = "-device" := by
  induction dds generalizing k added with
  | nil => simp [render] at hp
  | cons dd dds ih =>
    simp only [render, List.mem_append] at hp
    rcases hp with (hp | hp) | hp
    · split at hp <;> simp_all [scsiController]
    · simp only [descriptorPairs, List.mem_cons, List.mem_singleton, List.not_mem_nil, or_false] at hp
      rcases hp with hp | hp <;> simp [hp]
    · exact ih hp

end Peg.Layout
