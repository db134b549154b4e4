import Mathlib.Data.List.Nodup
import Peg.Layout

namespace Peg.BootOrder

open Peg.Config Peg.QemuOpts Peg.Decimal Peg.Drives Peg.Layout

theorem driveID_injective : Function.Injective driveID := fun _ _ h =>
  repr_injective (String.ext (List.append_cancel_left (congrArg String.data h)))

theorem map_enumFrom_snd {α β : Type} (f : α → β) (k : Nat) (l : List α) :
    (l.enumFrom k).map (fun p => f p.2) = l.map f := by
  rw [show (fun p : Nat × α => f p.2) = f ∘ Prod.snd from rfl, ← List.map_map, List.enumFrom_map_snd]

theorem map_enumFrom_fst {α β : Type} (f : Nat → β) (l : List α) :
    (l.enumFrom 0).map (fun p => f p.1) = (List.range l.length).map f := by
  rw [show (fun p : Nat × α => f p.1) = f ∘ Prod.fst from rfl, ← List.map_map, List.enumFrom_map_fst,
    List.range_eq_range']

theorem bootindexes_userDescriptors (i : Nat) (ds : List String) :
    (userDescriptors i ds).map (·.bootindex) = List.range' (i + 1) ds.length := by
  induction ds generalizing i with
  | nil => rfl
  | cons d ds ih => simp [userDescriptors, ih, List.range'_succ]

theorem files_userDescriptors (i : Nat) (ds : List String) :
    (userDescriptors i ds).map (·.file) = ds := by
  induction ds generalizing i with
  | nil => rfl
  | cons d ds ih => simp [userDescriptors, ih]

theorem length_userDescriptors (i : Nat) (ds : List String) :
    (userDescriptors i ds).length = ds.length := by
  simpa using congrArg List.length (files_userDescriptors i ds)

theorem any_onSCSI_userDescriptors (i : Nat) (ds : List String) :
    (userDescriptors i ds).any (·.media.onSCSI) = false := by
  induction ds generalizing i with
  | nil => rfl
  | cons d ds ih => simp [userDescriptors, ih]

theorem files_layout (userDrives : List String) (m : MachineConfig) :
    (layout userDrives m).map (·.file) = userDrives ++ (if m.iso ≠ "" then [m.iso] else []) ++
      (if m.dataSource ≠ "" then [m.dataSource] else []) := by
  simp only [layout, List.map_append, files_userDescriptors]
  split <;> split <;> rfl

theorem bootindexes_layout (userDrives : List String) (m : MachineConfig) :
    (layout userDrives m).map (·.bootindex) = (List.range userDrives.length).map (· + 1) ++
      (if m.iso ≠ "" then [50] else []) ++ (if m.dataSource ≠ "" then [60] else []) := by
  simp only [layout, List.map_append, bootindexes_userDescriptors, List.range'_eq_map_range,
    Nat.add_comm 1]
  split <;> split <;> rfl

theorem any_onSCSI_layout (userDrives : List String) (m : MachineConfig) :
    (layout userDrives m).any (·.media.onSCSI) = decide (m.iso ≠ "" ∨ m.dataSource ≠ "") := by
  simp only [layout, List.any_append, any_onSCSI_userDescriptors]
  split <;> split <;> simp_all

theorem bootindexes_genDrives_eq (userDrives : List String) (m : MachineConfig) :
    bootindexes (pairs (genDrives userDrives m)) = (List.range userDrives.length).map (· + 1) ++
      (if m.iso ≠ "" then [50] else []) ++ (if m.dataSource ≠ "" then [60] else []) := by
  rw [genDrives_eq_render, pairs_joinPairs, bootindexes_render, map_enumFrom_snd, bootindexes_layout]

theorem nodup_bootOrder (n : Nat) (iso dataSource : String) :
    ((List.range n).map (· + 1) ++ (if iso ≠ "" then [50] else []) ++
        (if dataSource ≠ "" then [60] else [])).Nodup ↔
      (iso = "" ∨ n < 50) ∧ (dataSource = "" ∨ n < 60) := by
  have hr : ((List.range n).map (· + 1)).Nodup := 
    List.Nodup.map (fun _ _ => Nat.succ.inj) (List.nodup_range n)
  by_cases hi : iso = "" <;> by_cases hd : dataSource = "" <;>
    simp [hi, hd, hr, List.nodup_append, List.disjoint_singleton] <;> omega

theorem pairs_genDrives (userDrives : List String) (m : MachineConfig) :
    pairs (genDrives userDrives m) = render 0 false (layout userDrives m) := by
  rw [genDrives_eq_render, pairs_joinPairs]

theorem render_userDescriptors (k : Nat) (ds : List String) :
    render k false (userDescriptors k ds) = (ds.enumFrom k).flatMap fun p =>
      [("-drive", diskDriveOpts (driveID p.1) p.2), ("-device", diskDeviceOpts (driveID p.1) (p.1 + 1))] := by
  induction ds generalizing k with
  | nil => rfl
  | cons d ds ih =>
    simp [userDescriptors, render, ih, descriptorPairs, DriveDescriptor.driveOpts,
      DriveDescriptor.deviceOpts]

theorem userDiskPairs_lead (userDrives : List String) (m : MachineConfig) :
    (userDrives.enum.flatMap fun p => [("-drive", diskDriveOpts (driveID p.1) p.2),
      ("-device", diskDeviceOpts (driveID p.1) (p.1 + 1))]) <+: pairs (genDrives userDrives m) := by
  rw [pairs_genDrives, layout, List.append_assoc, render_append, render_userDescriptors]
  exact List.prefix_append _ _

/-- User drive `i`, in input order, is block device `drv<i>` and boots at `i + 1`; the install
medium boots at 50 and the data source at 60. The fixed media priorities stay clear of the
drives' only while there are fewer than 50 (resp. 60) user drives. -/
theorem bootindexes_genDrives (userDrives : List String) (m : MachineConfig) :
    (userDrives.enum.flatMap fun p => [("-drive", diskDriveOpts (driveID p.1) p.2),
        ("-device", diskDeviceOpts (driveID p.1) (p.1 + 1))]) <+: pairs (genDrives userDrives m) ∧
      bootindexes (pairs (genDrives userDrives m)) = (List.range userDrives.length).map (· + 1) ++
        (if m.iso ≠ "" then [50] else []) ++ (if m.dataSource ≠ "" then [60] else []) ∧
      ((bootindexes (pairs (genDrives userDrives m))).Nodup ↔
        (m.iso = "" ∨ userDrives.length < 50) ∧ (m.dataSource = "" ∨ userDrives.length < 60)) := by
  rw [bootindexes_genDrives_eq]
  exact ⟨userDiskPairs_lead userDrives m, rfl, nodup_bootOrder _ _ _⟩

theorem bootindexes_fifty_disks_collide :
    let m : MachineConfig := { (default : MachineConfig) with iso := "install.iso" }
    let ds := List.replicate 50 "disk.img"
    bootindexes (pairs (genDrives ds m)) = (List.range 50).map (· + 1) ++ [50] ∧
      ¬ (bootindexes (pairs (genDrives ds m))).Nodup :=
  have h := bootindexes_genDrives (List.replicate 50 "disk.img")
    { (default : MachineConfig) with iso := "install.iso" }
  ⟨h.2.1.trans (by decide), mt h.2.2.mp (by decide)⟩

/-- What `genDrives` emits is a list of flag/value pairs. Its `-drive`s follow the
descriptors in order (user disks, then the install medium, then the data source) with ids
`drv0`, `drv1`, ...; each is attached by the `-device` right after it and by no other; and
the SCSI controller appears once exactly when a medium is configured, ahead of every CD. -/
theorem genDrives_wellFormed (userDrives : List String) (m : MachineConfig) :
    let ps := pairs (genDrives userDrives m)
    joinPairs ps = genDrives userDrives m ∧ (∀ p ∈ ps, p.1 = "-drive" ∨ p.1 = "-device") ∧
      (layout userDrives m).map (·.file) = userDrives ++ (if m.iso ≠ "" then [m.iso] else []) ++
        (if m.dataSource ≠ "" then [m.dataSource] else []) ∧
      driveEntries ps = (layout userDrives m).enum.map (fun p => p.2.driveOpts (driveID p.1)) ∧
      driveIds ps = (List.range (layout userDrives m).length).map driveID ∧ (driveIds ps).Nodup ∧
      DrivesAttached ps ∧ (∀ x ∈ driveIds ps, (deviceDrives ps).count x = 1) ∧
      ps.count scsiController = (if m.iso ≠ "" ∨ m.dataSource ≠ "" then 1 else 0) ∧
      ControllerFirst ps := by
  intro ps
  have hps : ps = render 0 false (layout userDrives m) := pairs_genDrives userDrives m
  have hids : driveIds ps = (List.range (layout userDrives m).length).map driveID := by
    rw [hps, driveIds_render, map_enumFrom_fst]
  have hnodup : (driveIds ps).Nodup := hids ▸ (List.nodup_range _).map driveID_injective
  refine ⟨by rw [hps, ← genDrives_eq_render], fun p hp => flag_of_mem_render (hps ▸ hp),
    files_layout userDrives m, by rw [hps, driveEntries_render]; rfl, hids, hnodup,
    hps ▸ drivesAttached_render _ _ _, fun x hx => ?_, ?_, fun j w hj hw => ?_⟩
  · have hdev : deviceDrives ps = driveIds ps := by
      rw [hids, hps, deviceDrives_render, map_enumFrom_fst]
    rw [hdev]
    exact List.count_eq_one_of_mem hnodup hx
  · rw [hps, count_scsiController_render, any_onSCSI_layout]
    by_cases h : m.iso ≠ "" ∨ m.dataSource ≠ "" <;> simp [h]
  · rcases controllerFirstFrom_render 0 false _ j w (hps ▸ hj) hw with h | h
    · cases h
    · exact hps ▸ h

end Peg.BootOrder
