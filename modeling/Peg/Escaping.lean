import Peg.Layout
import Peg.Qemu

namespace Peg.Escaping

open Peg.Config Peg.QemuOpts Peg.Drives Peg.Layout Peg.Qemu

theorem decodeOpts_eq_iff (s : String) (fs : List String) :
    decodeOpts s = fs ↔ splitFields s.data = fs.map String.data := by
  have hinj : Function.Injective (List.map String.mk) :=
    List.map_injective_iff.mpr fun _ _ h => congrArg String.data h
  have hinv : (fs.map String.data).map String.mk = fs := (List.map_map _ _ _).trans (List.map_id fs)
  rw [decodeOpts, ← hinj.eq_iff, hinv]

theorem decodeOpts_diskDriveOpts_iff (k : Nat) (d : String) :
    decodeOpts (diskDriveOpts (driveID k) d) = ["if=none", "id=" ++ driveID k, "file=" ++ d] ↔
      ',' ∉ d.data := by
  rw [decodeOpts_eq_iff, splitFields_diskDriveOpts]
  simp [splitFields_eq_singleton_iff]

theorem decodeOpts_cdromDriveOpts_iff (k : Nat) (file : String) :
    decodeOpts (cdromDriveOpts (driveID k) file) =
        ["if=none", "id=" ++ driveID k, "media=cdrom", "file=" ++ file] ↔ ',' ∉ file.data := by
  rw [decodeOpts_eq_iff, splitFields_cdromDriveOpts]
  simp [splitFields_eq_singleton_iff]

theorem decodeOpts_monitorOpts_iff (sock : String) :
    decodeOpts (monitorOpts sock) = ["unix:" ++ sock, "server", "nowait"] ↔ ',' ∉ sock.data := by
  have hs : (monitorOpts sock).data = ("unix:" ++ sock).data ++ ',' :: ("server".data ++ ',' :: "nowait".data) := by
    simp only [monitorOpts, String.data_append, List.append_assoc]; rfl
  rw [decodeOpts_eq_iff, hs]
  constructor
  · intro h
    have := joinFields_splitFields (("unix:" ++ sock).data ++ ',' :: ("server".data ++ ',' :: "nowait".data))
    rw [h] at this
    have hlit : joinFields ["server".data, "nowait".data] = "server".data ++ ',' :: "nowait".data := by
      decide
    rw [List.map_cons, List.map_cons, List.map_cons, List.map_nil, joinFields_cons_cons, hlit] at this
    have he := (escape_eq_self_iff _).mp (List.append_cancel_right this)
    simpa using he
  · intro h
    rw [splitFields_append_comma (by simpa using h) (by exact head?_ne_comma (by decide) _),
      splitFields_append_comma (by decide) (by exact head?_ne_comma (by decide) _),
      splitFields_of_comma_not_mem (by decide)]
    rfl

/-- The option strings `Create` builds read back as the fields it meant, with the path whole in
its own field, exactly when that path holds no comma: nothing doubles the commas. -/
theorem createOpts_decode_iff (join : String → String → String) (cfg : MachineConfig) (k : Nat)
    (d file : String) :
    (decodeOpts (diskDriveOpts (driveID k) d) = ["if=none", "id=" ++ driveID k, "file=" ++ d] ↔
        ',' ∉ d.data) ∧
      (decodeOpts (cdromDriveOpts (driveID k) file) =
          ["if=none", "id=" ++ driveID k, "media=cdrom", "file=" ++ file] ↔ ',' ∉ file.data) ∧
      (decodeOpts (monitorOpts (monitorSockFile join cfg)) =
          ["unix:" ++ monitorSockFile join cfg, "server", "nowait"] ↔
        ',' ∉ (monitorSockFile join cfg).data) :=
  ⟨decodeOpts_diskDriveOpts_iff k d, decodeOpts_cdromDriveOpts_iff k file,
    decodeOpts_monitorOpts_iff _⟩

theorem diskDriveOpts_comma_injects_id :
    decodeOpts (diskDriveOpts (driveID 0) "/tmp/a,id=b.img") =
        ["if=none", "id=drv0", "file=/tmp/a", "id=b.img"] ∧
      decodeOpts (diskDriveOpts (driveID 0) "/tmp/a,id=b.img") ≠
        ["if=none", "id=" ++ driveID 0, "file=" ++ "/tmp/a,id=b.img"] := by
  decide

end Peg.Escaping
