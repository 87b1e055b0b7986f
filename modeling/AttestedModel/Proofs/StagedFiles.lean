import AttestedModel.Proofs.Paths
import AttestedModel.Staging

/-!
# Staging all or nothing

Staging has two ends.  Either it fails and the disk is the one before, or it
succeeds, the disk differs from the one before at one location only, and the
path that is returned reads as the data (`stage_ends`).  The temporary file is
made where nothing lay, so that no trace of it remains either way.  The ways to
the two ends are taken apart once (`stage_course`).

What decides between the two ends is whether the way is `Clear`; and at every
moment in between the only difference to the disk before is the temporary file
(`stage_atomic`).
-/

namespace AttestedModel.Staging

variable {disk : Disk} {directory name : String} {data : Bytes} {faults : Faults}

/-- There is an answer only where no fault comes first. -/
theorem orFault_eq_ok_iff {α : Type} {fault : Option OsError} {answer : Except OsError α} {a : α} :
    orFault fault answer = .ok a ↔ fault = none ∧ answer = .ok a := by
  cases fault <;> simp [orFault]

/-- How staging goes: no temporary file is made; or one is made, and removed after a fault; or it is
moved onto its name. -/
inductive Course (disk : Disk) (directory name : String) (data : Bytes) (faults : Faults)
    (staged : Staged) : Prop
  | notMade (reason : String) (result : staged.result = .error (.staging reason))
      (between : ∀ moment, ¬staged.between moment) (disk_eq : staged.disk = disk)
  | removed (here : Location) (arrived : Bytes) (reason : String)
      (leads : disk.directory (.ofText directory) = .ok here) (arrived_front : arrived <+: data)
      (result : staged.result = .error (.staging reason))
      (between : staged.between = Writing disk (disk.unused here) arrived)
      (disk_eq : staged.disk = disk)
  | moved (here location : Location) (no_fault : faults = .none)
      (leads : disk.directory (.ofText directory) = .ok here)
      (made : disk.temporary directory = .ok (disk.unused here))
      (place : (disk.put (disk.unused here) (.file data)).place (disk.unused here)
        (Path.join directory name) = .ok location)
      (result : staged.result = .ok (Path.join directory name))
      (between : staged.between = Writing disk (disk.unused here) data)
      (disk_eq : staged.disk = disk.put location (.file data))

/-- Staging goes in one of the three ways, whatever goes wrong. -/
theorem stage_course (disk : Disk) (directory name : String) (data : Bytes) (faults : Faults) :
    Course disk directory name data faults (stage disk directory name data faults) := by
  obtain ⟨create, write, sync, move⟩ := faults
  unfold stage
  dsimp only
  cases hcreate : orFault create (disk.temporary directory) with
  | error e => exact .notMade _ rfl (fun _ => id) rfl
  | ok temporary =>
      obtain ⟨rfl, hmade⟩ := orFault_eq_ok_iff.mp hcreate
      obtain ⟨here, hhere, rfl, -, -⟩ := Disk.temporary_eq_ok_iff.mp hmade
      have hunused := disk.node?_unused here
      have hall := List.prefix_refl data
      dsimp only
      cases write with
      | some fault =>
          exact .removed here _ _ hhere (List.take_prefix ..) rfl rfl
            (Disk.remove_put_of_unused hunused)
      | none =>
          dsimp only
          cases sync with
          | some e =>
              exact .removed here data _ hhere hall rfl rfl (Disk.remove_put_of_unused hunused)
          | none =>
              dsimp only
              cases hmove : orFault move ((disk.put (disk.unused here) (.file data)).place
                  (disk.unused here) (Path.join directory name)) with
              | error e =>
                  exact .removed here data _ hhere hall rfl rfl (Disk.remove_put_of_unused hunused)
              | ok location =>
                  obtain ⟨rfl, hplace⟩ := orFault_eq_ok_iff.mp hmove
                  refine .moved here location rfl hhere hmade hplace rfl rfl ?_
                  dsimp only
                  rw [Disk.remove_put_of_unused hunused]

/-- The two ends of staging. -/
inductive Ends (disk : Disk) (directory name : String) (data : Bytes) (staged : Staged) : Prop
  | refused (reason : String) (result : staged.result = .error (.staging reason))
      (disk_eq : staged.disk = disk)
  | placed (location : Location) (result : staged.result = .ok (Path.join directory name))
      (disk_eq : staged.disk = disk.put location (.file data))
      (reads : staged.disk.read (Path.join directory name) = .ok data)

/-- **All or nothing.**  Staging ends in one of the two ways, whatever goes wrong. -/
theorem stage_ends (disk : Disk) (directory name : String) (data : Bytes) (faults : Faults) :
    Ends disk directory name data (stage disk directory name data faults) := by
  cases stage_course disk directory name data faults with
  | notMade reason hresult _ hdisk => exact .refused reason hresult hdisk
  | removed _ _ reason _ _ hresult _ hdisk => exact .refused reason hresult hdisk
  | moved here location _ _ _ hplace hresult _ hdisk =>
      refine .placed location hresult hdisk ?_
      rw [hdisk]
      exact Disk.read_put_of_place (disk.node?_unused here) hplace

/-- What was staged reads as the data under the path that is returned. -/
theorem read_of_stage {path : String} (h : (stage disk directory name data faults).result = .ok path) :
    path = Path.join directory name ∧
      (stage disk directory name data faults).disk.read path = .ok data := by
  cases stage_ends disk directory name data faults with
  | refused reason hrefused =>
      rw [hrefused] at h
      exact absurd h nofun
  | placed location hplaced _ hreads =>
      rw [hplaced] at h
      obtain rfl := Except.ok.inj h
      exact ⟨rfl, hreads⟩

open AttestedModel.Path (IsEntryName)

variable {here : Location}

/-- What staging takes: nothing goes wrong, the directory is there, its path and those of the two
files can be handed over, and no directory lies where the file is to lie. -/
structure Clear (disk : Disk) (directory name : String) (faults : Faults) (here : Location) :
    Prop where
  no_fault : faults = .none
  leads : disk.directory (.ofText directory) = .ok here
  no_nul : ¬Path.hasNul (Path.join directory name)
  short : ¬Path.tooLong (Path.join directory name)
  short_name : name.utf8ByteSize ≤ Path.longestName
  short_temporary : ¬Path.tooLong (Path.join (disk.fromRoot directory) (Disk.temporaryName 0))
  no_directory : disk.node? (here ++ [name]) ≠ some .directory

/-- Where the way is clear, nothing stops a file. -/
theorem stage_of_clear (hname : IsEntryName name) (h : Clear disk directory name faults here) :
    stage disk directory name data faults = {
      result := .ok (Path.join directory name)
      between := Writing disk (disk.unused here) data
      disk := disk.put (here ++ [name]) (.file data) } := by
  have hunused := disk.node?_unused here
  have htemporary : disk.temporary directory = .ok (disk.unused here) :=
    Disk.temporary_eq_ok_iff.mpr
      ⟨here, h.leads, rfl, Path.not_hasNul_of_join hname h.no_nul, h.short_temporary⟩
  obtain ⟨k, hk⟩ := disk.exists_unused_eq here
  have hplace : (disk.put (disk.unused here) (.file data)).place (disk.unused here)
      (Path.join directory name) = .ok (here ++ [name]) := by
    refine (Disk.place_join_eq_ok_iff hname).mpr ⟨here,
      (Disk.directory_put_eq_ok_iff hunused).mpr h.leads, rfl, h.no_nul, h.short, h.short_name,
      ?_, ?_⟩
    · rw [hk, List.dropLast_concat, List.isPrefixOf_iff_prefix]
      intro hprefix
      simpa using hprefix.length_le
    · by_cases hsame : here ++ [name] = disk.unused here
      · rw [hsame, Disk.node?_put_self (Disk.node?_eq_none_iff.mp hunused).1]
        simp
      · rw [Disk.node?_put_of_ne hsame]
        exact h.no_directory
  unfold stage
  simp only [h.no_fault, Faults.none, orFault, htemporary, hplace,
    Disk.remove_put_of_unused hunused]

/-- Staging ends well only where the way is clear. -/
theorem clear_of_stage (hname : IsEntryName name) {path : String}
    (h : (stage disk directory name data faults).result = .ok path) :
    ∃ here, Clear disk directory name faults here := by
  cases stage_course disk directory name data faults with
  | notMade reason hresult =>
      rw [hresult] at h
      exact absurd h nofun
  | removed _ _ reason _ _ hresult =>
      rw [hresult] at h
      exact absurd h nofun
  | moved here location hfault hhere hmade hplace =>
      have hunused := disk.node?_unused here
      obtain ⟨-, -, -, -, hlong⟩ := Disk.temporary_eq_ok_iff.mp hmade
      obtain ⟨found, hfound, rfl, hnul, hshort, hshortName, -, hnode⟩ :=
        (Disk.place_join_eq_ok_iff hname).mp hplace
      rw [Disk.directory_put_eq_ok_iff hunused, hhere] at hfound
      obtain rfl := Except.ok.inj hfound
      refine ⟨here, hfault, hhere, hnul, hshort, hshortName, hlong, ?_⟩
      by_cases hsame : here ++ [name] = disk.unused here
      · rw [hsame, hunused]
        simp
      · rwa [Disk.node?_put_of_ne hsame] at hnode

/-- A file is placed where the way is clear, and refused where it is not. -/
theorem placed_or_refused (disk : Disk) (directory name : String) (data : Bytes) (faults : Faults)
    (hname : IsEntryName name) :
    let staged := stage disk directory name data faults
    (∃ here, Clear disk directory name faults here ∧
        staged.result = .ok (Path.join directory name) ∧
        disk.Binds (here ++ [name]) data staged.disk) ∨
      ((∀ here, ¬Clear disk directory name faults here) ∧
        (∃ reason, staged.result = .error (.staging reason)) ∧ staged.disk = disk) := by
  intro staged
  cases stage_ends disk directory name data faults with
  | refused reason hresult hdisk =>
      refine .inr ⟨fun here hclear => ?_, ⟨reason, hresult⟩, hdisk⟩
      rw [stage_of_clear hname hclear] at hresult
      exact absurd hresult nofun
  | placed location hresult =>
      obtain ⟨here, hclear⟩ := clear_of_stage hname hresult
      refine .inl ⟨here, hclear, hresult, ?_⟩
      show disk.Binds (here ++ [name]) data (stage disk directory name data faults).disk
      rw [stage_of_clear hname hclear]
      exact Disk.binds_put (by simp)

/-- While a file is staged, a temporary file in the directory holds a first part of the data, and
everything else lies as before. -/
structure Passing (disk : Disk) (directory : String) (data : Bytes) (temporary : Location)
    (moment : Disk) : Prop where
  unused : disk.node? temporary = none
  leads : ∃ here k, disk.directory (.ofText directory) = .ok here ∧
    temporary = here ++ [Disk.temporaryName k]
  binds : ∃ written, written <+: data ∧ disk.Binds temporary written moment

/-- While a file is written where nothing lay, it is the only difference. -/
theorem passing_of_writing {moment : Disk} {arrived : Bytes}
    (hhere : disk.directory (.ofText directory) = .ok here) (harrived : arrived <+: data)
    (hwriting : Writing disk (disk.unused here) arrived moment) :
    Passing disk directory data (disk.unused here) moment := by
  obtain ⟨written, hwritten, rfl⟩ := hwriting
  obtain ⟨k, hk⟩ := disk.exists_unused_eq here
  have hunused := disk.node?_unused here
  exact ⟨hunused, ⟨here, k, hhere, hk⟩, written, hwritten.trans harrived,
    Disk.binds_put (Disk.node?_eq_none_iff.mp hunused).1⟩

/-- The disks between the one before and the one that remains differ from the one before by one
temporary file, the same one in all of them. -/
theorem stage_between (disk : Disk) (directory name : String) (data : Bytes) (faults : Faults) :
    ∃ temporary, ∀ moment, (stage disk directory name data faults).between moment →
      Passing disk directory data temporary moment := by
  cases stage_course disk directory name data faults with
  | notMade _ _ hbetween =>
      exact ⟨[], fun moment hmoment => absurd hmoment (hbetween moment)⟩
  | removed here arrived _ hhere harrived _ hbetween =>
      rw [hbetween]
      exact ⟨disk.unused here, fun _ => passing_of_writing hhere harrived⟩
  | moved here _ _ hhere _ _ _ hbetween =>
      rw [hbetween]
      exact ⟨disk.unused here, fun _ => passing_of_writing hhere (List.prefix_refl data)⟩

/-- **Staging is atomic.**  Where the way is clear, the path of the name is returned, and the disk
is the one before with all of the data under the name, in the place of an earlier file.  Where it
is not, there is a failure of staging, and the disk is exactly the one before.  At every moment in
between everything lies as before, but for one temporary file under a name that was not in use: so
under no other name is there ever a part of the data. -/
theorem stage_atomic (disk : Disk) (directory name : String) (data : Bytes) (faults : Faults)
    (hname : IsEntryName name) :
    let staged := stage disk directory name data faults
    ((∃ here, Clear disk directory name faults here ∧
        staged.result = .ok (Path.join directory name) ∧
        disk.Binds (here ++ [name]) data staged.disk) ∨
      ((∀ here, ¬Clear disk directory name faults here) ∧
        (∃ reason, staged.result = .error (.staging reason)) ∧ staged.disk = disk)) ∧
    ∃ temporary, ∀ moment, staged.between moment →
      Passing disk directory data temporary moment :=
  ⟨placed_or_refused disk directory name data faults hname,
    stage_between disk directory name data faults⟩

/-- A directory with two files. -/
def twoFiles : Disk where
  entries := [(["d"], .directory), (["d", "m"], .file [7]), (["d", "n"], .file [8])]
  workingDirectory := []

/-- An earlier file is replaced, and the one beside it stays. -/
theorem stage_replaces_earlier_file :
    IsEntryName "m" ∧ (stage twoFiles "/d" "m" [1, 2, 3] .none).result = .ok "/d/m" ∧
      twoFiles.Binds ["d", "m"] [1, 2, 3] (stage twoFiles "/d" "m" [1, 2, 3] .none).disk := by
  have hname : IsEntryName "m" := ⟨by decide, by decide, by decide, by decide⟩
  have hclear : Clear twoFiles "/d" "m" .none ["d"] :=
    ⟨rfl, by decide, by decide, by decide, by decide, by decide, by decide⟩
  refine ⟨hname, ?_⟩
  obtain ⟨⟨here, hhere, hresult, hbinds⟩ | ⟨hnever, -⟩, -⟩ :=
    stage_atomic twoFiles "/d" "m" [1, 2, 3] .none hname
  · obtain rfl : ["d"] = here := Except.ok.inj (hclear.leads.symm.trans hhere.leads)
    exact ⟨hresult, hbinds⟩
  · exact absurd hclear (hnever ["d"])

end AttestedModel.Staging
