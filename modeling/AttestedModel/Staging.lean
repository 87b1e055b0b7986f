import AttestedModel.Disk
import AttestedModel.Error

/-!
# Staging

A file is staged by writing all of it to a temporary file in the same directory,
which is then moved onto its name.  Whatever fails, the temporary file is removed
and the disk is as it was; at no moment is a part of the file visible under its
name.

`stage` gives the result, the disk that remains, and the disks that can be seen
in between.
-/

namespace AttestedModel.Staging

/-- What goes wrong while a file is staged, beside what the paths bring about. -/
structure Faults where
  create : Option OsError
  /-- The write fails after so many bytes. -/
  write : Option (OsError × Nat)
  sync : Option OsError
  move : Option OsError
deriving DecidableEq, Repr

/-- Nothing goes wrong. -/
def Faults.none : Faults :=
  { create := .none, write := .none, sync := .none, move := .none }

/-- The result of staging, and what it does to the disk. -/
structure Staged where
  result : Except LoadError String
  /-- A disk that can be seen between the one before and the one that remains. -/
  between : Disk → Prop
  disk : Disk

/-- A disk while a new file is written: any first part of the data may have arrived, from none of
it to all. -/
def Writing (disk : Disk) (temporary : Location) (data : Bytes) (moment : Disk) : Prop :=
  ∃ written, written <+: data ∧ moment = disk.put temporary (.file written)

/-- The failure to make a temporary file. -/
def cannotCreate (directory : String) (e : OsError) : LoadError :=
  .staging s!"一時ファイルを作成できません ({directory}): {e.message}"

/-- The failure to write or to sync it. -/
def cannotWrite (e : OsError) : LoadError :=
  .staging s!"一時ファイルへの書き込みに失敗: {e.message}"

/-- The failure to move it onto its name. -/
def cannotPlace (target : String) (e : OsError) : LoadError :=
  .staging s!"{target} への配置に失敗: {e.message}"

/-- An answer, unless a fault comes first. -/
def orFault (fault : Option OsError) (answer : Except OsError α) : Except OsError α :=
  match fault with
  | some e => .error e
  | none => answer

/-- Places `data` at the path of `name` in `directory`. -/
def stage (disk : Disk) (directory name : String) (data : Bytes) (faults : Faults) : Staged :=
  let target := Path.join directory name
  match orFault faults.create (disk.temporary directory) with
  | .error e =>
    { result := .error (cannotCreate directory e), between := fun _ => False, disk }
  | .ok temporary =>
    match faults.write with
    | some (e, written) =>
      let arrived := data.take written
      { result := .error (cannotWrite e), between := Writing disk temporary arrived,
        disk := (disk.put temporary (.file arrived)).remove temporary }
    | none =>
      let between := Writing disk temporary data
      let complete := disk.put temporary (.file data)
      match faults.sync with
      | some e =>
        { result := .error (cannotWrite e), between, disk := complete.remove temporary }
      | none =>
        match orFault faults.move (complete.place temporary target) with
        | .error e =>
          { result := .error (cannotPlace target e), between,
            disk := complete.remove temporary }
        | .ok location =>
          { result := .ok target, between,
            disk := (complete.remove temporary).put location (.file data) }

end AttestedModel.Staging
