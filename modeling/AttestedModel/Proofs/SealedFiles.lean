import AttestedModel.CommandLine.Program
import AttestedModel.Proofs.EnvelopeCodec
import AttestedModel.Proofs.StagedFiles

/-!
# Sealed files

The path of an output is taken apart into a directory and a name, and put together
again for staging.  Both ways lead to one location, which is the one that the output
names (`names_of_splitOutput?`), so it does not matter whether it was written with
slashes or dots at its end, or whether it is another path of the file that was read.

So sealing a file gives an envelope of it where the output says, or leaves no trace
(`encryptFile_all_or_nothing`).
-/

namespace AttestedModel.CommandLine

open AttestedModel.Path (IsEntryName componentsOf)

variable {disk : Disk} {here : Location} {output directory name : String}

/-- Behind the components that count there are empty ones and dots. -/
theorem exists_eq_trimComponents_append (parts : List (List Char)) :
    ∃ behind, parts = trimComponents parts ++ behind ∧
      ∀ part ∈ behind, part = [] ∨ part = ['.'] := by
  cases parts with
  | nil => exact ⟨[], rfl, fun _ h => absurd h List.not_mem_nil⟩
  | cons first rest =>
      refine ⟨rest.rtakeWhile fun part => part = [] || part = ['.'], ?_, fun part hpart => ?_⟩
      · exact congrArg (first :: ·) (List.rdropWhile_append_rtakeWhile ..).symm
      · simpa using List.mem_rtakeWhile_imp hpart

/-- What counts of some components is nothing only if there are none. -/
theorem eq_nil_of_trimComponents {parts : List (List Char)} (h : trimComponents parts = []) :
    parts = [] := by
  cases parts with
  | nil => rfl
  | cons first rest => exact absurd h nofun

/-- Components that do not count are dots of a path. -/
theorem componentsOf_eq_dot {behind : List (List Char)}
    (h : ∀ part ∈ behind, part = [] ∨ part = ['.']) : ∀ part ∈ componentsOf behind, part = "." := by
  intro part hpart
  obtain ⟨piece, hpiece, rfl⟩ := List.mem_map.mp hpart
  obtain ⟨hmem, hne⟩ := List.mem_filter.mp hpiece
  rcases h piece hmem with rfl | rfl
  · exact absurd hne (by decide)
  · rfl

/-- The path of the directory that the components before a name are. -/
def parentOf (before : List (List Char)) : String :=
  String.ofList (match trimComponents before with
    | [] => ['.']
    | [[]] => ['/']
    | parents => ['/'].intercalate parents)

/-- An output is split at an entry name, behind which nothing counts. -/
theorem of_splitOutput? (h : splitOutput? output = some (directory, name)) :
    IsEntryName name ∧ ∃ before behind,
      Text.pieces (· = '/') output.toList = before ++ name.toList :: behind ∧
        (∀ part ∈ behind, part = [] ∨ part = ['.']) ∧ directory = parentOf before := by
  obtain ⟨behind, hpieces, hbehind⟩ :=
    exists_eq_trimComponents_append (Text.pieces (· = '/') output.toList)
  unfold splitOutput? at h
  dsimp only at h
  split at h
  · exact absurd h nofun
  · rename_i found hlast
    split at h
    · exact absurd h nofun
    · rename_i hname
      obtain ⟨rfl, rfl⟩ := Prod.mk.inj (Option.some.inj h)
      simp only [not_or] at hname
      obtain ⟨hempty, hdot, hdots⟩ := hname
      have hcomponents := List.dropLast_append_getLast? found hlast
      have hmem : found ∈ Text.pieces (· = '/') output.toList := by
        rw [hpieces]
        exact List.mem_append_left _ (List.mem_of_getLast? hlast)
      refine ⟨⟨?_, ?_, ?_, ?_⟩, _, behind, ?_, hbehind, rfl⟩
      · simpa [← String.toList_inj] using hempty
      · simpa [← String.toList_inj] using hdot
      · simpa [← String.toList_inj] using hdots
      · rw [String.toList_ofList]
        intro hslash
        exact absurd (Text.not_separator_of_mem_pieces hmem hslash) (by decide)
      · rw [String.toList_ofList]
        conv_lhs => rw [hpieces, ← hcomponents]
        simp

/-- The path of the directory before a name starts where the output starts, and has the components
before the name, or is a single dot if there are none. -/
theorem ofText_parentOf {before rest : List (List Char)} {piece : List Char} (hpiece : piece ≠ [])
    (hpieces : Text.pieces (· = '/') output.toList = before ++ piece :: rest) :
    (Path.ofText (parentOf before)).absolute = (Path.ofText output).absolute ∧
      (before = [] ∧ (Path.ofText (parentOf before)).parts = ["."] ∨
        ∃ dots, componentsOf before = (Path.ofText (parentOf before)).parts ++ dots ∧
          ∀ part ∈ dots, part = ".") := by
  obtain ⟨behind, hbefore, hbehind⟩ := exists_eq_trimComponents_append before
  have habsolute := @Path.absolute_ofText_iff output
  rw [hpieces] at habsolute
  unfold parentOf
  split
  · rename_i hnone
    obtain rfl := eq_nil_of_trimComponents hnone
    have hrelative : (Path.ofText output).absolute = false := by
      simpa [hpiece] using habsolute
    exact ⟨hrelative.symm, .inl ⟨rfl, rfl⟩⟩
  · rename_i hroot
    rw [hroot] at hbefore
    rw [hbefore] at habsolute ⊢
    refine ⟨?_, .inr ⟨componentsOf behind, rfl, componentsOf_eq_dot hbehind⟩⟩
    have hslash : (Path.ofText output).absolute := habsolute.mpr (by cases behind <;> simp)
    exact hslash.symm
  · rename_i parents hnone hroot
    generalize trimComponents before = parents at hbefore hnone hroot
    have hnoSlash : ∀ part ∈ parents, ∀ c ∈ part, decide (c = '/') = false := by
      intro part hpart c hc
      have hmem : part ∈ Text.pieces (· = '/') output.toList := by
        rw [hpieces, hbefore]
        simp [hpart]
      have hnone := Text.not_separator_of_mem_pieces hmem hc
      exact hnone
    have hagain : Text.pieces (· = '/') (['/'].intercalate parents) = parents :=
      Text.pieces_intercalate (by decide) hnone hnoSlash
    have hparent := @Path.absolute_ofText_iff (String.ofList (['/'].intercalate parents))
    rw [String.toList_ofList, hagain] at hparent
    refine ⟨?_, .inr ⟨componentsOf behind, ?_, componentsOf_eq_dot hbehind⟩⟩
    · rw [Bool.eq_iff_iff, hparent, habsolute, hbefore]
      -- a parent alone is not empty, and what follows more than one makes no difference
      obtain ⟨first, more, rfl⟩ := List.exists_cons_of_ne_nil hnone
      cases more with
      | nil =>
          have hfirst : first ≠ [] := fun hempty => hroot (by rw [hempty])
          simp [hfirst]
      | cons second more => simp
    · rw [Path.parts_ofText, String.toList_ofList, hagain, hbefore, Path.componentsOf_append]
      rfl

/-- Before its name, an output leads where the path of the directory leads. -/
theorem walk_componentsOf {before rest : List (List Char)} {piece : List Char} (hpiece : piece ≠ [])
    (hpieces : Text.pieces (· = '/') output.toList = before ++ piece :: rest)
    (h : disk.directory (.ofText (parentOf before)) = .ok here) :
    disk.walk (disk.start (.ofText output)) (componentsOf before) = .ok here := by
  obtain ⟨hwalk, hhere⟩ := Disk.directory_eq_ok_iff.mp h
  obtain ⟨habsolute, hcomponents⟩ := ofText_parentOf hpiece hpieces
  have hstart : disk.start (.ofText (parentOf before)) = disk.start (.ofText output) := by
    simp only [Disk.start, habsolute]
  rw [hstart] at hwalk
  rcases hcomponents with ⟨rfl, hparts⟩ | ⟨dots, hparts, hdots⟩
  · rw [hparts] at hwalk
    simp only [Disk.walk, bind_eq_ok_iff] at hwalk
    obtain ⟨-, -, next, hnext, hwalk⟩ := hwalk
    exact hnext.trans hwalk
  · rw [hparts, Disk.walk_append, hwalk]
    exact Disk.walk_dots hdots hhere

/-- **An output names the entry that it is split into.** -/
theorem names_of_splitOutput? (h : splitOutput? output = some (directory, name))
    (hdirectory : disk.directory (.ofText directory) = .ok here)
    (hshort : name.utf8ByteSize ≤ Path.longestName) : disk.Names output (here ++ [name]) := by
  obtain ⟨hname, before, behind, hpieces, hbehind, rfl⟩ := of_splitOutput? h
  have hparts : (Path.ofText output).parts =
      componentsOf before ++ name :: componentsOf behind := by
    rw [Path.parts_ofText, hpieces]
    simp [componentsOf, hname.toList_ne_nil, String.ofList_toList]
  have hwalk := walk_componentsOf hname.toList_ne_nil hpieces hdirectory
  rw [Disk.Names, Path.trunk_eq hname.ne_dot (componentsOf_eq_dot hbehind) hparts,
    Disk.walk_append, hwalk]
  simp only [Disk.walk, bind_eq_ok_iff, Disk.requireDirectory_eq_ok_iff]
  exact ⟨here, rfl, (), (Disk.directory_eq_ok_iff.mp hdirectory).2, _,
    (Disk.child_eq_ok_iff hname).mpr ⟨hshort, rfl⟩, rfl⟩

variable {read : String → Except OsError Bytes} {iv : Bytes} {input keyFile : String}
  {faults : Staging.Faults}

/-- A file that the program needs is read as it is. -/
theorem readFile_eq_ok_iff {purpose path : String} {content : Bytes} :
    readFile read purpose path = .ok content ↔ read path = .ok content := by
  unfold readFile
  cases read path <;> simp

/-- There is a plan if both files are read, the envelope is made and the output names a file. -/
theorem encryptPlan_eq_ok_iff {envelope : Bytes} :
    encryptPlan read iv input keyFile output = .ok (directory, name, envelope) ↔
      ∃ plaintext key, read input = .ok plaintext ∧ read keyFile = .ok key ∧
        Envelope.encrypt plaintext key iv = .ok envelope ∧
        splitOutput? output = some (directory, name) := by
  simp only [encryptPlan, bind_eq_ok_iff, readFile_eq_ok_iff, mapError_eq_ok_iff]
  constructor
  · intro hsteps
    obtain ⟨plaintext, hplaintext, key, hkey, found, henvelope, hsplit⟩ := hsteps
    refine ⟨plaintext, key, hplaintext, hkey, ?_⟩
    split at hsplit
    · rename_i hparts
      cases pure_eq_ok_iff.mp hsplit
      exact ⟨henvelope, hparts⟩
    · exact absurd hsplit throw_ne_ok
  · intro hsteps
    obtain ⟨plaintext, key, hplaintext, hkey, henvelope, hsplit⟩ := hsteps
    refine ⟨plaintext, hplaintext, key, hkey, envelope, henvelope, ?_⟩
    rw [hsplit]
    rfl

/-- What sealing takes: both files are read, the one is not too large and the other has the length
of a key, and the way to the entry that the output is split into is clear. -/
structure Task (read : String → Except OsError Bytes) (disk : Disk)
    (input keyFile output : String) (faults : Staging.Faults) where
  plaintext : Bytes
  key : Bytes
  directory : String
  name : String
  /-- Where the directory is. -/
  here : Location
  reads_input : read input = .ok plaintext
  reads_key : read keyFile = .ok key
  not_large : plaintext.length < 2 ^ 32
  key_length : key.length = 16 ∨ key.length = 24 ∨ key.length = 32
  split : splitOutput? output = some (directory, name)
  clear : Staging.Clear disk directory name faults here

namespace Task

/-- Where the envelope is to lie. -/
def location (task : Task read disk input keyFile output faults) : Location :=
  task.here ++ [task.name]

/-- Where the envelope is to lie is what the output names. -/
theorem names (task : Task read disk input keyFile output faults) :
    disk.Names output task.location :=
  names_of_splitOutput? task.split task.clear.leads task.clear.short_name

end Task

/-- A task is done: the output names the location of an envelope of the plaintext, which is the only
file that changed.  It is read under the path that was returned, and nothing else is read under the
output. -/
structure Task.Done (task : Task read disk input keyFile output faults) (path : String)
    (envelope : Bytes) (disk' : Disk) : Prop where
  names : disk'.Names output task.location
  binds : disk.Binds task.location envelope disk'
  length : envelope.length = task.plaintext.length + 40
  decrypts : Envelope.decrypt envelope task.key = .ok task.plaintext
  reads : disk'.read path = .ok envelope
  reads_output : ∀ content, disk'.read output = .ok content → content = envelope

/-- A plan is made for every task. -/
theorem encryptPlan_of_task (iv : Bytes) (task : Task read disk input keyFile output faults) :
    ∃ envelope, encryptPlan read iv input keyFile output =
      .ok (task.directory, task.name, envelope) := by
  have hencrypt : Envelope.encrypt task.plaintext task.key iv =
      .ok (Envelope.enclose task.plaintext task.key iv).toBytes :=
    Envelope.encrypt_eq_ok_iff.mpr
      ⟨task.not_large, Envelope.supported_iff.mpr task.key_length, rfl⟩
  exact ⟨_, encryptPlan_eq_ok_iff.mpr
    ⟨_, _, task.reads_input, task.reads_key, hencrypt, task.split⟩⟩

/-- **Sealing a file, all or nothing.**  Where nothing is in the way, the output names an envelope
afterwards, 40 bytes longer than what the input read as before, which decrypts to just that under
what the key file read as before; all other locations are as they were.  Otherwise there is a
failure, and the disk is the one before.  The output may be a path of the input or of the key
file, and reads may fail for reasons that the disk does not tell. -/
theorem encryptFile_all_or_nothing (read : String → Except OsError Bytes) (disk : Disk)
    (iv : Bytes) (input keyFile output : String) (faults : Staging.Faults)
    (hread : ∀ path content, read path = .ok content → disk.read path = .ok content)
    (hiv : iv.length = Envelope.ivLength) :
    let run := encryptFile read disk iv input keyFile output faults
    (∃ (task : Task read disk input keyFile output faults) (path : String) (envelope : Bytes),
        disk.read input = .ok task.plaintext ∧ disk.read keyFile = .ok task.key ∧
        run.1 = .ok path ∧ task.Done path envelope run.2) ∨
      (IsEmpty (Task read disk input keyFile output faults) ∧
        (∃ trouble, run.1 = .error trouble) ∧ run.2 = disk) := by
  intro run
  cases hplan : encryptPlan read iv input keyFile output with
  | error trouble =>
      have hrun : run = (.error trouble, disk) := by
        simp only [run, encryptFile, hplan]
      refine .inr ⟨⟨fun task => ?_⟩, ⟨trouble, congrArg Prod.fst hrun⟩, congrArg Prod.snd hrun⟩
      obtain ⟨envelope, hok⟩ := encryptPlan_of_task iv task
      exact absurd (hplan.symm.trans hok) nofun
  | ok plan =>
      obtain ⟨directory, name, envelope⟩ := plan
      obtain ⟨plaintext, key, hinput, hkey, hencrypt, hsplit⟩ := encryptPlan_eq_ok_iff.mp hplan
      let staged := Staging.stage disk directory name envelope faults
      have hrun : run = (staged.result.mapError fun e => .plain e.message, staged.disk) := by
        simp only [run, encryptFile, hplan, staged]
      obtain ⟨here, hclear, hresult, hbinds⟩ | ⟨hblocked, ⟨reason, hresult⟩, hdisk⟩ :=
        Staging.placed_or_refused disk directory name envelope faults (of_splitOutput? hsplit).1
      · obtain ⟨hlarge, hsupported, -⟩ := Envelope.encrypt_eq_ok_iff.mp hencrypt
        have hdecrypt := Envelope.decrypt_of_encrypt hiv hencrypt
        let task : Task read disk input keyFile output faults :=
          { plaintext, key, directory, name, here, clear := hclear, split := hsplit
            reads_input := hinput, reads_key := hkey, not_large := hlarge
            key_length := Envelope.supported_iff.mp hsupported }
        have hnames := task.names.of_binds hclear.no_directory hbinds
        have hdone : task.Done (Path.join directory name) envelope staged.disk :=
          { names := hnames, binds := hbinds, decrypts := hdecrypt
            length := (Envelope.encrypt_of_decrypt hdecrypt).2
            reads := (Staging.read_of_stage hresult).2
            reads_output := fun content hcontent => hnames.content_eq hbinds.bound hcontent }
        refine .inl ⟨task, Path.join directory name, envelope, hread _ _ hinput, hread _ _ hkey, ?_⟩
        rw [hrun]
        exact ⟨mapError_eq_ok_iff.mpr hresult, hdone⟩
      · refine .inr ⟨⟨fun task => ?_⟩, ?_⟩
        · obtain ⟨rfl, rfl⟩ := Prod.mk.inj (Option.some.inj (hsplit.symm.trans task.split))
          exact hblocked task.here task.clear
        · rw [hrun]
          refine ⟨⟨.plain (LoadError.staging reason).message, ?_⟩, hdisk⟩
          show staged.result.mapError _ = _
          rw [hresult]
          rfl

/-- A directory with a model and a key in it. -/
def modelAndKey : Disk where
  entries := [(["d"], .directory), (["d", "m"], .file [1, 2, 3]),
    (["d", "k"], .file (List.replicate 16 7))]
  workingDirectory := ["d"]

/-- A model is sealed in its own place, which is called by another path. -/
theorem encryptFile_over_input :
    ∃ envelope, Envelope.decrypt envelope (List.replicate 16 7) = .ok [1, 2, 3] ∧
      modelAndKey.Binds ["d", "m"] envelope (encryptFile modelAndKey.read modelAndKey
        (List.replicate 12 5) "/d/m" "k" ".././d//m/." .none).2 := by
  have hinput : modelAndKey.read "/d/m" = .ok [1, 2, 3] := eq_ok_of_toOption (by decide)
  have hkey : modelAndKey.read "k" = .ok (List.replicate 16 7) := eq_ok_of_toOption (by decide)
  let task : Task modelAndKey.read modelAndKey "/d/m" "k" ".././d//m/." .none :=
    { plaintext := [1, 2, 3], key := List.replicate 16 7, directory := ".././d", name := "m"
      here := ["d"], reads_input := hinput, reads_key := hkey
      not_large := by decide, key_length := by decide, split := by decide
      clear := ⟨rfl, by decide, by decide, by decide, by decide, by decide, by decide⟩ }
  obtain ⟨done, path, envelope, hplaintext, hdoneKey, -, hdone⟩ | ⟨hnone, -⟩ :=
    encryptFile_all_or_nothing modelAndKey.read modelAndKey (List.replicate 12 5) "/d/m" "k"
      ".././d//m/." .none (fun _ _ h => h) (by decide)
  · have hsamePlaintext := Except.ok.inj (hinput.symm.trans hplaintext)
    have hsameKey := Except.ok.inj (hkey.symm.trans hdoneKey)
    have hsameLocation : ["d", "m"] = done.location :=
      Except.ok.inj (task.names.symm.trans done.names)
    rw [hsamePlaintext, hsameKey, hsameLocation]
    exact ⟨envelope, hdone.decrypts, hdone.binds⟩
  · exact hnone.elim task

end AttestedModel.CommandLine
