import AttestedModel.Proofs.Disks

/-!
# Paths of entries

The path of an entry is the path of its directory, a slash and a name: taken apart,
it has one component more (`Path.ofText_join`).  So an entry leads into the directory that its
directory's path leads to, and nowhere else.  A file is moved there exactly if the path can be
handed over and no directory is in its place (`Disk.place_join_eq_ok_iff`).

Behind the trunk of a path there may be slashes and dots, which name nothing else; a text names
the location where its trunk leads, and only the file there is ever read under it
(`Disk.Names.content_eq`).
-/

namespace AttestedModel

namespace Text

variable {α : Type} {isSeparator : α → Bool}

/-- A separator ends the pieces before it, and others begin behind it. -/
theorem pieces_append_cons {a : α} (ha : isSeparator a) (before after : List α) :
    pieces isSeparator (before ++ a :: after) =
      pieces isSeparator before ++ pieces isSeparator after := by
  induction before with
  | nil => simp [addToPieces, ha]
  | cons b before ih =>
      obtain ⟨piece, rest, hpieces⟩ :=
        List.exists_cons_of_ne_nil (pieces_ne_nil isSeparator before)
      rw [List.cons_append, pieces_cons, pieces_cons, ih, hpieces]
      unfold addToPieces
      by_cases hb : isSeparator b <;> simp [hb]

/-- A text without separators is one piece. -/
theorem pieces_of_no_separator {as : List α} (h : ∀ a ∈ as, isSeparator a = false) :
    pieces isSeparator as = [as] := by
  induction as with
  | nil => rfl
  | cons a as ih =>
      rw [pieces_cons, ih fun b hb => h b (List.mem_cons_of_mem a hb)]
      simp [addToPieces, h a List.mem_cons_self]

/-- Pieces with separators between them are the pieces again. -/
theorem pieces_intercalate {a : α} (ha : isSeparator a) {parts : List (List α)} (hne : parts ≠ [])
    (h : ∀ part ∈ parts, ∀ b ∈ part, isSeparator b = false) :
    pieces isSeparator ([a].intercalate parts) = parts := by
  induction parts with
  | nil => exact absurd rfl hne
  | cons part parts ih =>
      have hpart := pieces_of_no_separator (h part List.mem_cons_self)
      cases parts with
      | nil => simpa using hpart
      | cons next parts =>
          have hrest := ih (List.cons_ne_nil _ _) fun p hp => h p (List.mem_cons_of_mem part hp)
          rw [List.intercalate_cons_cons, List.append_assoc, List.singleton_append,
            pieces_append_cons ha, hpart, hrest, List.singleton_append]

end Text

namespace Path

/-- A name of one component that an entry of a directory may have. -/
structure IsEntryName (name : String) : Prop where
  ne_empty : name ≠ ""
  ne_dot : name ≠ "."
  ne_dots : name ≠ ".."
  no_slash : '/' ∉ name.toList

variable {directory name : String}

/-- The components of a path are the pieces of its text between slashes that are not empty. -/
theorem parts_ofText (text : String) :
    (ofText text).parts =
      ((Text.pieces (· = '/') text.toList).filter (· ≠ [])).map String.ofList :=
  rfl

/-- An entry name is a path of one component. -/
theorem IsEntryName.pieces (h : IsEntryName name) :
    Text.pieces (· = '/') name.toList = [name.toList] :=
  Text.pieces_of_no_separator fun c hc => by
    have hne : c ≠ '/' := fun heq => h.no_slash (heq ▸ hc)
    simpa using hne

theorem IsEntryName.toList_ne_nil (h : IsEntryName name) : name.toList ≠ [] :=
  mt String.toList_eq_nil_iff.mp h.ne_empty

/-- A name is relative: it does not begin with a slash. -/
theorem IsEntryName.head_ne (h : IsEntryName name) : name.toList.head? ≠ some '/' :=
  fun hhead => h.no_slash (List.mem_of_mem_head? hhead)

/-- A name stands for a file: it does not end in a slash. -/
theorem IsEntryName.getLast_ne (h : IsEntryName name) : name.toList.getLast? ≠ some '/' :=
  fun hlast => h.no_slash (List.mem_of_getLast? hlast)

/-- A slash divides the components of a path into those before it and those behind it. -/
theorem parts_append (before after : List Char) :
    (ofText (String.ofList (before ++ '/' :: after))).parts =
      (ofText (String.ofList before)).parts ++ (ofText (String.ofList after)).parts := by
  simp only [parts_ofText, String.toList_ofList]
  rw [Text.pieces_append_cons (by simp), List.filter_append, List.map_append]

/-- An entry name is the one component of its path. -/
theorem IsEntryName.parts (h : IsEntryName name) : (ofText name).parts = [name] := by
  rw [parts_ofText, h.pieces]
  simp [h.toList_ne_nil, String.ofList_toList]

/-- Below a directory with a name, the path of an entry is what the directory's path says before
its last slash, a slash and the name. -/
theorem toList_join (h : IsEntryName name) (hne : directory ≠ "") :
    ∃ before, (join directory name).toList = before ++ '/' :: name.toList ∧
      (directory.toList = before ∨ directory.toList = before ++ ['/']) := by
  unfold join
  rw [if_neg (by simp [h.head_ne, hne])]
  split
  · rename_i hslash
    have hdirectory := List.dropLast_append_getLast? '/' hslash
    refine ⟨directory.toList.dropLast, ?_, .inr hdirectory.symm⟩
    rw [String.toList_append, ← hdirectory]
    simp
  · refine ⟨directory.toList, ?_, .inl rfl⟩
    simp [String.toList_append]

/-- **The path of an entry** is that of its directory with one more component. -/
theorem ofText_join (h : IsEntryName name) :
    ofText (join directory name) =
      { absolute := (ofText directory).absolute
        parts := (ofText directory).parts ++ [name]
        endsInSlash := false } := by
  by_cases hempty : directory = ""
  · subst hempty
    have hjoin : join "" name = name := by simp [join]
    have hparts : (ofText "").parts ++ [name] = (ofText name).parts := h.parts.symm
    rw [hjoin, hparts]
    simp [ofText, h.head_ne, h.getLast_ne]
  · obtain ⟨before, hjoin, hdirectory⟩ := toList_join h hempty
    have htext : join directory name = String.ofList (before ++ '/' :: name.toList) := by
      rw [← hjoin, String.ofList_toList]
    have hparts : (ofText directory).parts = (ofText (String.ofList before)).parts := by
      rcases hdirectory with hdirectory | hdirectory
      · rw [← hdirectory, String.ofList_toList]
      · rw [← String.ofList_toList (s := directory), hdirectory, parts_append]
        simp [parts_ofText]
    have hhead : (join directory name).toList.head? = directory.toList.head? := by
      rw [hjoin]
      rcases hdirectory with hdirectory | hdirectory
      · rw [← hdirectory, List.head?_append_of_ne_nil _ (mt String.toList_eq_nil_iff.mp hempty)]
      · rw [hdirectory]
        cases before <;> rfl
    have hlast : (join directory name).toList.getLast? = name.toList.getLast? := by
      rw [hjoin, List.getLast?_append_of_ne_nil _ (List.cons_ne_nil _ _),
        List.getLast?_cons_of_ne_nil h.toList_ne_nil]
    have hmore : (ofText (join directory name)).parts = (ofText directory).parts ++ [name] := by
      rw [htext, parts_append, hparts, String.ofList_toList, h.parts]
    rw [← hmore]
    simp [ofText, hhead, hlast, h.getLast_ne]

/-- The path of a name is not empty, whatever the directory. -/
theorem join_ne_empty (h : IsEntryName name) : join directory name ≠ "" := by
  intro hempty
  have hparts := congrArg Path.parts (@ofText_join directory name h)
  rw [hempty] at hparts
  exact List.cons_ne_nil _ _ (List.append_eq_nil_iff.mp hparts.symm).2

/-- A NUL in the path of a directory is one in the paths of its entries. -/
theorem not_hasNul_of_join (h : IsEntryName name) (hnul : ¬hasNul (join directory name)) :
    ¬hasNul directory := by
  by_cases hempty : directory = ""
  · subst hempty
    decide
  · obtain ⟨before, hjoin, hdirectory⟩ := toList_join h hempty
    intro hdirectoryNul
    refine hnul ?_
    unfold hasNul at hdirectoryNul ⊢
    rw [hjoin]
    rcases hdirectory with hdirectory | hdirectory
    · simp [← hdirectory, hdirectoryNul]
    · simp only [hdirectory, List.any_append, Bool.or_eq_true] at hdirectoryNul
      rcases hdirectoryNul with hbefore | hslash
      · simp [hbefore]
      · exact absurd hslash (by decide)

/-- The components that pieces between slashes are: the empty ones lead nowhere. -/
def componentsOf (pieces : List (List Char)) : List String :=
  (pieces.filter (· ≠ [])).map String.ofList

/-- The components of a path without the single dots at its end, which lead no further. -/
def trunk (path : Path) : List String :=
  path.parts.rdropWhile (· = ".")

/-- Components are taken piece by piece. -/
theorem componentsOf_append (pieces more : List (List Char)) :
    componentsOf (pieces ++ more) = componentsOf pieces ++ componentsOf more := by
  simp only [componentsOf, List.filter_append, List.map_append]

/-- Behind the trunk of a path there are dots only. -/
theorem exists_parts_eq (path : Path) :
    ∃ dots, path.parts = path.trunk ++ dots ∧ ∀ part ∈ dots, part = "." :=
  ⟨path.parts.rtakeWhile (· = "."), (List.rdropWhile_append_rtakeWhile ..).symm, fun part hpart => by
    simpa using List.mem_rtakeWhile_imp hpart⟩

/-- The trunk ends where only dots follow. -/
theorem trunk_eq {path : Path} {before dots : List String} {name : String} (hname : name ≠ ".")
    (hdots : ∀ part ∈ dots, part = ".") (h : path.parts = before ++ name :: dots) :
    path.trunk = before ++ [name] := by
  have hparts : path.parts = before ++ [name] ++ dots := by simp [h]
  rw [trunk, hparts, List.rdropWhile, List.reverse_append, List.dropWhile_append_of_pos,
    ← List.rdropWhile, List.rdropWhile_concat_neg]
  · simpa using hname
  · intro part hpart
    simpa using hdots part (List.mem_reverse.mp hpart)

/-- A path is absolute if nothing is written before its first slash. -/
theorem absolute_ofText_iff {text : String} :
    (ofText text).absolute ↔
      ∃ next more, Text.pieces (· = '/') text.toList = [] :: next :: more := by
  have hlist : ∀ cs : List Char, cs.head? = some '/' ↔
      ∃ next more, Text.pieces (· = '/') cs = [] :: next :: more := by
    intro cs
    cases cs with
    | nil => simp
    | cons c cs =>
        obtain ⟨piece, rest, hpieces⟩ :=
          List.exists_cons_of_ne_nil (Text.pieces_ne_nil (· = '/') cs)
        rw [Text.pieces_cons, hpieces]
        by_cases hc : c = '/' <;> simp [Text.addToPieces, hc]
  simpa [ofText] using hlist text.toList

end Path

namespace Disk

open AttestedModel.Path (IsEntryName)

variable {disk : Disk} {location moved here : Location} {directory name : String}

/-- A path leads to a directory if its components lead to where one lies. -/
theorem directory_eq_ok_iff {path : Path} :
    disk.directory path = .ok location ↔
      disk.walk (disk.start path) path.parts = .ok location ∧
        disk.node? location = some .directory := by
  simp only [directory, bind_eq_ok_iff, pure_eq_ok_iff, requireDirectory_eq_ok_iff]
  constructor
  · intro hsteps
    obtain ⟨found, hwalk, u, hfound, rfl⟩ := hsteps
    exact ⟨hwalk, hfound⟩
  · intro hsteps
    exact ⟨location, hsteps.1, (), hsteps.2, rfl⟩

/-- A file where nothing lay is in the way of no path to a directory. -/
theorem directory_put_eq_ok_iff {data : Bytes} {path : Path} (h : disk.node? moved = none) :
    (disk.put moved (.file data)).directory path = .ok location ↔
      disk.directory path = .ok location := by
  have hroot : moved ≠ [] := (node?_eq_none_iff.mp h).1
  have hsame : ∀ place, (disk.put moved (.file data)).node? place = some .directory ↔
      disk.node? place = some .directory := by
    intro place
    by_cases hplace : place = moved
    · subst hplace
      simp [node?_put_self hroot, h]
    · rw [node?_put_of_ne hplace]
  have hthere : disk.DirectoriesIn (disk.put moved (.file data)) := fun place => (hsame place).mpr
  have hback : (disk.put moved (.file data)).DirectoriesIn disk := fun place => (hsame place).mp
  rw [directory_eq_ok_iff, directory_eq_ok_iff, hsame]
  exact and_congr_left' ⟨fun hwalk => hback.walk hwalk, fun hwalk => hthere.walk hwalk⟩

/-- A name leads into a directory unless it is too long for a component. -/
theorem child_eq_ok_iff (h : IsEntryName name) :
    child here name = .ok location ↔
      name.utf8ByteSize ≤ Path.longestName ∧ here ++ [name] = location := by
  unfold child
  rw [if_neg h.ne_dot, if_neg h.ne_dots]
  split
  · simp only [reduceCtorEq, false_iff]
    omega
  · rw [Except.ok.injEq]
    exact (and_iff_right (by omega)).symm

/-- **Where an entry is moved to:** into the directory that its path names before the last slash. -/
theorem place_join_eq_ok_iff (h : IsEntryName name) :
    disk.place moved (Path.join directory name) = .ok location ↔
      ∃ here, disk.directory (.ofText directory) = .ok here ∧ here ++ [name] = location ∧
        ¬Path.hasNul (Path.join directory name) ∧ ¬Path.tooLong (Path.join directory name) ∧
        name.utf8ByteSize ≤ Path.longestName ∧ ¬location.isPrefixOf moved.dropLast ∧
        disk.node? location ≠ some .directory := by
  -- a slash at the end of the directory's path makes no difference
  have hparent : disk.directory
      { absolute := (Path.ofText directory).absolute
        parts := (Path.ofText directory).parts
        endsInSlash := false } = disk.directory (.ofText directory) := rfl
  simp only [place, Path.ofText_join h, List.dropLast_concat, List.getLast?_concat, throw_bind,
    guard_eq_ok_iff, bind_eq_ok_iff, pure_eq_ok_iff, hparent, child_eq_ok_iff h]
  constructor
  · intro hsteps
    obtain ⟨hnul, hempty, hlong, here, hhere, hdots, found, ⟨hshort, rfl⟩, -, hprefix, hnode, rfl⟩ :=
      hsteps
    exact ⟨here, hhere, rfl, hnul, hlong, hshort, hprefix, hnode⟩
  · intro hsteps
    obtain ⟨here, hhere, rfl, hnul, hlong, hshort, hprefix, hnode⟩ := hsteps
    exact ⟨hnul, Path.join_ne_empty h, hlong, here, hhere, by simp [h.ne_dot, h.ne_dots], _,
      ⟨hshort, rfl⟩, by simp, hprefix, hnode, rfl⟩

/-- A temporary file is made in the directory of a path. -/
theorem temporary_eq_ok_iff :
    disk.temporary directory = .ok location ↔
      ∃ here, disk.directory (.ofText directory) = .ok here ∧ disk.unused here = location ∧
        ¬Path.hasNul directory ∧
        ¬Path.tooLong (Path.join (disk.fromRoot directory) (temporaryName 0)) := by
  simp only [temporary, throw_bind, guard_eq_ok_iff, bind_eq_ok_iff, pure_eq_ok_iff]
  constructor
  · intro hsteps
    obtain ⟨hnul, hlong, here, hhere, hunused⟩ := hsteps
    exact ⟨here, hhere, hunused, hnul, hlong⟩
  · intro hsteps
    obtain ⟨here, hhere, hunused, hnul, hlong⟩ := hsteps
    exact ⟨hnul, hlong, here, hhere, hunused⟩

/-- An unused location is in the directory, under one of the temporary names. -/
theorem exists_unused_eq (disk : Disk) (here : Location) :
    ∃ k, disk.unused here = here ++ [temporaryName k] :=
  ⟨_, rfl⟩

/-- A text names a location if the trunk of its path leads there.  Slashes and single dots behind
it ask for a directory but name nothing else. -/
def Names (disk : Disk) (text : String) (location : Location) : Prop :=
  disk.walk (disk.start (.ofText text)) (Path.ofText text).trunk = .ok location

/-- Dots lead from a directory to itself. -/
theorem walk_dots {dots : List String} (hdots : ∀ part ∈ dots, part = ".")
    (hhere : disk.node? here = some .directory) : disk.walk here dots = .ok here := by
  induction dots with
  | nil => rfl
  | cons part dots ih =>
      obtain ⟨rfl, hmore⟩ := List.forall_mem_cons.mp hdots
      simp only [walk, bind_eq_ok_iff, requireDirectory_eq_ok_iff]
      exact ⟨(), hhere, here, rfl, ih hmore⟩

/-- Dots lead nowhere from a file. -/
theorem walk_dots_of_file {dots : List String} {content : Bytes} (hdots : ∀ part ∈ dots, part = ".")
    (hhere : disk.node? here = some (.file content)) (h : disk.walk here dots = .ok location) :
    location = here := by
  cases dots with
  | nil => exact (Except.ok.inj h).symm
  | cons part dots =>
      simp only [walk, bind_eq_ok_iff, requireDirectory_eq_ok_iff, hhere] at h
      obtain ⟨u, hdirectory, -⟩ := h
      simp at hdirectory

/-- Whatever is read under a text that names a file is that file's content. -/
theorem Names.content_eq {text : String} {content other : Bytes} (h : disk.Names text location)
    (hfile : disk.node? location = some (.file content)) (hread : disk.read text = .ok other) :
    other = content := by
  simp only [read, throw_bind, guard_eq_ok_iff, bind_eq_ok_iff] at hread
  obtain ⟨-, -, -, found, hwalk, hread⟩ := hread
  obtain ⟨dots, hparts, hdots⟩ := (Path.ofText text).exists_parts_eq
  rw [hparts, walk_append, bind_eq_ok_iff] at hwalk
  obtain ⟨place, hplace, hwalk⟩ := hwalk
  obtain rfl : location = place := Except.ok.inj (h.symm.trans hplace)
  obtain rfl := walk_dots_of_file hdots hfile hwalk
  rw [hfile] at hread
  simp only [guard_eq_ok_iff, pure_eq_ok_iff] at hread
  exact hread.2.symm

/-- A text names the same location after a file has taken a place that no directory had. -/
theorem Names.of_binds {disk' : Disk} {text : String} {place : Location} {content : Bytes}
    (h : disk.Names text location) (hplace : disk.node? place ≠ some .directory)
    (hbinds : disk.Binds place content disk') : disk'.Names text location := by
  have hdirectories : disk.DirectoriesIn disk' := by
    intro other hother
    rw [hbinds.others other fun heq => hplace (heq ▸ hother), hother]
  have hstart : disk'.start (.ofText text) = disk.start (.ofText text) := by
    simp only [start, hbinds.workingDirectory]
  rw [Names, hstart]
  exact hdirectories.walk h

end Disk

end AttestedModel
