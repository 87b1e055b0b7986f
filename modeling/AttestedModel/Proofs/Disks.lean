import AttestedModel.Disk
import AttestedModel.Proofs.Results
import Mathlib

/-!
# What lies where after a change

A disk is seen through `node?`: what is put at a location lies there, and what
lies elsewhere stays.  A location where nothing lies can be put to use and given
up again without a trace (`remove_put_of_unused`), and the location chosen for a
temporary file is always one of those (`node?_unused`), however many files share
its directory.

A file that was moved onto a path is what the path reads as afterwards
(`read_put_of_place`).
-/

namespace AttestedModel.Disk

variable {disk : Disk} {location other : Location} {node : Node}

/-- What is taken out at one location changes nothing at another one. -/
theorem lookup_filter_ne (entries : List (Location × Node)) (h : other ≠ location) :
    (entries.filter (·.1 ≠ location)).lookup other = entries.lookup other := by
  induction entries with
  | nil => rfl
  | cons entry entries ih =>
      by_cases hentry : entry.1 = location
      · have hother : (other == entry.1) = false := beq_eq_false_iff_ne.mpr (hentry ▸ h)
        rw [List.filter_cons_of_neg (by simpa using hentry), ih, List.lookup_cons, hother]
      · rw [List.filter_cons_of_pos (by simpa using hentry), List.lookup_cons, List.lookup_cons, ih]

/-- What is put at a location lies there. -/
theorem node?_put_self (h : location ≠ []) :
    (disk.put location node).node? location = some node := by
  simp [node?, put, h]

/-- What lies elsewhere stays. -/
theorem node?_put_of_ne (h : other ≠ location) :
    (disk.put location node).node? other = disk.node? other := by
  have hother : (other == location) = false := beq_eq_false_iff_ne.mpr h
  simp only [node?, put, List.lookup_cons, hother, lookup_filter_ne disk.entries h]

/-- Nothing lies at a location exactly if it is not the root and has no entry. -/
theorem node?_eq_none_iff :
    disk.node? location = none ↔ location ≠ [] ∧ location ∉ disk.entries.map Prod.fst := by
  by_cases h : location = []
  · simp [node?, h]
  · rw [node?, if_neg h, List.lookup_eq_none_iff]
    constructor
    · intro hnone
      refine ⟨h, fun hmem => ?_⟩
      obtain ⟨entry, hentry, rfl⟩ := List.mem_map.mp hmem
      simpa using hnone entry hentry
    · intro hfree entry hentry
      obtain ⟨-, hfresh⟩ := hfree
      exact bne_iff_ne.mpr fun heq => hfresh (heq ▸ List.mem_map_of_mem hentry)

/-- Putting something where nothing lies and removing it again changes nothing. -/
theorem remove_put_of_unused (h : disk.node? location = none) :
    (disk.put location node).remove location = disk := by
  have hfilter : disk.entries.filter (·.1 ≠ location) = disk.entries := by
    rw [List.filter_eq_self]
    intro entry hentry
    have hne : entry.1 ≠ location := fun heq =>
      (node?_eq_none_iff.mp h).2 (heq ▸ List.mem_map_of_mem hentry)
    simpa using hne
  have hremove : (disk.put location node).remove location =
      { disk with entries := (disk.entries.filter (·.1 ≠ location)).filter (·.1 ≠ location) } := by
    rw [remove, put, List.filter_cons_of_neg (by simp)]
  rw [hremove, hfilter, hfilter]

/-- A disk is the one before but for one location, where a file lies now. -/
structure Binds (disk : Disk) (location : Location) (content : Bytes) (disk' : Disk) : Prop where
  bound : disk'.node? location = some (.file content)
  others : ∀ other, other ≠ location → disk'.node? other = disk.node? other
  workingDirectory : disk'.workingDirectory = disk.workingDirectory

/-- A file that is put somewhere is the only thing that differs. -/
theorem binds_put {content : Bytes} (h : location ≠ []) :
    disk.Binds location content (disk.put location (.file content)) where
  bound := node?_put_self h
  others _ hother := node?_put_of_ne hother
  workingDirectory := rfl

theorem temporaryName_injective : Function.Injective temporaryName := by
  intro i j h
  have hdigits : (Nat.repr (100000 + i)).toList = (Nat.repr (100000 + j)).toList := by
    have hlist := congrArg String.toList h
    simpa [temporaryName, String.toList_append] using hlist
  rw [Nat.toList_repr, Nat.toList_repr] at hdigits
  have hnumber := congrArg (fun ds => Nat.ofDigitChars 10 ds 0) hdigits
  simp only [Nat.ofDigitChars_ten_toDigits] at hnumber
  omega

/-- **Nothing lies where a temporary file is made.**  There is one candidate more than the disk
has entries, so they cannot all be taken. -/
theorem node?_unused (disk : Disk) (directory : Location) :
    disk.node? (disk.unused directory) = none := by
  unfold unused
  dsimp only
  cases hfree : (List.range (disk.entries.length + 1)).find? fun k =>
      disk.node? (directory ++ [temporaryName k]) = none with
  | some k => simpa using List.find?_some hfree
  | none =>
      -- More distinct candidates than entries cannot all be among the entries.
      exfalso
      let candidates := (List.range (disk.entries.length + 1)).map fun k =>
        directory ++ [temporaryName k]
      have hnodup : candidates.Nodup := by
        refine List.nodup_range.map fun i j h => ?_
        exact temporaryName_injective (by simpa using h)
      have htaken : candidates ⊆ disk.entries.map Prod.fst := by
        intro candidate hcandidate
        obtain ⟨k, hk, rfl⟩ := List.mem_map.mp hcandidate
        have hnode : disk.node? (directory ++ [temporaryName k]) ≠ none := by
          simpa using List.find?_eq_none.mp hfree k hk
        by_contra hfresh
        exact hnode (node?_eq_none_iff.mpr ⟨by simp, hfresh⟩)
      have hlength := (List.subperm_of_subset hnodup htaken).length_le
      simp [candidates] at hlength

/-- A temporary file is made where nothing lies. -/
theorem node?_of_temporary {text : String} (h : disk.temporary text = .ok location) :
    disk.node? location = none := by
  simp only [temporary, throw_bind, guard_eq_ok_iff, bind_eq_ok_iff, pure_eq_ok_iff] at h
  obtain ⟨-, -, directory, -, rfl⟩ := h
  exact disk.node?_unused directory

/-- Every directory of one disk is one of another. -/
def DirectoriesIn (disk disk' : Disk) : Prop :=
  ∀ location, disk.node? location = some .directory → disk'.node? location = some .directory

/-- A directory is found exactly where one lies. -/
theorem requireDirectory_eq_ok_iff {u : Unit} :
    disk.requireDirectory location = .ok u ↔ disk.node? location = some .directory := by
  unfold requireDirectory
  split <;> simp_all

/-- A walk enters directories only, so it leads to the same place wherever they are all there. -/
theorem DirectoriesIn.walk {disk' : Disk} (h : disk.DirectoriesIn disk') {here : Location}
    {parts : List String} (hwalk : disk.walk here parts = .ok location) :
    disk'.walk here parts = .ok location := by
  induction parts generalizing here with
  | nil => exact hwalk
  | cons part parts ih =>
      simp only [Disk.walk, bind_eq_ok_iff, requireDirectory_eq_ok_iff] at hwalk ⊢
      obtain ⟨u, hhere, next, hnext, hrest⟩ := hwalk
      exact ⟨u, h here hhere, next, hnext, ih hrest⟩

/-- A walk goes on where its first part led to. -/
theorem walk_append {here : Location} {parts more : List String} :
    disk.walk here (parts ++ more) = disk.walk here parts >>= fun next => disk.walk next more := by
  induction parts generalizing here with
  | nil => rfl
  | cons part parts ih =>
      simp only [List.cons_append, Disk.walk, bind_assoc, ih]

/-- A component that is no dot leads to a location of that name. -/
theorem child_eq_ok {here : Location} {part : String} (hdots : ¬(part = "." ∨ part = ".."))
    (h : child here part = .ok location) : location = here ++ [part] := by
  obtain ⟨hdot, hdotdot⟩ := not_or.mp hdots
  simp only [child, hdot, hdotdot, if_false] at h
  split at h
  · exact absurd h nofun
  · exact (Except.ok.inj h).symm

/-- A text is the path of a file that may lie at a location. -/
structure Leads (disk : Disk) (text : String) (location : Location) : Prop where
  noNul : ¬Path.hasNul text
  nonempty : text ≠ ""
  short : ¬Path.tooLong text
  walk : disk.walk (disk.start (Path.ofText text)) (Path.ofText text).parts = .ok location
  noSlash : ¬(Path.ofText text).endsInSlash

/-- The file that a path leads to is read. -/
theorem Leads.read {text : String} {content : Bytes} (h : disk.Leads text location)
    (hfile : disk.node? location = some (.file content)) : disk.read text = .ok content := by
  simp only [Disk.read, throw_bind, guard_eq_ok_iff, bind_eq_ok_iff]
  refine ⟨h.noNul, h.nonempty, h.short, location, h.walk, ?_⟩
  rw [hfile]
  simp only [guard_eq_ok_iff]
  exact ⟨h.noSlash, rfl⟩

/-- A path leads to the same place wherever all the directories are. -/
theorem Leads.transfer {disk' : Disk} {text : String} (h : disk.Leads text location)
    (hdirectories : disk.DirectoriesIn disk')
    (hhere : disk'.workingDirectory = disk.workingDirectory) : disk'.Leads text location where
  noNul := h.noNul
  nonempty := h.nonempty
  short := h.short
  walk := by
    have hstart : disk'.start (Path.ofText text) = disk.start (Path.ofText text) := by
      simp only [start, hhere]
    rw [hstart]
    exact hdirectories.walk h.walk
  noSlash := h.noSlash

/-- A file is moved only to where its path leads, and never onto a directory. -/
theorem leads_of_place {moved : Location} {text : String}
    (h : disk.place moved text = .ok location) :
    disk.Leads text location ∧ location ≠ [] ∧ disk.node? location ≠ some .directory := by
  simp only [place, directory, throw_bind, guard_eq_ok_iff, bind_eq_ok_iff, pure_eq_ok_iff,
    requireDirectory_eq_ok_iff] at h
  obtain ⟨hnul, hempty, hlong, parent, ⟨found, hwalk, u, hparent, rfl⟩, h⟩ := h
  cases hlast : (Path.ofText text).parts.getLast? with
  | none =>
      rw [hlast] at h
      exact absurd h throw_ne_ok
  | some name =>
      rw [hlast] at h
      simp only [guard_eq_ok_iff, bind_eq_ok_iff, pure_eq_ok_iff] at h
      obtain ⟨hdots, place, hchild, hslash, -, hdirectory, rfl⟩ := h
      refine ⟨⟨hnul, hempty, hlong, ?_, hslash⟩, ?_, hdirectory⟩
      · rw [← List.dropLast_append_getLast? name hlast, walk_append]
        simp only [bind_eq_ok_iff, Disk.walk, requireDirectory_eq_ok_iff]
        exact ⟨found, hwalk, u, hparent, place, hchild, rfl⟩
      · rw [child_eq_ok hdots hchild]
        simp

/-- **A placed file is what its path reads as.**  The file was moved from a place of its own, where
nothing lay before, and its arrival disturbs no directory on the way. -/
theorem read_put_of_place {moved : Location} {text : String} {data : Bytes}
    (hmoved : disk.node? moved = none)
    (h : (disk.put moved (.file data)).place moved text = .ok location) :
    (disk.put location (.file data)).read text = .ok data := by
  obtain ⟨hleads, hroot, hdirectory⟩ := leads_of_place h
  have hmovedRoot : moved ≠ [] := (node?_eq_none_iff.mp hmoved).1
  -- The path was walked while the file still lay in its old place.
  have hdirectories :
      (disk.put moved (.file data)).DirectoriesIn (disk.put location (.file data)) := by
    intro place hplace
    have hfile : place ≠ moved := by
      intro heq
      rw [heq, node?_put_self hmovedRoot] at hplace
      exact absurd hplace nofun
    have hother : place ≠ location := fun heq => hdirectory (heq ▸ hplace)
    rw [node?_put_of_ne hfile] at hplace
    rw [node?_put_of_ne hother, hplace]
  exact (hleads.transfer hdirectories rfl).read (node?_put_self hroot)

end AttestedModel.Disk
