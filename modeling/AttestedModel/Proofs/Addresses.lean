import AttestedModel.Proofs.Paths
import AttestedModel.Url.Parser

/-!
# The segments of addresses

Whatever text an address is read from, the segments of its path hold visible
characters of ASCII alone, and no slash (`clean_parse`): the path is cut at the slashes,
what may not stand in it is escaped, and nothing is unescaped.  So the written form
of the path falls into the same segments again (`pieces_chars`).
-/

namespace AttestedModel

namespace Url

/-- A character that the segments of a path hold: visible ASCII, and no slash. -/
def isPathChar (c : Char) : Bool :=
  0x20 < c.toNat && c.toNat < 0x7f && c ≠ '/'

/-- A segment as it stands in a path. -/
def Clean (segment : List Char) : Prop :=
  ∀ c ∈ segment, isPathChar c

theorem clean_nil : Clean [] :=
  fun _ hc => absurd hc List.not_mem_nil

/-- The digits of an escape are visible. -/
theorem isPathChar_digit {n : Nat} (h : n < 16) : isPathChar (Percent.digit n) := by
  have all : ∀ n ∈ List.range 16, isPathChar (Percent.digit n) = true := by decide
  exact all n (List.mem_range.mpr h)

/-- What is escaped for a path is clean, if it holds no slash. -/
theorem clean_encode {cs : List Char} (h : '/' ∉ cs) : Clean (Percent.encode Percent.inPath cs) := by
  intro c hc
  obtain ⟨d, hd, hc⟩ := List.mem_flatMap.mp hc
  unfold Percent.encodeChar at hc
  split at hc
  · obtain ⟨b, -, hc⟩ := List.mem_flatMap.mp hc
    have hb := b.toNat_lt
    simp only [Percent.escape, List.mem_cons, List.not_mem_nil, or_false] at hc
    rcases hc with rfl | rfl | rfl
    · decide
    · exact isPathChar_digit (by omega)
    · exact isPathChar_digit (by omega)
  · rename_i hkept
    obtain rfl := List.mem_singleton.mp hc
    have hslash : c ≠ '/' := fun heq => h (heq ▸ hd)
    have hspace : c ≠ ' ' := by
      rintro rfl
      exact hkept (by decide)
    have hspace : c.toNat ≠ 0x20 := fun heq => hspace (Char.toNat_inj.mp heq)
    simp only [Percent.always, Bool.or_eq_true, decide_eq_true_eq, not_or] at hkept
    simp only [isPathChar, Bool.and_eq_true, decide_eq_true_eq]
    exact ⟨by omega, hslash⟩

/-- Taking out line breaks brings in no slash. -/
theorem not_mem_dropBreaks {cs : List Char} (h : '/' ∉ cs) : '/' ∉ dropBreaks cs :=
  fun hmem => h (List.mem_of_mem_filter hmem)

/-- A letter is visible, and no slash. -/
theorem isPathChar_of_isLetter {c : Char} (h : isLetter c) : isPathChar c := by
  simp only [isLetter, Char.isAlpha, Char.isUpper, Char.isLower, Bool.or_eq_true,
    Bool.and_eq_true, decide_eq_true_eq, ge_iff_le, UInt32.le_iff_toNat_le] at h
  have hupper : 'A'.val.toNat = 65 ∧ 'Z'.val.toNat = 90 := ⟨rfl, rfl⟩
  have hlower : 'a'.val.toNat = 97 ∧ 'z'.val.toNat = 122 := ⟨rfl, rfl⟩
  have hrange : 65 ≤ c.toNat ∧ c.toNat ≤ 122 := by
    show 65 ≤ c.val.toNat ∧ c.val.toNat ≤ 122
    omega
  have hslash : c ≠ '/' := by
    rintro rfl
    exact absurd hrange.1 (by decide)
  simp only [isPathChar, Bool.and_eq_true, decide_eq_true_eq]
  exact ⟨by omega, hslash⟩

/-- A drive whose end is a break is clean, and what is behind it is a part of the piece. -/
theorem of_brokenDrive? {piece drive rest : List Char} (h : brokenDrive? piece = some (drive, rest)) :
    Clean drive ∧ rest ⊆ piece := by
  have hdrop : ∀ cs : List Char, cs.dropWhile isBreak ⊆ cs := fun cs =>
    (List.dropWhile_suffix _).subset
  unfold brokenDrive? at h
  split at h
  · exact absurd h nofun
  · rename_i letter behind hletter
    split at h
    · rename_i more hmore
      split at h
      · rename_i hdrive
        obtain ⟨rfl, rfl⟩ := Prod.mk.inj (Option.some.inj h)
        constructor
        · intro c hc
          rcases List.mem_pair.mp hc with rfl | rfl
          · exact isPathChar_of_isLetter hdrive.1
          · decide
        · intro c hc
          have hbehind : c ∈ behind := by
            refine hdrop behind ?_
            rw [hmore]
            exact List.mem_cons_of_mem _ (List.mem_of_mem_filter hc)
          refine hdrop piece ?_
          rw [hletter]
          exact List.mem_cons_of_mem _ hbehind
      · exact absurd h nofun
    · exact absurd h nofun

/-- Entering a clean segment leaves the segments clean. -/
theorem clean_enter {kind : Kind} {before : List (List Char)} {segment : List Char}
    (hbefore : ∀ s ∈ before, Clean s) (hsegment : Clean segment) :
    ∀ s ∈ enter kind before segment, Clean s := by
  unfold enter
  split
  · split
    · exact hbefore
    · exact fun s hs => hbefore s (List.mem_of_mem_tail hs)
  split
  · exact hbefore
  split
  · intro s hs c hc
    obtain rfl := List.mem_singleton.mp hs
    rcases List.mem_append.mp hc with hc | hc
    · exact hsegment c (List.mem_of_mem_take hc)
    · obtain rfl := List.mem_singleton.mp hc
      decide
  · exact List.forall_mem_cons.mpr ⟨hsegment, hbefore⟩

/-- The segments that pieces without slashes write are clean. -/
theorem clean_resolve {kind : Kind} {before pieces : List (List Char)}
    (hbefore : ∀ s ∈ before, Clean s) (hpieces : ∀ piece ∈ pieces, '/' ∉ piece) :
    ∀ s ∈ resolve kind before pieces, Clean s := by
  induction pieces generalizing before with
  | nil => exact hbefore
  | cons piece pieces ih =>
      obtain ⟨hpiece, hpieces⟩ := List.forall_mem_cons.mp hpieces
      rw [resolve]
      split
      · rename_i drive rest hbroken
        split at hbroken
        · obtain ⟨hdrive, hrest⟩ := of_brokenDrive? hbroken
          refine ih ?_ hpieces
          intro s hs
          rcases List.mem_pair.mp hs with rfl | rfl
          · exact clean_encode fun hslash => hpiece (hrest hslash)
          · exact hdrive
        · exact absurd hbroken nofun
      · have hsegment := clean_encode (not_mem_dropBreaks hpiece)
        have hafter := @clean_enter kind before _ hbefore hsegment
        dsimp only
        split
        · exact List.forall_mem_cons.mpr ⟨clean_nil, hafter⟩
        · exact ih hafter hpieces

/-- The segments that a text is cut into are clean, whatever the text holds. -/
theorem clean_segmentsOf (kind : Kind) (cs : List Char) : ∀ s ∈ segmentsOf kind cs, Clean s := by
  have hpieces : ∀ piece ∈ Text.pieces kind.isSlash cs, '/' ∉ piece := by
    intro piece hpiece hslash
    have hnone := Text.not_separator_of_mem_pieces hpiece hslash
    simp [Kind.isSlash] at hnone
  have hall : ∀ s ∈ (resolve kind [] (Text.pieces kind.isSlash cs)).reverse, Clean s := by
    intro s hs
    exact clean_resolve (fun _ hs => absurd hs List.not_mem_nil) hpieces s (List.mem_reverse.mp hs)
  unfold segmentsOf
  dsimp only
  split
  · split
    · intro s hs
      obtain rfl := List.mem_singleton.mp hs
      exact clean_nil
    · intro s hs
      exact hall s ((List.dropWhile_suffix fun t => decide (t = [])).subset hs)
  · exact hall

/-- A route of clean segments, if it has segments. -/
def Route.Clean (route : Route) : Prop :=
  ∀ list, route = .segments list → ∀ s ∈ list, Url.Clean s

/-- A route of segments is as clean as they are. -/
theorem Route.clean_segments {list : List (List Char)} (h : ∀ s ∈ list, Url.Clean s) :
    (Route.segments list).Clean := by
  intro _ heq
  obtain rfl := Route.segments.inj heq
  exact h

/-- The path that a text stands for is clean, also the one of an empty text. -/
theorem clean_pathOf (kind : Kind) (cs : List Char) : (pathOf kind cs).Clean := by
  unfold pathOf
  split
  · refine Route.clean_segments ?_
    split
    · exact nofun
    · intro s hs
      obtain rfl := List.mem_singleton.mp hs
      exact clean_nil
  · exact Route.clean_segments (clean_segmentsOf kind _)

/-- An address with an authority has a clean path. -/
theorem clean_withAuthority {kind : Kind} {scheme cs : List Char} {ending : Ending} {url : Url}
    (h : withAuthority kind scheme ending cs = .ok url) : url.route.Clean := by
  unfold withAuthority at h
  simp only [throw_bind, guard_eq_ok_iff] at h
  obtain ⟨-, -, h⟩ := h
  -- the host and the port are read in one of two ways each, the path always in the same one
  split at h
  all_goals
    obtain ⟨host, -, h⟩ := bind_eq_ok_iff.mp h
    split at h
    all_goals
      obtain ⟨port, -, h⟩ := bind_eq_ok_iff.mp h
      obtain rfl := pure_eq_ok_iff.mp h
      exact clean_pathOf kind _

/-- The address of a file has a clean path. -/
theorem clean_fileUrl (ending : Ending) (host : Host) (cs : List Char) :
    (fileUrl ending host (segmentsOf .file cs)).route.Clean :=
  Route.clean_segments (clean_segmentsOf .file cs)

/-- The address of a file on a host has a clean path. -/
theorem clean_withFileHost {cs : List Char} {ending : Ending} {url : Url}
    (h : withFileHost ending cs = .ok url) : url.route.Clean := by
  unfold withFileHost at h
  dsimp only at h
  split at h
  · obtain rfl := pure_eq_ok_iff.mp h
    exact clean_fileUrl _ _ _
  split at h
  · obtain rfl := pure_eq_ok_iff.mp h
    exact clean_fileUrl _ _ _
  obtain ⟨host, -, h⟩ := bind_eq_ok_iff.mp h
  split at h
  · obtain rfl := pure_eq_ok_iff.mp h
    exact clean_fileUrl _ _ _
  · obtain rfl := pure_eq_ok_iff.mp h
    exact clean_fileUrl _ _ _

/-- Every address of the file scheme has a clean path. -/
theorem clean_ofFile {cs : List Char} {ending : Ending} {url : Url}
    (h : ofFile ending cs = .ok url) : url.route.Clean := by
  unfold ofFile at h
  dsimp only at h
  split at h
  · obtain rfl := Except.ok.inj h
    exact clean_fileUrl _ _ _
  split at h
  · split at h
    · obtain rfl := Except.ok.inj h
      exact clean_fileUrl _ _ _
    split at h
    · exact clean_withFileHost h
    · obtain rfl := Except.ok.inj h
      exact clean_fileUrl _ _ _
  · obtain rfl := Except.ok.inj h
    exact clean_fileUrl _ _ _

/-- Every address of a scheme of no special kind has a clean path. -/
theorem clean_ofOther {scheme cs : List Char} {ending : Ending} {url : Url}
    (h : ofOther scheme ending cs = .ok url) : url.route.Clean := by
  unfold ofOther at h
  dsimp only at h
  split at h
  · exact clean_withAuthority h
  · obtain rfl := Except.ok.inj h
    exact clean_pathOf .other ('/' :: _)
  · obtain rfl := Except.ok.inj h
    exact fun _ hplain => absurd hplain nofun

/-- **The segments of every address are clean.** -/
theorem clean_parse {text : String} {url : Url} (h : parse text = .ok url) : url.route.Clean := by
  unfold parse ofChars at h
  dsimp only at h
  split at h
  · exact absurd h nofun
  · split at h
    · exact clean_withAuthority h
    · exact clean_ofFile h
    · exact clean_ofOther h

/-- The text of a clean path falls into its segments between the slashes, behind an empty piece
before the first of them. -/
theorem pieces_chars {list : List (List Char)} (h : ∀ s ∈ list, Clean s) :
    Text.pieces (· = '/') (Route.segments list).chars = [] :: list := by
  have hnone : ∀ s ∈ list, ∀ c ∈ s, decide (c = '/') = false := by
    intro s hs c hc
    have hclean := h s hs c hc
    simp only [isPathChar, Bool.and_eq_true, decide_eq_true_eq] at hclean
    exact decide_eq_false hclean.2
  have hchars : (Route.segments list).chars = ['/'].intercalate ([] :: list) := by
    unfold Route.chars
    dsimp only
    clear h hnone
    induction list with
    | nil => rfl
    | cons s list ih =>
        rw [List.flatMap_cons, ih, List.intercalate_cons_cons]
        cases list with
        | nil => simp
        | cons t list => simp [List.intercalate_cons_cons]
  rw [hchars]
  refine Text.pieces_intercalate (by simp) (List.cons_ne_nil _ _) ?_
  exact List.forall_mem_cons.mpr ⟨fun _ hb => absurd hb List.not_mem_nil, hnone⟩

end Url

end AttestedModel
