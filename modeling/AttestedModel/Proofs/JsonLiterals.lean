import AttestedModel.Json.Printer
import AttestedModel.Json.Reader
import AttestedModel.Proofs.TextCodecs

/-!
# String literals

Between its quotes a literal is a row of pieces, and `PieceText` says how a piece may
be written: as a byte that stands for itself, or as an escape of one or of five
letters.  Whichever way they are written, the reader gathers the pieces
(`StringText.foldl`).

The printer gives characters.  The literal of a text is written in such pieces
(`stringText_quote`), which together `Spell` the bytes of the text.  No byte of a
character beyond ASCII can be taken for a quote, a backslash or a control character
(`eq_or_le_of_mem_utf8EncodeChar`).
-/

namespace AttestedModel.Json

/-- The bytes that write a piece of a literal. -/
inductive PieceText : Bytes → Piece → Prop
  | plain {b : UInt8} (space : 0x20 ≤ b) (quote : b ≠ 0x22) (backslash : b ≠ 0x5c) :
      PieceText [b] (.byte b)
  | letter {b c : UInt8} (stands : escaped? b = some c) : PieceText [0x5c, b] (.byte c)
  | unit {b₁ b₂ b₃ b₄ : UInt8} {d₁ d₂ d₃ d₄ : Nat} (first : hexValue? b₁ = some d₁)
      (second : hexValue? b₂ = some d₂) (third : hexValue? b₃ = some d₃)
      (fourth : hexValue? b₄ = some d₄) :
      PieceText [0x5c, 0x75, b₁, b₂, b₃, b₄] (.unit (((d₁ * 16 + d₂) * 16 + d₃) * 16 + d₄))

/-- The bytes that write a literal, and the text that it stands for, if it does. -/
def StringText (bs : Bytes) (text : Option String) : Prop :=
  ∃ texts pieces, List.Forall₂ PieceText texts pieces ∧
    bs = 0x22 :: (texts.flatten ++ [0x22]) ∧ textOfPieces pieces.reverse = text

variable {next : Next} {stack : List Frame}

/-- The reader takes a written piece in and stays inside the literal. -/
theorem PieceText.foldl {bs : Bytes} {piece : Piece} (h : PieceText bs piece)
    (before : List Piece) :
    bs.foldl Reader.step (.reading (.string before) next stack) =
      .reading (.string (piece :: before)) next stack := by
  cases h with
  | @plain b space quote backslash =>
      have hspace : ¬b < 0x20 := UInt8.not_lt.mpr space
      simp only [List.foldl_cons, List.foldl_nil, Reader.step, if_neg quote, if_neg backslash,
        if_neg hspace]
  | @letter b c stands =>
      have hother : b ≠ 0x75 := by
        intro hb
        rw [hb] at stands
        exact absurd stands nofun
      have hopen : Reader.step (.reading (.string before) next stack) 0x5c =
          .reading (.escape before) next stack := rfl
      rw [List.foldl_cons, hopen]
      simp only [List.foldl_cons, List.foldl_nil, Reader.step, if_neg hother, stands]
  | unit first second third fourth =>
      have hopen : [0x5c, 0x75].foldl Reader.step (.reading (.string before) next stack) =
          .reading (.unit before 4 0) next stack := rfl
      rw [show ∀ b₁ b₂ b₃ b₄ : UInt8, [0x5c, 0x75, b₁, b₂, b₃, b₄] =
        [0x5c, 0x75] ++ [b₁, b₂, b₃, b₄] from fun _ _ _ _ => rfl, List.foldl_append, hopen]
      simp [Reader.step, first, second, third, fourth]

/-- The pieces of a literal are gathered, last piece first. -/
theorem foldl_pieces {texts : List Bytes} {pieces : List Piece}
    (h : List.Forall₂ PieceText texts pieces) (before : List Piece) :
    texts.flatten.foldl Reader.step (.reading (.string before) next stack) =
      .reading (.string (pieces.reverse ++ before)) next stack := by
  induction h generalizing before with
  | nil => rfl
  | cons hpiece _ ih =>
      rw [List.flatten_cons, List.foldl_append, hpiece.foldl, ih, List.reverse_cons,
        List.append_assoc, List.singleton_append]

/-- **A literal is read as the text that it stands for**, where a string may come. -/
theorem StringText.foldl {bs : Bytes} {text : Option String} (h : StringText bs text)
    (hnext : between 0x22 next stack = .reading (.string []) next stack) :
    bs.foldl Reader.step (.reading .blank next stack) = acceptString text next stack := by
  obtain ⟨texts, pieces, hpieces, rfl, rfl⟩ := h
  have hopen : Reader.step (.reading .blank next stack) 0x22 = .reading (.string []) next stack :=
    hnext
  rw [List.foldl_cons, hopen, List.foldl_append, foldl_pieces hpieces, List.append_nil]
  rfl

/-- The bytes of characters. -/
def bytesOf (cs : List Char) : Bytes :=
  cs.flatMap String.utf8EncodeChar

@[simp] theorem bytesOf_nil : bytesOf [] = [] :=
  rfl

/-- The bytes of two texts, one behind the other, are those of the whole. -/
@[simp] theorem bytesOf_append (cs ds : List Char) : bytesOf (cs ++ ds) = bytesOf cs ++ bytesOf ds :=
  List.flatMap_append

/-- A first character of ASCII is a first byte. -/
theorem bytesOf_cons {c : Char} (h : c.toNat < 128) (cs : List Char) :
    bytesOf (c :: cs) = UInt8.ofNat c.toNat :: bytesOf cs := by
  have hbytes : String.utf8EncodeChar c = [UInt8.ofNat c.toNat] := by
    unfold String.utf8EncodeChar
    exact if_pos (by show c.toNat ≤ 127; omega)
  rw [bytesOf, List.flatMap_cons, hbytes]
  rfl

/-- A text is encoded character by character. -/
theorem encode_ofList (cs : List Char) : Text.Utf8.encode (String.ofList cs) = bytesOf cs := by
  rw [Text.Utf8.encode, String.toList_ofList]
  rfl

/-- The bytes of a character are itself, or lie beyond ASCII. -/
theorem eq_or_le_of_mem_utf8EncodeChar {c : Char} {b : UInt8} (h : b ∈ String.utf8EncodeChar c) :
    b.toNat = c.toNat ∨ 128 ≤ b.toNat := by
  have hbyte : ∀ n, (UInt8.ofNat n).toNat = n % 256 := fun n => UInt8.toNat_ofNat'
  unfold String.utf8EncodeChar at h
  dsimp only at h
  split at h
  · left
    rw [List.mem_singleton.mp h, hbyte]
    show c.toNat % 256 = c.toNat
    rename_i hsmall
    have hsmall : c.toNat ≤ 127 := hsmall
    omega
  · right
    split at h
    · rcases List.mem_pair.mp h with rfl | rfl <;> rw [hbyte] <;> omega
    · split at h
      · simp only [List.mem_cons, List.not_mem_nil, or_false] at h
        rcases h with rfl | rfl | rfl <;> rw [hbyte] <;> omega
      · simp only [List.mem_cons, List.not_mem_nil, or_false] at h
        rcases h with rfl | rfl | rfl | rfl <;> rw [hbyte] <;> omega

/-- The pieces of a literal, last piece first, stand for bytes. -/
def Spell (pieces : List Piece) (bs : Bytes) : Prop :=
  ∀ rest, bytesOfPieces pieces rest = some (bs ++ rest)

theorem spell_nil : Spell [] [] :=
  fun _ => rfl

/-- One more byte that stands for itself is spelt at the end. -/
theorem Spell.byte {pieces : List Piece} {bs : Bytes} (h : Spell pieces bs) (b : UInt8) :
    Spell (.byte b :: pieces) (bs ++ [b]) := by
  intro rest
  rw [bytesOfPieces, h, List.append_assoc]
  rfl

/-- Bytes that no literal escapes stand for themselves. -/
theorem Spell.bytes {pieces : List Piece} {bs : Bytes} (h : Spell pieces bs) (more : Bytes) :
    Spell ((more.map Piece.byte).reverse ++ pieces) (bs ++ more) := by
  induction more generalizing pieces bs with
  | nil => simpa using h
  | cons b more ih => simpa using ih (h.byte b)

/-- A code unit that is no half of a pair stands for its character. -/
theorem Spell.unit {pieces : List Piece} {bs : Bytes} (h : Spell pieces bs) {u : Nat}
    (hu : u < 0xd800) : Spell (.unit u :: pieces) (bs ++ String.utf8EncodeChar (Char.ofNat u)) := by
  intro rest
  have htrailing : isTrailing u = false := by
    simp only [isTrailing, Bool.and_eq_false_iff, decide_eq_false_iff_not]
    omega
  have hleading : isLeading u = false := by
    simp only [isLeading, Bool.and_eq_false_iff, decide_eq_false_iff_not]
    omega
  have hunit : bytesOfPieces (.unit u :: pieces) rest =
      bytesOfPieces pieces (String.utf8EncodeChar (Char.ofNat u) ++ rest) := by
    rw [bytesOfPieces.eq_def]
    simp only [htrailing, hleading, Bool.false_eq_true, if_false]
  rw [hunit, h, List.append_assoc]

/-- Pieces that spell the bytes of a text are read as the text. -/
theorem Spell.text {pieces : List Piece} {cs : List Char} (h : Spell pieces (bytesOf cs)) :
    textOfPieces pieces = some (String.ofList cs) := by
  rw [textOfPieces, h, List.append_nil, Option.bind_some, Text.Utf8.decode?, bytesOf,
    Text.Utf8.chars?_flatMap, Option.map_some]

/-- A hexadecimal digit has its value. -/
theorem hexValue?_digitChar {d : Nat} (h : d < 16) :
    hexValue? (UInt8.ofNat (Nat.digitChar d).toNat) = some d := by
  have all : ∀ d ∈ List.range 16, hexValue? (UInt8.ofNat (Nat.digitChar d).toNat) = some d := by
    decide
  exact all d (List.mem_range.mpr h)

/-- A hexadecimal digit is a byte. -/
theorem toNat_digitChar_lt {d : Nat} (h : d < 16) : (Nat.digitChar d).toNat < 128 := by
  have all : ∀ d ∈ List.range 16, (Nat.digitChar d).toNat < 128 := by decide
  exact all d (List.mem_range.mpr h)

/-- The escape of a control character is a piece with its code unit. -/
theorem pieceText_unit {u : Nat} (hu : u < 256) :
    PieceText (bytesOf
      ['\\', 'u', '0', '0', Nat.digitChar (u / 16), Nat.digitChar (u % 16)]) (.unit u) := by
  have hhigh : u / 16 < 16 := by omega
  have hlow : u % 16 < 16 := by omega
  have hvalue : ((0 * 16 + 0) * 16 + u / 16) * 16 + u % 16 = u := by omega
  have hzero : hexValue? 0x30 = some 0 := rfl
  have hpiece := PieceText.unit hzero hzero (hexValue?_digitChar hhigh) (hexValue?_digitChar hlow)
  rw [hvalue] at hpiece
  rw [bytesOf_cons (by decide), bytesOf_cons (by decide), bytesOf_cons (by decide),
    bytesOf_cons (by decide), bytesOf_cons (toNat_digitChar_lt hhigh),
    bytesOf_cons (toNat_digitChar_lt hlow)]
  exact hpiece

/-- Bytes are written as pieces that spell other bytes, whatever is written before. -/
def Writes (written bs : Bytes) : Prop :=
  ∃ texts pieces, List.Forall₂ PieceText texts pieces ∧ texts.flatten = written ∧
    ∀ before front, Spell before front → Spell (pieces.reverse ++ before) (front ++ bs)

theorem writes_nil : Writes [] [] :=
  ⟨[], [], .nil, rfl, fun before front h => by simpa using h⟩

/-- What writes two runs of bytes writes them together. -/
theorem Writes.append {written bs written' bs' : Bytes} (h : Writes written bs)
    (h' : Writes written' bs') : Writes (written ++ written') (bs ++ bs') := by
  obtain ⟨texts, pieces, hpieces, rfl, hspell⟩ := h
  obtain ⟨texts', pieces', hpieces', rfl, hspell'⟩ := h'
  refine ⟨texts ++ texts', pieces ++ pieces', List.rel_append hpieces hpieces', by simp, ?_⟩
  intro before front hfront
  have hboth := hspell' _ _ (hspell before front hfront)
  rwa [← List.append_assoc, ← List.reverse_append, List.append_assoc] at hboth

/-- An escape of one letter writes the byte that it stands for. -/
theorem writes_letter {b c : UInt8} (h : escaped? b = some c) : Writes [0x5c, b] [c] :=
  ⟨[[0x5c, b]], [.byte c], .cons (.letter h) .nil, rfl, fun _ _ hfront => hfront.byte c⟩

/-- Bytes that no literal escapes write themselves. -/
theorem writes_plain {bs : Bytes} (h : ∀ b ∈ bs, 32 ≤ b.toNat ∧ b.toNat ≠ 34 ∧ b.toNat ≠ 92) :
    Writes bs bs := by
  refine ⟨bs.map fun b => [b], bs.map .byte, ?_, by simp [← List.flatMap_def], fun _ _ hfront =>
    hfront.bytes bs⟩
  rw [List.forall₂_map_left_iff, List.forall₂_map_right_iff, List.forall₂_same]
  intro b hb
  obtain ⟨hspace, hquote, hbackslash⟩ := h b hb
  refine .plain (UInt8.le_iff_toNat_le.mpr hspace) ?_ ?_
  · exact fun heq => hquote (by rw [heq]; rfl)
  · exact fun heq => hbackslash (by rw [heq]; rfl)

/-- A character, escaped or not, is written as itself. -/
theorem writes_escape (c : Char) : Writes (bytesOf (escape c)) (String.utf8EncodeChar c) := by
  unfold escape
  split
  · subst c
    exact writes_letter rfl
  split
  · subst c
    exact writes_letter rfl
  split
  · subst c
    exact writes_letter rfl
  split
  · subst c
    exact writes_letter rfl
  split
  · subst c
    exact writes_letter rfl
  split
  · rename_i hc
    obtain rfl : c = '\x08' := Char.toNat_inj.mp hc
    exact writes_letter rfl
  split
  · rename_i hc
    obtain rfl : c = '\x0c' := Char.toNat_inj.mp hc
    exact writes_letter rfl
  split
  · refine ⟨[_], [.unit c.toNat], .cons (pieceText_unit (by omega)) .nil, by simp, ?_⟩
    intro before front hfront
    have hspell := hfront.unit (u := c.toNat) (by omega)
    rwa [Char.ofNat_toNat] at hspell
  · -- no escape: none of the character's bytes is one that a literal would stop at
    rename_i hquote hbackslash _ _ _ _ _ hcontrol
    have hbytes : bytesOf [c] = String.utf8EncodeChar c := by simp [bytesOf]
    rw [hbytes]
    refine writes_plain fun b hb => ?_
    have hne : c.toNat ≠ 34 ∧ c.toNat ≠ 92 :=
      ⟨fun h34 => hquote (Char.toNat_inj.mp h34), fun h92 => hbackslash (Char.toNat_inj.mp h92)⟩
    have hbyte := eq_or_le_of_mem_utf8EncodeChar hb
    omega

/-- A text that is escaped character by character writes the bytes of the text. -/
theorem writes_flatMap_escape (cs : List Char) : Writes (bytesOf (cs.flatMap escape)) (bytesOf cs) := by
  induction cs with
  | nil => exact writes_nil
  | cons c cs ih =>
      rw [List.flatMap_cons, bytesOf_append]
      exact (writes_escape c).append ih

/-- **The literal of a text** is one of the grammar, and stands for the text. -/
theorem stringText_quote (text : List Char) :
    StringText (bytesOf (quote text)) (some (String.ofList text)) := by
  obtain ⟨texts, pieces, hpieces, htexts, hspell⟩ := writes_flatMap_escape text
  refine ⟨texts, pieces, hpieces, ?_, ?_⟩
  · have hquote : quote text = '"' :: (text.flatMap escape ++ ['"']) := rfl
    rw [hquote, bytesOf_cons (by decide), bytesOf_append, htexts, bytesOf_cons (by decide)]
    rfl
  · have hall := hspell [] [] spell_nil
    rw [List.append_nil] at hall
    exact hall.text

end AttestedModel.Json
