import AttestedModel.Proofs.JsonGrammar

/-!
# Tokens that have been begun

A number or a literal that the reader has taken in up to some byte is the beginning of a text of the
grammar.  `NumberFront` has one constructor for each part of a number, `LiteralFront` one for
each state inside a literal, and a byte that the reader does not refuse leads from one such
beginning to a longer one (`NumberFront.step`, `LiteralFront.step`).  Where the token may
end, what was taken in is a whole text (`NumberFront.finish`).
-/

namespace AttestedModel.Json

/-- The bytes of a sign in front of a number. -/
def minusText (negative : Bool) : Bytes :=
  if negative then [0x2d] else []

/-- The bytes of a point and the digits behind it, if there are any. -/
def fractionText (ds : List Nat) : Bytes :=
  if ds.isEmpty then [] else 0x2e :: ds.map digitByte

/-- The bytes of the digits before the point, with the sign in front of them. -/
inductive WholeText : Bytes → NumeralPart → Bool → List Nat → Prop
  | zero (negative : Bool) : WholeText (minusText negative ++ [digitByte 0]) .zero negative [0]
  | whole (negative : Bool) {d : Nat} {ds : List Nat} (first : d ≠ 0)
      (digits : ∀ e ∈ d :: ds, e < 10) :
      WholeText (minusText negative ++ (d :: ds).map digitByte) .whole negative (d :: ds)

/-- The bytes of a number that has been begun. -/
inductive NumberFront : Bytes → NumeralPart → Numeral → Prop
  | sign : NumberFront [0x2d] .sign
      { negative := true, whole := [], fraction := [], exponent := none }
  | whole {bs : Bytes} {part : NumeralPart} {negative : Bool} {ds : List Nat}
      (text : WholeText bs part negative ds) :
      NumberFront bs part { negative, whole := ds.reverse, fraction := [], exponent := none }
  | point {bs : Bytes} {part : NumeralPart} {negative : Bool} {ds : List Nat}
      (text : WholeText bs part negative ds) :
      NumberFront (bs ++ [0x2e]) .point
        { negative, whole := ds.reverse, fraction := [], exponent := none }
  | fraction {bs : Bytes} {part : NumeralPart} {negative : Bool} {ds fs : List Nat}
      (text : WholeText bs part negative ds) (digits : ∀ f ∈ fs, f < 10) (ne_nil : fs ≠ []) :
      NumberFront (bs ++ fractionText fs) .fraction
        { negative, whole := ds.reverse, fraction := fs.reverse, exponent := none }
  | mark {bs : Bytes} {part : NumeralPart} {negative : Bool} {ds fs : List Nat} {mark : UInt8}
      (text : WholeText bs part negative ds) (digits : ∀ f ∈ fs, f < 10)
      (letter : mark = 0x65 ∨ mark = 0x45) :
      NumberFront (bs ++ fractionText fs ++ [mark]) .exponentMark
        { negative, whole := ds.reverse, fraction := fs.reverse, exponent := some (false, []) }
  | exponentSign {bs sign : Bytes} {part : NumeralPart} {negative below : Bool} {ds fs : List Nat}
      {mark : UInt8} (text : WholeText bs part negative ds) (digits : ∀ f ∈ fs, f < 10)
      (letter : mark = 0x65 ∨ mark = 0x45) (sign_text : SignText sign below) :
      NumberFront (bs ++ fractionText fs ++ mark :: sign) .exponentSign
        { negative, whole := ds.reverse, fraction := fs.reverse, exponent := some (below, []) }
  | exponent {bs sign : Bytes} {part : NumeralPart} {negative below : Bool}
      {ds fs es : List Nat} {mark : UInt8} (text : WholeText bs part negative ds)
      (digits : ∀ f ∈ fs, f < 10) (letter : mark = 0x65 ∨ mark = 0x45)
      (sign_text : SignText sign below) (exponent_digits : ∀ e ∈ es, e < 10) (ne_nil : es ≠ []) :
      NumberFront (bs ++ fractionText fs ++ mark :: (sign ++ es.map digitByte)) .exponent
        { negative, whole := ds.reverse, fraction := fs.reverse,
          exponent := some (below, es.reverse) }

/-- A byte that is a digit to the reader is the byte of a digit. -/
theorem exists_digitByte {b : UInt8} (h : (0x30 ≤ b && b ≤ 0x39) = true) :
    ∃ d < 10, b = digitByte d ∧ b.toNat - 0x30 = d := by
  simp only [Bool.and_eq_true, decide_eq_true_eq, UInt8.le_iff_toNat_le, UInt8.reduceToNat] at h
  refine ⟨b.toNat - 48, by omega, ?_, rfl⟩
  rw [← UInt8.toNat_inj, toNat_digitByte (by omega)]
  omega

/-- Before the point, a number is a zero or has begun with another digit. -/
theorem WholeText.part_eq {bs : Bytes} {part : NumeralPart} {negative : Bool} {ds : List Nat}
    (h : WholeText bs part negative ds) : part = .zero ∨ part = .whole := by
  cases h
  · exact .inl rfl
  · exact .inr rfl

/-- There are digits before the point, with no zero in front, and they are what was read. -/
theorem WholeText.digits {bs : Bytes} {part : NumeralPart} {negative : Bool} {ds : List Nat}
    (h : WholeText bs part negative ds) :
    (∀ d ∈ ds, d < 10) ∧ ds ≠ [] ∧ (ds.head? = some 0 → ds = [0]) ∧
      bs = minusText negative ++ ds.map digitByte := by
  cases h with
  | zero => exact ⟨by simp, by simp, fun _ => rfl, rfl⟩
  | whole negative first digits =>
      exact ⟨digits, by simp, fun hzero => absurd (by simpa using hzero) first, rfl⟩

/-- A number that may end is written as the grammar has it. -/
theorem NumberFront.finish {bs : Bytes} {part : NumeralPart} {m n : Numeral}
    (h : NumberFront bs part m) (hfinish : finishNumber? part m = some n) : NumeralText bs n := by
  cases h with
  | sign => exact absurd hfinish.symm (Option.some_ne_none n)
  | @whole bs part negative ds text =>
      obtain ⟨hdigits, hne, hzero, rfl⟩ := text.digits
      have hn : n = { negative, whole := ds, fraction := [], exponent := none } := by
        rcases text.part_eq with rfl | rfl <;> simpa [finishNumber?] using hfinish.symm
      subst hn
      exact ⟨⟨hdigits, hne, hzero, by simp, by simp, by simp⟩, [], .absent, by simp [minusText]⟩
  | point => exact absurd hfinish.symm (Option.some_ne_none n)
  | @fraction bs part negative ds fs text digits ne_nil =>
      obtain ⟨hdigits, hne, hzero, rfl⟩ := text.digits
      have hn : n = { negative, whole := ds, fraction := fs, exponent := none } := by
        simpa [finishNumber?] using hfinish.symm
      subst hn
      exact ⟨⟨hdigits, hne, hzero, digits, by simp, by simp⟩, [], .absent,
        by simp [minusText, fractionText]⟩
  | mark => exact absurd hfinish.symm (Option.some_ne_none n)
  | exponentSign => exact absurd hfinish.symm (Option.some_ne_none n)
  | @exponent bs sign part negative below ds fs es mark text digits letter sign_text exponent_digits
      ne_nil =>
      obtain ⟨hdigits, hne, hzero, rfl⟩ := text.digits
      have hn : n = { negative, whole := ds, fraction := fs, exponent := some (below, es) } := by
        simpa [finishNumber?] using hfinish.symm
      subst hn
      refine ⟨⟨hdigits, hne, hzero, digits, ?_, ?_⟩, _, .present es letter sign_text,
        by simp [minusText, fractionText]⟩
      · intro below' es' heq
        obtain ⟨rfl, rfl⟩ := Prod.mk.inj (Option.some.inj heq)
        exact exponent_digits
      · intro below' es' heq
        obtain ⟨rfl, rfl⟩ := Prod.mk.inj (Option.some.inj heq)
        exact ne_nil

theorem forall_mem_concat {α : Type} {P : α → Prop} {as : List α} {a : α} (h : ∀ b ∈ as, P b)
    (ha : P a) : ∀ b ∈ as ++ [a], P b :=
  List.forall_mem_append.mpr ⟨h, List.forall_mem_singleton.mpr ha⟩

/-- A digit behind a zero in front is refused. -/
theorem continue_zero {d : Nat} (h : d < 10) (m : Numeral) :
    continueNumber .zero m (digitByte d) = none := by
  interval_cases d <;> rfl

/-- A digit that continues a number makes a longer beginning of one. -/
theorem NumberFront.step_digit {bs : Bytes} {part part' : NumeralPart} {m m' : Numeral} {d : Nat}
    (h : NumberFront bs part m) (hd : d < 10)
    (hstep : continueNumber part m (digitByte d) = some (part', m')) :
    NumberFront (bs ++ [digitByte d]) part' m' := by
  have hone : ∀ e ∈ [d], e < 10 := List.forall_mem_singleton.mpr hd
  cases h with
  | sign =>
      rw [continue_sign hd] at hstep
      obtain ⟨rfl, rfl⟩ := Prod.mk.inj (Option.some.inj hstep)
      by_cases hzero : d = 0
      · subst hzero
        exact .whole (.zero true)
      · rw [if_neg hzero]
        exact .whole (.whole true hzero hone)
  | @whole bs part negative ds text =>
      cases text with
      | zero => exact absurd (hstep.symm.trans (continue_zero hd _)) (Option.some_ne_none _)
      | @whole negative e ds first digits =>
          rw [continue_whole hd] at hstep
          obtain ⟨rfl, rfl⟩ := Prod.mk.inj (Option.some.inj hstep)
          have hmore := WholeText.whole negative first (forall_mem_concat digits hd)
          simpa using NumberFront.whole hmore
  | @point bs part negative ds text =>
      rw [continue_point hd] at hstep
      obtain ⟨rfl, rfl⟩ := Prod.mk.inj (Option.some.inj hstep)
      simpa [fractionText] using NumberFront.fraction text hone (List.cons_ne_nil d [])
  | @fraction bs part negative ds fs text digits ne_nil =>
      rw [continue_fraction hd] at hstep
      obtain ⟨rfl, rfl⟩ := Prod.mk.inj (Option.some.inj hstep)
      simpa [fractionText, ne_nil] using
        NumberFront.fraction text (forall_mem_concat digits hd) (by simp)
  | @mark bs part negative ds fs mark text digits letter =>
      rw [continue_exponentMark hd] at hstep
      obtain ⟨rfl, rfl⟩ := Prod.mk.inj (Option.some.inj hstep)
      simpa using NumberFront.exponent text digits letter .omitted hone (List.cons_ne_nil d [])
  | @exponentSign bs sign part negative below ds fs mark text digits letter sign_text =>
      have hdigit := continue_exponent hd
        { negative, whole := ds.reverse, fraction := fs.reverse, exponent := none } (.inl rfl)
        below []
      obtain ⟨rfl, rfl⟩ := Prod.mk.inj (Option.some.inj (hdigit.symm.trans hstep))
      simpa using NumberFront.exponent text digits letter sign_text hone (List.cons_ne_nil d [])
  | @exponent bs sign part negative below ds fs es mark text digits letter sign_text exponent_digits
      ne_nil =>
      have hdigit := continue_exponent hd
        { negative, whole := ds.reverse, fraction := fs.reverse, exponent := none } (.inr rfl)
        below es.reverse
      obtain ⟨rfl, rfl⟩ := Prod.mk.inj (Option.some.inj (hdigit.symm.trans hstep))
      simpa using NumberFront.exponent text digits letter sign_text
        (forall_mem_concat exponent_digits hd) (by simp)

/-- Where digits have to follow or nothing else may, any other byte is refused. -/
theorem continue_other {part : NumeralPart}
    (hpart : part = .sign ∨ part = .point ∨ part = .exponentSign ∨ part = .exponent) {b : UInt8}
    (hother : ¬(0x30 ≤ b && b ≤ 0x39) = true) (m : Numeral) : continueNumber part m b = none := by
  obtain ⟨negative, whole, fraction, exponent⟩ := m
  rcases hpart with rfl | rfl | rfl | rfl <;> cases exponent <;>
    simp only [continueNumber, if_neg hother]

/-- Behind the digits before the point there may be a point or the mark of an exponent. -/
theorem WholeText.continue_other {bs : Bytes} {part : NumeralPart} {negative : Bool}
    {ds : List Nat} (h : WholeText bs part negative ds) {b : UInt8}
    (hother : ¬(0x30 ≤ b && b ≤ 0x39) = true) (m : Numeral) :
    continueNumber part m b =
      if b = 0x2e then some (.point, m)
      else if b = 0x65 ∨ b = 0x45 then
        some (.exponentMark, { m with exponent := some (false, []) })
      else none := by
  rcases h.part_eq with rfl | rfl
  · rfl
  · simp only [continueNumber, if_neg hother]

/-- Any other byte that continues a number makes a longer beginning as well. -/
theorem NumberFront.step_other {bs : Bytes} {part part' : NumeralPart} {m m' : Numeral} {b : UInt8}
    (h : NumberFront bs part m) (hother : ¬(0x30 ≤ b && b ≤ 0x39) = true)
    (hstep : continueNumber part m b = some (part', m')) : NumberFront (bs ++ [b]) part' m' := by
  have hrefused : ¬(part = .sign ∨ part = .point ∨ part = .exponentSign ∨ part = .exponent) :=
    fun hpart => Option.some_ne_none _ (hstep.symm.trans (continue_other hpart hother m))
  cases h with
  | sign => exact absurd (.inl rfl) hrefused
  | @whole bs part negative ds text =>
      rw [text.continue_other hother] at hstep
      split at hstep
      · rename_i hpoint
        obtain ⟨rfl, rfl⟩ := Prod.mk.inj (Option.some.inj hstep)
        exact hpoint ▸ .point text
      split at hstep
      · rename_i letter
        obtain ⟨rfl, rfl⟩ := Prod.mk.inj (Option.some.inj hstep)
        have hnone : ∀ f ∈ ([] : List Nat), f < 10 := fun _ hf => absurd hf List.not_mem_nil
        simpa [fractionText] using NumberFront.mark text hnone letter
      · exact absurd hstep.symm (Option.some_ne_none _)
  | point => exact absurd (.inr (.inl rfl)) hrefused
  | @fraction bs part negative ds fs text digits ne_nil =>
      simp only [continueNumber, if_neg hother] at hstep
      split at hstep
      · rename_i letter
        obtain ⟨rfl, rfl⟩ := Prod.mk.inj (Option.some.inj hstep)
        exact .mark text digits letter
      · exact absurd hstep.symm (Option.some_ne_none _)
  | @mark bs part negative ds fs mark text digits letter =>
      have hbytes : bs ++ fractionText fs ++ [mark] ++ [b] =
          bs ++ fractionText fs ++ mark :: [b] := by simp
      rw [hbytes]
      simp only [continueNumber, if_neg hother] at hstep
      split at hstep
      · rename_i hplus
        obtain ⟨rfl, rfl⟩ := Prod.mk.inj (Option.some.inj hstep)
        exact .exponentSign text digits letter (hplus ▸ .plus)
      split at hstep
      · rename_i hminus
        obtain ⟨rfl, rfl⟩ := Prod.mk.inj (Option.some.inj hstep)
        exact .exponentSign text digits letter (hminus ▸ .minus)
      · exact absurd hstep.symm (Option.some_ne_none _)
  | exponentSign => exact absurd (.inr (.inr (.inl rfl))) hrefused
  | exponent => exact absurd (.inr (.inr (.inr rfl))) hrefused

/-- A byte that continues a number leads to a longer beginning of one. -/
theorem NumberFront.step {bs : Bytes} {part part' : NumeralPart} {m m' : Numeral} {b : UInt8}
    (h : NumberFront bs part m) (hstep : continueNumber part m b = some (part', m')) :
    NumberFront (bs ++ [b]) part' m' := by
  by_cases hb : (0x30 ≤ b && b ≤ 0x39) = true
  · obtain ⟨d, hd, rfl, -⟩ := exists_digitByte hb
    exact h.step_digit hd hstep
  · exact h.step_other hb hstep

/-- Hexadecimal digits and their number. -/
inductive HexText : Bytes → Nat → Prop
  | nil : HexText [] 0
  | snoc {bs : Bytes} {value : Nat} {b : UInt8} {d : Nat} (before : HexText bs value)
      (digit : hexValue? b = some d) : HexText (bs ++ [b]) (value * 16 + d)

/-- Four digits behind a backslash and a `u` are an escape. -/
theorem HexText.pieceText {bs : Bytes} {value : Nat} (h : HexText bs value)
    (hlength : bs.length = 4) : PieceText (0x5c :: 0x75 :: bs) (.unit value) := by
  cases h with
  | nil => exact absurd hlength nofun
  | snoc h fourth =>
      cases h with
      | nil => exact absurd hlength nofun
      | snoc h third =>
          cases h with
          | nil => exact absurd hlength nofun
          | snoc h second =>
              cases h with
              | nil => exact absurd hlength nofun
              | snoc h first =>
                  cases h with
                  | nil => simpa using PieceText.unit first second third fourth
                  | snoc h fifth => simp at hlength

/-- The bytes of a literal that has been begun. -/
inductive LiteralFront : Bytes → Scan → Prop
  | pieces {texts : List Bytes} {pieces : List Piece} (written : List.Forall₂ PieceText texts pieces) :
      LiteralFront (0x22 :: texts.flatten) (.string pieces.reverse)
  | escape {texts : List Bytes} {pieces : List Piece} (written : List.Forall₂ PieceText texts pieces) :
      LiteralFront (0x22 :: (texts.flatten ++ [0x5c])) (.escape pieces.reverse)
  | unit {texts : List Bytes} {pieces : List Piece} (written : List.Forall₂ PieceText texts pieces)
      {digits : Bytes} {value : Nat} (hex : HexText digits value) (short : digits.length < 4) :
      LiteralFront (0x22 :: (texts.flatten ++ 0x5c :: 0x75 :: digits))
        (.unit pieces.reverse (4 - digits.length) value)

/-- The pieces of a literal and one piece more are the beginning of a literal. -/
theorem LiteralFront.concat {texts : List Bytes} {pieces : List Piece} {text : Bytes}
    {piece : Piece} (h : List.Forall₂ PieceText texts pieces) (hpiece : PieceText text piece) :
    LiteralFront (0x22 :: (texts.flatten ++ text)) (.string (piece :: pieces.reverse)) := by
  have hmore := LiteralFront.pieces (List.rel_append h (.cons hpiece .nil))
  simpa using hmore

/-- What a byte makes of a literal that has been begun: it ends there, it goes on, or it is
refused. -/
inductive LiteralStep (bs : Bytes) (next : Next) (stack : List Frame) (r : Reader) : Prop
  | ended {text : Option String} (literal : StringText bs text)
      (accepted : r = acceptString text next stack)
  | continued {scan : Scan} (front : LiteralFront bs scan) (reading : r = .reading scan next stack)
  | refused (refused : r = .refused)

/-- **A byte inside a literal** makes a longer beginning, ends the literal or is refused. -/
theorem LiteralFront.step {bs : Bytes} {scan : Scan} (h : LiteralFront bs scan) (next : Next)
    (stack : List Frame) (b : UInt8) :
    LiteralStep (bs ++ [b]) next stack (Reader.step (.reading scan next stack) b) := by
  cases h with
  | @pieces texts pieces written =>
      simp only [Reader.step]
      split
      · rename_i hquote
        exact .ended ⟨texts, pieces, written, by simp [hquote], rfl⟩ rfl
      split
      · rename_i hbackslash
        exact .continued (hbackslash ▸ .escape written) rfl
      split
      · exact .refused rfl
      · rename_i hquote hbackslash hspace
        exact .continued (.concat written (.plain (UInt8.not_lt.mp hspace) hquote hbackslash)) rfl
  | @escape texts pieces written =>
      simp only [Reader.step]
      split
      · rename_i hunit
        have hfront : LiteralFront (0x22 :: (texts.flatten ++ [0x5c]) ++ [b])
            (.unit pieces.reverse 4 0) := by
          simpa [hunit] using LiteralFront.unit written .nil (by simp)
        exact .continued hfront rfl
      · split
        · rename_i c hletter
          refine .continued ?_ rfl
          simpa using LiteralFront.concat written (.letter hletter)
        · exact .refused rfl
  | @unit texts pieces written digits value hex short =>
      simp only [Reader.step]
      split
      · exact .refused rfl
      · rename_i d hdigit
        have hmore := hex.snoc hdigit
        split
        · have hfour : (digits ++ [b]).length = 4 := by
            rw [List.length_append, List.length_singleton]
            omega
          refine .continued ?_ rfl
          simpa using LiteralFront.concat written (hmore.pieceText hfour)
        · have hshort : (digits ++ [b]).length < 4 := by
            rw [List.length_append, List.length_singleton]
            omega
          have hmissing : 4 - (digits ++ [b]).length = 4 - digits.length - 1 := by
            rw [List.length_append, List.length_singleton]
            omega
          refine .continued ?_ rfl
          rw [← hmissing]
          simpa using LiteralFront.unit written hmore hshort

end AttestedModel.Json
