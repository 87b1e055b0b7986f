import AttestedModel.Proofs.JsonLiterals

/-!
# Numerals

A numeral is `Proper` if a number of JSON can have its digits, and `NumeralText` says how
it may be written: its exponent with either mark, and with a plus sign or without one.
The reader gathers the digits of each part last digit first; three runs of digits, one
for each part, are instances of one lemma (`foldl_digits`).  What the text of a numeral
leads to is an unfinished number, which only the next byte, or the end of the input,
finishes (`NumeralText.foldl`).

The printer writes proper numerals in one of these ways (`numeralText_chars`).
-/

namespace AttestedModel.Json

/-- Digits where digits are meant, at least one before the point and in an exponent, and no
superfluous zero in front. -/
structure Numeral.Proper (n : Numeral) : Prop where
  whole_digits : ∀ d ∈ n.whole, d < 10
  whole_ne_nil : n.whole ≠ []
  no_zero_in_front : n.whole.head? = some 0 → n.whole = [0]
  fraction_digits : ∀ d ∈ n.fraction, d < 10
  exponent_digits : ∀ sign ds, n.exponent = some (sign, ds) → ∀ d ∈ ds, d < 10
  exponent_ne_nil : ∀ sign ds, n.exponent = some (sign, ds) → ds ≠ []

/-- The byte of a decimal digit. -/
def digitByte (d : Nat) : UInt8 :=
  UInt8.ofNat (Nat.digitChar d).toNat

/-- The bytes that write the sign of an exponent. -/
inductive SignText : Bytes → (negative : Bool) → Prop
  | omitted : SignText [] false
  | plus : SignText [0x2b] false
  | minus : SignText [0x2d] true

/-- The bytes that write an exponent, if there is one. -/
inductive ExponentText : Bytes → Option (Bool × List Nat) → Prop
  | absent : ExponentText [] none
  | present {mark : UInt8} {sign : Bytes} {negative : Bool} (ds : List Nat)
      (mark_letter : mark = 0x65 ∨ mark = 0x45) (sign_text : SignText sign negative) :
      ExponentText (mark :: (sign ++ ds.map digitByte)) (some (negative, ds))

/-- The bytes that write a numeral. -/
structure NumeralText (bs : Bytes) (n : Numeral) : Prop where
  proper : n.Proper
  text : ∃ exponent, ExponentText exponent n.exponent ∧
    bs = (if n.negative then [0x2d] else []) ++ n.whole.map digitByte ++
      (if n.fraction.isEmpty then [] else 0x2e :: n.fraction.map digitByte) ++ exponent

/-- The bytes of the digits follow that of zero. -/
theorem toNat_digitByte {d : Nat} (h : d < 10) : (digitByte d).toNat = 48 + d := by
  have all : ∀ d ∈ List.range 10, (digitByte d).toNat = 48 + d := by decide
  exact all d (List.mem_range.mpr h)

variable {next : Next} {stack : List Frame}

/-- Inside a number, a byte that continues it leads to the part that follows. -/
theorem step_number {part part' : NumeralPart} {m m' : Numeral} {b : UInt8}
    (h : continueNumber part m b = some (part', m')) :
    Reader.step (.reading (.number part m) next stack) b = .reading (.number part' m') next stack := by
  simp only [Reader.step, h]

/-- A run of digits is taken in by a part that takes digits.  `m` is the numeral by the digits of
the part so far, last digit first. -/
theorem foldl_digits {part : NumeralPart} {m : List Nat → Numeral}
    (h : ∀ d < 10, ∀ ds, continueNumber part (m ds) (digitByte d) = some (part, m (d :: ds)))
    (es : List Nat) {ds : List Nat} (hds : ∀ d ∈ ds, d < 10) :
    (ds.map digitByte).foldl Reader.step (.reading (.number part (m es)) next stack) =
      .reading (.number part (m (ds.reverse ++ es))) next stack := by
  induction ds generalizing es with
  | nil => rfl
  | cons d ds ih =>
      have hd := hds d List.mem_cons_self
      have hstep := @step_number next stack _ _ _ _ _ (h d hd es)
      rw [List.map_cons, List.foldl_cons, hstep,
        ih (d :: es) fun e he => hds e (List.mem_cons_of_mem d he), List.reverse_cons,
        List.append_assoc, List.singleton_append]

/-- A digit is a digit to the reader. -/
theorem isDigit_digitByte {d : Nat} (h : d < 10) :
    (0x30 ≤ digitByte d && digitByte d ≤ 0x39) = true := by
  have hbyte := toNat_digitByte h
  simp only [Bool.and_eq_true, decide_eq_true_eq, UInt8.le_iff_toNat_le, UInt8.reduceToNat]
  omega

/-- The reader finds the digit in its byte. -/
theorem value_digitByte {d : Nat} (h : d < 10) : (digitByte d).toNat - 0x30 = d := by
  rw [toNat_digitByte h, Nat.add_sub_cancel_left]

-- what the reader makes of a digit in each part of a number

section Parts

variable {d : Nat} (h : d < 10) (m : Numeral)

include h

/-- A digit begins a number, and zero cannot be followed by more digits. -/
theorem startValue_digit :
    startValue (digitByte d) next stack =
      .reading (.number (if d = 0 then .zero else .whole)
        { negative := false, whole := [d], fraction := [], exponent := none }) next stack := by
  interval_cases d <;> rfl

/-- Behind a sign, a digit begins the number in the same way. -/
theorem continue_sign :
    continueNumber .sign m (digitByte d) =
      some (if d = 0 then .zero else .whole, { m with whole := [d] }) := by
  simp only [continueNumber, isDigit_digitByte h, value_digitByte h, if_true]

/-- Before the point, a further digit is taken in. -/
theorem continue_whole :
    continueNumber .whole m (digitByte d) = some (.whole, { m with whole := d :: m.whole }) := by
  simp only [continueNumber, isDigit_digitByte h, value_digitByte h, if_true]

/-- Behind the point, a digit begins the fraction. -/
theorem continue_point :
    continueNumber .point m (digitByte d) = some (.fraction, { m with fraction := [d] }) := by
  simp only [continueNumber, isDigit_digitByte h, value_digitByte h, if_true]

/-- Behind the first digit of a fraction, a further one is taken in. -/
theorem continue_fraction :
    continueNumber .fraction m (digitByte d) =
      some (.fraction, { m with fraction := d :: m.fraction }) := by
  simp only [continueNumber, isDigit_digitByte h, value_digitByte h, if_true]

/-- A digit behind the mark of an exponent begins an exponent without a sign. -/
theorem continue_exponentMark :
    continueNumber .exponentMark m (digitByte d) =
      some (.exponent, { m with exponent := some (false, [d]) }) := by
  simp only [continueNumber, isDigit_digitByte h, value_digitByte h, if_true]

/-- An exponent goes on with every digit. -/
theorem continue_exponent {part : NumeralPart} (hpart : part = .exponentSign ∨ part = .exponent)
    (sign : Bool) (ds : List Nat) :
    continueNumber part { m with exponent := some (sign, ds) } (digitByte d) =
      some (.exponent, { m with exponent := some (sign, d :: ds) }) := by
  rcases hpart with rfl | rfl <;>
    simp only [continueNumber, isDigit_digitByte h, value_digitByte h, if_true]

end Parts

/-- Where a value may come, every byte but white space and a closing bracket starts one. -/
theorem between_eq_startValue (hnext : next = .value ∨ next = .firstItem) {b : UInt8}
    (hspace : isSpace b = false) (hclose : b ≠ 0x5d) :
    between b next stack = startValue b next stack := by
  rcases hnext with rfl | rfl
  · simp only [between, hspace, Bool.false_eq_true, if_false]
  · simp only [between, hspace, Bool.false_eq_true, if_false, if_neg hclose]

/-- Where a value may come, a digit begins a number. -/
theorem between_digit (hnext : next = .value ∨ next = .firstItem) {d : Nat} (h : d < 10) :
    between (digitByte d) next stack =
      .reading (.number (if d = 0 then .zero else .whole)
        { negative := false, whole := [d], fraction := [], exponent := none }) next stack := by
  have hother : isSpace (digitByte d) = false ∧ digitByte d ≠ 0x5d := by
    interval_cases d <;> decide
  rw [between_eq_startValue hnext hother.1 hother.2, startValue_digit h]

/-- The sign and the digits before the point are taken in. -/
theorem foldl_whole (hnext : next = .value ∨ next = .firstItem) {negative : Bool} {ds : List Nat}
    (hds : ∀ d ∈ ds, d < 10) (hne : ds ≠ []) (hzero : ds.head? = some 0 → ds = [0]) :
    ((if negative then [0x2d] else []) ++ ds.map digitByte).foldl Reader.step
        (.reading .blank next stack) =
      .reading (.number (if ds = [0] then .zero else .whole)
        { negative, whole := ds.reverse, fraction := [], exponent := none }) next stack := by
  obtain ⟨d, ds, rfl⟩ := List.exists_cons_of_ne_nil hne
  have hd : d < 10 := hds d List.mem_cons_self
  have hfirst : ((if negative then [0x2d] else []) ++ [digitByte d]).foldl Reader.step
      (.reading .blank next stack) =
        .reading (.number (if d = 0 then .zero else .whole)
          { negative, whole := [d], fraction := [], exponent := none }) next stack := by
    cases negative with
    | false => exact between_digit hnext hd
    | true =>
        have hsign : Reader.step (.reading .blank next stack) 0x2d =
            .reading (.number .sign
              { negative := true, whole := [], fraction := [], exponent := none }) next stack :=
          between_eq_startValue hnext (by decide) (by decide)
        rw [if_pos rfl, List.singleton_append, List.foldl_cons, hsign]
        exact step_number (continue_sign hd _)
  have hsplit : (if negative then [0x2d] else []) ++ (d :: ds).map digitByte =
      ((if negative then [0x2d] else []) ++ [digitByte d]) ++ ds.map digitByte := by
    rw [List.append_assoc]
    rfl
  rw [hsplit, List.foldl_append, hfirst]
  by_cases hd0 : d = 0
  · subst hd0
    obtain rfl : ds = [] := List.cons.inj (hzero rfl) |>.2
    rfl
  · have hmore := @foldl_digits next stack .whole
      (fun ds => { negative, whole := ds, fraction := [], exponent := none })
      (fun e he es => continue_whole he _) [d] ds fun e he => hds e (List.mem_cons_of_mem d he)
    have hnot : ¬(d :: ds = [0]) := fun h => hd0 (List.cons.inj h).1
    rw [if_neg hd0, if_neg hnot, hmore, List.reverse_cons]

/-- The point and the digits behind it are taken in, if there are any. -/
theorem foldl_fraction {part : NumeralPart} (hpart : part = .zero ∨ part = .whole) {m : Numeral}
    (hm : m.fraction = []) {ds : List Nat} (hds : ∀ d ∈ ds, d < 10) :
    ∃ part', (part' = .zero ∨ part' = .whole ∨ part' = .fraction) ∧
      (if ds.isEmpty then [] else 0x2e :: ds.map digitByte).foldl Reader.step
          (.reading (.number part m) next stack) =
        .reading (.number part' { m with fraction := ds.reverse }) next stack := by
  cases ds with
  | nil =>
      obtain ⟨negative, whole, fraction, exponent⟩ := m
      obtain rfl : fraction = [] := hm
      exact ⟨part, hpart.imp_right .inl, rfl⟩
  | cons d ds =>
      have hd : d < 10 := hds d List.mem_cons_self
      have hpoint : continueNumber part m 0x2e = some (.point, m) := by
        rcases hpart with rfl | rfl <;> rfl
      have hmore := @foldl_digits next stack .fraction (fun ds => { m with fraction := ds })
        (fun e he es => continue_fraction he _) [d] ds fun e he => hds e (List.mem_cons_of_mem d he)
      refine ⟨.fraction, .inr (.inr rfl), ?_⟩
      rw [List.isEmpty_cons, if_neg Bool.false_ne_true, List.map_cons, List.foldl_cons,
        List.foldl_cons, step_number hpoint, step_number (continue_point hd m), List.reverse_cons]
      exact hmore

/-- The exponent is taken in, if there is one. -/
theorem foldl_exponent {bs : Bytes} {exponent : Option (Bool × List Nat)}
    (h : ExponentText bs exponent) {part : NumeralPart}
    (hpart : part = .zero ∨ part = .whole ∨ part = .fraction) {m : Numeral}
    (hm : m.exponent = none)
    (hds : ∀ sign ds, exponent = some (sign, ds) → ∀ d ∈ ds, d < 10)
    (hne : ∀ sign ds, exponent = some (sign, ds) → ds ≠ []) :
    ∃ part', (part' = .zero ∨ part' = .whole ∨ part' = .fraction ∨ part' = .exponent) ∧
      bs.foldl Reader.step (.reading (.number part m) next stack) =
        .reading (.number part'
          { m with exponent := exponent.map fun e => (e.1, e.2.reverse) }) next stack := by
  cases h with
  | absent =>
      obtain ⟨negative, whole, fraction, exponent⟩ := m
      obtain rfl : exponent = _ := hm
      exact ⟨part, by rcases hpart with rfl | rfl | rfl <;> simp, rfl⟩
  | @present mark sign negative ds mark_letter sign_text =>
      obtain ⟨d, ds, rfl⟩ := List.exists_cons_of_ne_nil (hne negative ds rfl)
      have hds := hds negative (d :: ds) rfl
      have hd : d < 10 := hds d List.mem_cons_self
      have hmark : continueNumber part m mark =
          some (.exponentMark, { m with exponent := some (false, []) }) := by
        rcases mark_letter with rfl | rfl <;> rcases hpart with rfl | rfl | rfl <;> rfl
      -- the first digit comes behind the mark or behind a sign
      have hfirst : (sign ++ [digitByte d]).foldl Reader.step (.reading (.number .exponentMark
            { m with exponent := some (false, []) }) next stack) =
          .reading (.number .exponent { m with exponent := some (negative, [d]) }) next stack := by
        cases sign_text with
        | omitted => exact step_number (continue_exponentMark hd _)
        | plus => exact step_number (continue_exponent hd m (.inl rfl) false [])
        | minus => exact step_number (continue_exponent hd m (.inl rfl) true [])
      have hmore := @foldl_digits next stack .exponent
        (fun ds => { m with exponent := some (negative, ds) })
        (fun e he es => continue_exponent he m (.inr rfl) negative es) [d] ds
        fun e he => hds e (List.mem_cons_of_mem d he)
      have hsplit : sign ++ (d :: ds).map digitByte = sign ++ [digitByte d] ++ ds.map digitByte := by
        simp
      refine ⟨.exponent, .inr (.inr (.inr rfl)), ?_⟩
      rw [List.foldl_cons, step_number hmark, hsplit, List.foldl_append, hfirst, hmore,
        Option.map_some, List.reverse_cons]

/-- **A numeral is read as itself**, up to the byte that ends it. -/
theorem NumeralText.foldl {bs : Bytes} {n : Numeral} (h : NumeralText bs n)
    (hnext : next = .value ∨ next = .firstItem) :
    ∃ part m, bs.foldl Reader.step (.reading .blank next stack) =
        .reading (.number part m) next stack ∧
      finishNumber? part m = some n := by
  obtain ⟨hproper, text, hexponent, rfl⟩ := h
  obtain ⟨negative, whole, fraction, exponent⟩ := n
  have hwhole := @foldl_whole next stack hnext negative whole hproper.whole_digits
    hproper.whole_ne_nil hproper.no_zero_in_front
  have hpart : (if whole = [0] then NumeralPart.zero else .whole) = .zero ∨
      (if whole = [0] then NumeralPart.zero else .whole) = .whole := by
    split
    · exact .inl rfl
    · exact .inr rfl
  obtain ⟨part, hpart', hfraction⟩ := @foldl_fraction next stack _ hpart
    { negative, whole := whole.reverse, fraction := [], exponent := none } rfl fraction
    hproper.fraction_digits
  obtain ⟨last, hlast, hexponent⟩ := @foldl_exponent next stack _ _ hexponent _ hpart'
    { negative, whole := whole.reverse, fraction := fraction.reverse, exponent := none } rfl
    hproper.exponent_digits hproper.exponent_ne_nil
  refine ⟨last, { negative, whole := whole.reverse, fraction := fraction.reverse,
                  exponent := exponent.map fun e => (e.1, e.2.reverse) }, ?_, ?_⟩
  · rw [List.foldl_append, List.foldl_append, hwhole, hfraction, hexponent]
  · have hback : (exponent.map fun e => (e.1, e.2.reverse)).map (fun e => (e.1, e.2.reverse)) =
        exponent := by
      cases exponent <;> simp
    rcases hlast with rfl | rfl | rfl | rfl <;> simp [finishNumber?, hback]

/-- Digits are written with the bytes of the digits. -/
theorem bytesOf_digitChars {ds : List Nat} (h : ∀ d ∈ ds, d < 10) :
    bytesOf (digitChars ds) = ds.map digitByte := by
  induction ds with
  | nil => rfl
  | cons d ds ih =>
      have hd : d < 10 := h d List.mem_cons_self
      have hsplit : digitChars (d :: ds) = Nat.digitChar d :: digitChars ds := rfl
      rw [hsplit, bytesOf_cons (toNat_digitChar_lt (by omega)),
        ih fun e he => h e (List.mem_cons_of_mem d he)]
      rfl

/-- **A proper numeral** is written as the grammar has it. -/
theorem numeralText_chars {n : Numeral} (h : n.Proper) : NumeralText (bytesOf n.chars) n := by
  obtain ⟨negative, whole, fraction, exponent⟩ := n
  have hwhole := bytesOf_digitChars h.whole_digits
  have hfraction := bytesOf_digitChars h.fraction_digits
  have hsign : bytesOf (if negative then ['-'] else []) = if negative then [0x2d] else [] := by
    cases negative <;> rfl
  have hpoint : bytesOf (if fraction.isEmpty then [] else '.' :: digitChars fraction) =
      if fraction.isEmpty then [] else 0x2e :: fraction.map digitByte := by
    cases fraction with
    | nil => rfl
    | cons d ds => exact (bytesOf_cons (by decide) _).trans (congrArg _ hfraction)
  cases exponent with
  | none =>
      refine ⟨h, [], .absent, ?_⟩
      simp only [Numeral.chars, bytesOf_append, hsign, hwhole, hpoint, bytesOf_nil]
  | some e =>
      obtain ⟨negative', ds⟩ := e
      have hds := bytesOf_digitChars (h.exponent_digits negative' ds rfl)
      have hmark : bytesOf ('e' :: (if negative' then '-' else '+') :: digitChars ds) =
          0x65 :: ([if negative' then 0x2d else 0x2b] ++ ds.map digitByte) := by
        rw [bytesOf_cons (by decide), bytesOf_cons (by cases negative' <;> decide), hds]
        cases negative' <;> rfl
      have hsign' : SignText [if negative' then 0x2d else 0x2b] negative' := by
        cases negative'
        · exact .plus
        · exact .minus
      refine ⟨h, _, .present ds (.inl rfl) hsign', ?_⟩
      simp only [Numeral.chars, bytesOf_append, hsign, hwhole, hpoint, hmark]

end AttestedModel.Json
