import Mathlib
import AttestedModel.Text.Base64
import AttestedModel.Text.Blank
import AttestedModel.Text.Integer
import AttestedModel.Text.Utf8

/-!
# Base64, UTF-8 and decimal digits give back what they are given

The first two are read one group at a time: four symbols in base64, one character
in UTF-8.  A group that was written is read as itself, whatever follows it
(`bytes?_chars`, `step_utf8EncodeChar`), and induction over the groups gives the
two round trips `decode?_encode`.  In base64 nothing else is read, so that each byte
string has one text (`Base64.decode?_eq_some_iff`).  A number on a line of its own is
read back if it is not above the limit (`Integer.natural_toString`,
`trim_toString_line`).
-/

namespace AttestedModel.Text

namespace Base64

/-- No symbol is the padding. -/
theorem symbol_ne_padding {n : Nat} (h : n < 64) : symbol n ≠ '=' := by
  intro hpad
  have hvalue := value?_symbol h
  have hnone : value? '=' = none := by decide
  rw [hpad, hnone] at hvalue
  exact absurd hvalue nofun

/-- The four symbols of three bytes are read as these. -/
theorem threeBytes?_symbols (a b c : UInt8) {n : Nat}
    (hn : n = a.toNat * 65536 + b.toNat * 256 + c.toNat) :
    threeBytes? (symbol (n / 262144)) (symbol (n / 4096 % 64)) (symbol (n / 64 % 64))
      (symbol (n % 64)) = some [a, b, c] := by
  have ha := a.toNat_lt
  have hb := b.toNat_lt
  have hc := c.toNat_lt
  rw [threeBytes?, value?_symbol (by omega), value?_symbol (by omega), value?_symbol (by omega),
    value?_symbol (by omega)]
  simp only [Option.bind_eq_bind, Option.bind_some, Option.pure_def, Option.some.injEq,
    List.cons.injEq, and_true, ← UInt8.toNat_inj, UInt8.toNat_ofNat']
  omega

/-- The three symbols of two bytes are read as these. -/
theorem twoBytes?_symbols (a b : UInt8) {n : Nat} (hn : n = a.toNat * 1024 + b.toNat * 4) :
    twoBytes? (symbol (n / 4096)) (symbol (n / 64 % 64)) (symbol (n % 64)) = some [a, b] := by
  have ha := a.toNat_lt
  have hb := b.toNat_lt
  rw [twoBytes?, value?_symbol (by omega), value?_symbol (by omega), value?_symbol (by omega)]
  simp only [Option.bind_eq_bind, Option.bind_some]
  rw [if_pos (by omega)]
  simp only [Option.some.injEq, List.cons.injEq, and_true, ← UInt8.toNat_inj, UInt8.toNat_ofNat']
  omega

/-- The two symbols of one byte are read as it. -/
theorem oneByte?_symbols (a : UInt8) {n : Nat} (hn : n = a.toNat * 16) :
    oneByte? (symbol (n / 64)) (symbol (n % 64)) = some [a] := by
  have ha := a.toNat_lt
  rw [oneByte?, value?_symbol (by omega), value?_symbol (by omega)]
  simp only [Option.bind_eq_bind, Option.bind_some]
  rw [if_pos (by omega)]
  simp only [Option.some.injEq, List.cons.injEq, and_true, ← UInt8.toNat_inj, UInt8.toNat_ofNat']
  omega

/-- The characters of a byte string read as it. -/
theorem bytes?_chars (bs : Bytes) : bytes? (chars bs) = some bs := by
  have hlast : ∀ n, symbol (n % 64) ≠ '=' := fun n =>
    symbol_ne_padding (Nat.mod_lt n (by decide))
  induction bs using chars.induct with
  | case1 a b c rest ih =>
      rw [chars, bytes?]
      · rw [threeBytes?_symbols a b c rfl, ih]
        rfl
      · intro _ hfourth
        exact absurd hfourth (hlast _)
      · intro hfourth
        exact absurd hfourth (hlast _)
  | case2 a b =>
      rw [chars, bytes?]
      · exact twoBytes?_symbols a b rfl
      · exact hlast _
  | case3 a => exact oneByte?_symbols a rfl
  | case4 => rfl

/-- **Base64 is undone by reading.** -/
theorem decode?_encode (bs : Bytes) : decode? (encode bs) = some bs := by
  rw [decode?, encode, String.toList_ofList, bytes?_chars]

/-- A value has one symbol. -/
theorem symbol_of_value? {c : Char} {n : Nat} (h : value? c = some n) : n < 64 ∧ symbol n = c := by
  have hchar : Char.ofNat c.toNat = c := Char.ofNat_toNat c
  unfold value? at h
  dsimp only at h
  split at h
  · obtain rfl := Option.some.inj h
    refine ⟨by omega, ?_⟩
    rw [symbol, if_pos (by omega), show 65 + (c.toNat - 65) = c.toNat by omega, hchar]
  · split at h
    · obtain rfl := Option.some.inj h
      refine ⟨by omega, ?_⟩
      rw [symbol, if_neg (by omega), if_pos (by omega),
        show 97 + (c.toNat - 97 + 26 - 26) = c.toNat by omega, hchar]
    · split at h
      · obtain rfl := Option.some.inj h
        refine ⟨by omega, ?_⟩
        rw [symbol, if_neg (by omega), if_neg (by omega), if_pos (by omega),
          show 48 + (c.toNat - 48 + 52 - 52) = c.toNat by omega, hchar]
      · split at h
        · obtain rfl := Option.some.inj h
          exact ⟨by decide, ‹c = '+'›.symm⟩
        · split at h
          · obtain rfl := Option.some.inj h
            exact ⟨by decide, ‹c = '/'›.symm⟩
          · cases h

/-- The bytes of four characters are written as these. -/
theorem chars_of_threeBytes? {a b c d : Char} {front : Bytes}
    (h : threeBytes? a b c d = some front) (rest : Bytes) :
    chars (front ++ rest) = a :: b :: c :: d :: chars rest := by
  simp only [threeBytes?, Option.bind_eq_bind, Option.bind_eq_some_iff, Option.pure_def,
    Option.some.injEq] at h
  obtain ⟨va, ha, vb, hb, vc, hc, vd, hd, rfl⟩ := h
  obtain ⟨hva, rfl⟩ := symbol_of_value? ha
  obtain ⟨hvb, rfl⟩ := symbol_of_value? hb
  obtain ⟨hvc, rfl⟩ := symbol_of_value? hc
  obtain ⟨hvd, rfl⟩ := symbol_of_value? hd
  generalize hn : va * 262144 + vb * 4096 + vc * 64 + vd = n
  have hlt : n < 16777216 := by omega
  have hbytes : (UInt8.ofNat (n / 65536)).toNat * 65536 + (UInt8.ofNat (n / 256)).toNat * 256 +
      (UInt8.ofNat n).toNat = n := by
    simp only [UInt8.toNat_ofNat', Nat.reducePow]
    clear hn
    omega
  simp only [List.cons_append, List.nil_append, chars]
  rw [hbytes, show n / 262144 = va by omega, show n / 4096 % 64 = vb by omega,
    show n / 64 % 64 = vc by omega, show n % 64 = vd by omega]

/-- The bytes of three characters are written as these and padding. -/
theorem chars_of_twoBytes? {a b c : Char} {bs : Bytes} (h : twoBytes? a b c = some bs) :
    chars bs = [a, b, c, '='] := by
  simp only [twoBytes?, Option.bind_eq_bind, Option.bind_eq_some_iff,
    Option.ite_none_right_eq_some, Option.some.injEq] at h
  obtain ⟨va, ha, vb, hb, vc, hc, hzero, rfl⟩ := h
  obtain ⟨hva, rfl⟩ := symbol_of_value? ha
  obtain ⟨hvb, rfl⟩ := symbol_of_value? hb
  obtain ⟨hvc, rfl⟩ := symbol_of_value? hc
  generalize hn : va * 4096 + vb * 64 + vc = n at hzero
  have hlt : n < 262144 := by omega
  have hbytes : (UInt8.ofNat (n / 1024)).toNat * 1024 + (UInt8.ofNat (n / 4)).toNat * 4 = n := by
    simp only [UInt8.toNat_ofNat', Nat.reducePow]
    clear hn
    omega
  simp only [chars]
  rw [hbytes, show n / 4096 = va by omega, show n / 64 % 64 = vb by omega,
    show n % 64 = vc by omega]

/-- The byte of two characters is written as these and padding. -/
theorem chars_of_oneByte? {a b : Char} {bs : Bytes} (h : oneByte? a b = some bs) :
    chars bs = [a, b, '=', '='] := by
  simp only [oneByte?, Option.bind_eq_bind, Option.bind_eq_some_iff,
    Option.ite_none_right_eq_some, Option.some.injEq] at h
  obtain ⟨va, ha, vb, hb, hzero, rfl⟩ := h
  obtain ⟨hva, rfl⟩ := symbol_of_value? ha
  obtain ⟨hvb, rfl⟩ := symbol_of_value? hb
  generalize hn : va * 64 + vb = n at hzero
  have hbyte : (UInt8.ofNat (n / 16)).toNat * 16 = n := by
    simp only [UInt8.toNat_ofNat', Nat.reducePow]
    omega
  simp only [chars]
  rw [hbyte, show n / 64 = va by omega, show n % 64 = vb by omega]

/-- Characters that are read are those of the bytes read from them. -/
theorem chars_of_bytes? {cs : List Char} {bs : Bytes} (h : bytes? cs = some bs) :
    chars bs = cs := by
  fun_induction bytes? cs generalizing bs with
  | case1 =>
      obtain rfl := Option.some.inj h
      rfl
  | case2 a b => exact chars_of_oneByte? h
  | case3 a b c => exact chars_of_twoBytes? h
  | case4 a b c d rest _ _ ih =>
      simp only [Option.bind_eq_bind, Option.bind_eq_some_iff, Option.pure_def,
        Option.some.injEq] at h
      obtain ⟨front, hfront, back, hback, rfl⟩ := h
      rw [chars_of_threeBytes? hfront, ih hback]
  | case5 => cases h

/-- **A text is read as base64 exactly if it is what the bytes are written as.** -/
theorem decode?_eq_some_iff {text : String} {bs : Bytes} :
    decode? text = some bs ↔ text = encode bs := by
  constructor
  · intro h
    rw [encode, chars_of_bytes? h, String.ofList_toList]
  · rintro rfl
    exact decode?_encode bs

/-- A last symbol with bits of no byte, padding that is missing or superfluous, and white space:
nothing is written so. -/
example : ["QR==", "QQ=", "QQ", "QQ===", "QQ==\n", "Q Q="].map decode? =
    [none, none, none, none, none, none] := by
  decide

end Base64

namespace Utf8

/-- The bytes that go on with a character. -/
theorem isContinuation_iff {b : UInt8} : isContinuation b ↔ 128 ≤ b.toNat ∧ b.toNat < 192 := by
  simp [isContinuation, UInt8.le_iff_toNat_le, UInt8.lt_iff_toNat_lt]

/-- The second of three bytes: no shorter form of the character, and no half of a pair. -/
theorem isSecondOfThree_iff {a b : UInt8} :
    isSecondOfThree a b ↔ (128 ≤ b.toNat ∧ b.toNat < 192) ∧ (a.toNat = 224 → 160 ≤ b.toNat) ∧
      (a.toNat = 237 → b.toNat < 160) := by
  simp [isSecondOfThree, isContinuation_iff, UInt8.le_iff_toNat_le, UInt8.lt_iff_toNat_lt,
    ← UInt8.toNat_inj, and_assoc, imp_iff_not_or]

/-- The second of four bytes: no shorter form of the character, and none beyond the last. -/
theorem isSecondOfFour_iff {a b : UInt8} :
    isSecondOfFour a b ↔ (128 ≤ b.toNat ∧ b.toNat < 192) ∧ (a.toNat = 240 → 144 ≤ b.toNat) ∧
      (a.toNat = 244 → b.toNat < 144) := by
  simp [isSecondOfFour, isContinuation_iff, UInt8.le_iff_toNat_le, UInt8.lt_iff_toNat_lt,
    ← UInt8.toNat_inj, and_assoc, imp_iff_not_or]

-- a well-formed group reads as its character, whatever follows it

section Groups

variable {b0 b1 b2 b3 : UInt8} (rest : Bytes)

theorem step_one (h : b0.toNat < 128) : step b0 rest = .char (Char.ofNat b0.toNat) rest := by
  unfold step
  simp only [UInt8.lt_iff_toNat_lt, UInt8.reduceToNat]
  rw [if_pos h]

theorem step_two (h : 194 ≤ b0.toNat ∧ b0.toNat < 224) (h1 : isContinuation b1) :
    step b0 (b1 :: rest) = .char (Char.ofNat (b0.toNat % 32 * 64 + b1.toNat % 64)) rest := by
  unfold step
  simp only [UInt8.lt_iff_toNat_lt, UInt8.le_iff_toNat_le, UInt8.reduceToNat]
  rw [if_neg (by omega), if_pos h, if_pos h1]
  rfl

theorem step_three (h : 224 ≤ b0.toNat ∧ b0.toNat < 240) (h1 : isSecondOfThree b0 b1)
    (h2 : isContinuation b2) :
    step b0 (b1 :: b2 :: rest) =
      .char (Char.ofNat (b0.toNat % 16 * 4096 + b1.toNat % 64 * 64 + b2.toNat % 64)) rest := by
  unfold step
  simp only [UInt8.lt_iff_toNat_lt, UInt8.le_iff_toNat_le, UInt8.reduceToNat]
  rw [if_neg (by omega), if_neg (by omega), if_pos h, if_pos h1, if_pos h2]
  rfl

theorem step_four (h : 240 ≤ b0.toNat ∧ b0.toNat < 245) (h1 : isSecondOfFour b0 b1)
    (h2 : isContinuation b2) (h3 : isContinuation b3) :
    step b0 (b1 :: b2 :: b3 :: rest) =
      .char (Char.ofNat (b0.toNat % 8 * 262144 + b1.toNat % 64 * 4096 + b2.toNat % 64 * 64 +
        b3.toNat % 64)) rest := by
  unfold step
  simp only [UInt8.lt_iff_toNat_lt, UInt8.le_iff_toNat_le, UInt8.reduceToNat]
  rw [if_neg (by omega), if_neg (by omega), if_neg (by omega), if_pos h, if_pos h1, if_pos h2,
    if_pos h3]
  rfl

end Groups

/-- The bytes of a character read as it, whatever follows them. -/
theorem step_utf8EncodeChar (c : Char) (rest : Bytes) :
    ∃ b bs, String.utf8EncodeChar c = b :: bs ∧ step b (bs ++ rest) = .char c rest := by
  have hvalid : c.val.toNat < 0xd800 ∨ 0xdfff < c.val.toNat ∧ c.val.toNat < 0x110000 := c.valid
  have hchar : Char.ofNat c.val.toNat = c := Char.ofNat_toNat c
  have hbyte : ∀ n < 256, (UInt8.ofNat n).toNat = n := fun n hn => by
    rw [UInt8.toNat_ofNat', Nat.mod_eq_of_lt hn]
  unfold String.utf8EncodeChar
  generalize c.val.toNat = v at hvalid hchar ⊢
  dsimp only
  have h6 := hbyte (v % 64 + 128) (by omega)
  have h12 := hbyte (v / 64 % 64 + 128) (by omega)
  split
  · refine ⟨_, _, rfl, ?_⟩
    have h0 := hbyte v (by omega)
    refine (step_one _ (by omega)).trans ?_
    rw [h0, hchar]
    rfl
  · split
    · refine ⟨_, _, rfl, ?_⟩
      have h0 := hbyte (v / 64 % 32 + 192) (by omega)
      refine (step_two _ (by omega) (isContinuation_iff.mpr (by omega))).trans ?_
      have hcode : (v / 64 % 32 + 192) % 32 * 64 + (v % 64 + 128) % 64 = v := by omega
      rw [h0, h6, hcode, hchar]
      rfl
    · split
      · refine ⟨_, _, rfl, ?_⟩
        have h0 := hbyte (v / 4096 % 16 + 224) (by omega)
        refine (step_three _ (by omega) (isSecondOfThree_iff.mpr (by omega))
          (isContinuation_iff.mpr (by omega))).trans ?_
        have hcode : (v / 4096 % 16 + 224) % 16 * 4096 + (v / 64 % 64 + 128) % 64 * 64 +
            (v % 64 + 128) % 64 = v := by omega
        rw [h0, h12, h6, hcode, hchar]
        rfl
      · refine ⟨_, _, rfl, ?_⟩
        have h0 := hbyte (v / 262144 % 8 + 240) (by omega)
        have h18 := hbyte (v / 4096 % 64 + 128) (by omega)
        refine (step_four _ (by omega) (isSecondOfFour_iff.mpr (by omega))
          (isContinuation_iff.mpr (by omega)) (isContinuation_iff.mpr (by omega))).trans ?_
        have hcode : (v / 262144 % 8 + 240) % 8 * 262144 + (v / 4096 % 64 + 128) % 64 * 4096 +
            (v / 64 % 64 + 128) % 64 * 64 + (v % 64 + 128) % 64 = v := by omega
        rw [h0, h18, h12, h6, hcode, hchar]
        rfl

/-- The bytes of characters read as them. -/
theorem chars?_flatMap (cs : List Char) : chars? (cs.flatMap String.utf8EncodeChar) = some cs := by
  induction cs with
  | nil => rw [List.flatMap_nil, chars?]
  | cons c cs ih =>
      obtain ⟨b, bs, hbytes, hstep⟩ := step_utf8EncodeChar c (cs.flatMap String.utf8EncodeChar)
      rw [List.flatMap_cons, hbytes, List.cons_append, chars?]
      split
      · rename_i hchar
        rw [hstep] at hchar
        obtain ⟨rfl, rfl⟩ := Step.char.inj hchar
        rw [ih]
        rfl
      · rename_i hill
        rw [hstep] at hill
        cases hill

/-- **UTF-8 is undone by reading.** -/
theorem decode?_encode (text : String) : decode? (encode text) = some text := by
  rw [decode?, encode, chars?_flatMap, Option.map_some, String.ofList_toList]

/-- The bytes of characters are read as them also where reading never fails. -/
theorem charsLossy_flatMap (cs : List Char) :
    charsLossy (cs.flatMap String.utf8EncodeChar) = cs := by
  induction cs with
  | nil => rw [List.flatMap_nil, charsLossy]
  | cons c cs ih =>
      obtain ⟨b, bs, hbytes, hstep⟩ := step_utf8EncodeChar c (cs.flatMap String.utf8EncodeChar)
      rw [List.flatMap_cons, hbytes, List.cons_append, charsLossy]
      split
      · rename_i hchar
        rw [hstep] at hchar
        obtain ⟨rfl, rfl⟩ := Step.char.inj hchar
        rw [ih]
      · rename_i hill
        rw [hstep] at hill
        cases hill

/-- What was encoded loses nothing. -/
theorem decodeLossy_encode (text : String) : decodeLossy (encode text) = text := by
  rw [decodeLossy, encode, charsLossy_flatMap, String.ofList_toList]

end Utf8

/-- A text between characters that are not blank loses only the end of its line. -/
theorem trim_line {text : String} (hfirst : ∀ c ∈ text.toList.head?, ¬ isBlank c)
    (hlast : ∀ c ∈ text.toList.getLast?, ¬ isBlank c) : trim (text ++ "\n") = text := by
  have hnewline : isBlank '\n' = true := by decide
  rw [trim, String.toList_append, trimChars]
  generalize hcs : text.toList = cs at hfirst hlast
  have hkept : (cs ++ "\n".toList).dropWhile isBlank = cs ++ "\n".toList ∨ cs = [] := by
    cases cs with
    | nil => exact .inr rfl
    | cons c cs =>
        left
        have hc : ¬ isBlank c := hfirst c rfl
        rw [List.cons_append, List.dropWhile_cons, if_neg hc]
  rcases hkept with hkept | rfl
  · have hend : cs.reverse.dropWhile isBlank = cs.reverse := by
      cases hr : cs.reverse with
      | nil => rfl
      | cons c r =>
          have hc : ¬ isBlank c := hlast c (by rw [← List.head?_reverse, hr]; rfl)
          rw [List.dropWhile_cons, if_neg hc]
    rw [hkept, List.reverse_append]
    show String.ofList (('\n' :: cs.reverse).dropWhile isBlank).reverse = text
    rw [List.dropWhile_cons, if_pos hnewline, hend, List.reverse_reverse, ← hcs,
      String.ofList_toList]
  · have hempty : text = "" := String.toList_eq_nil_iff.mp hcs
    rw [hempty]
    decide

/-- Further digits make a number no smaller. -/
theorem Integer.le_ofDigitChars (cs : List Char) (n : Nat) : n ≤ Nat.ofDigitChars 10 cs n := by
  induction cs generalizing n with
  | nil => exact Nat.le_refl n
  | cons c cs ih =>
      rw [Nat.ofDigitChars_cons]
      have hrest := ih (10 * n + (c.toNat - '0'.toNat))
      omega

/-- Digits are read up to the limit. -/
theorem Integer.digitsFrom_of_digits {limit : Nat} {cs : List Char} (hcs : ∀ c ∈ cs, c.isDigit)
    {n : Nat} (hn : n ≤ limit) :
    digitsFrom limit n cs =
      if Nat.ofDigitChars 10 cs n ≤ limit then .ok (Nat.ofDigitChars 10 cs n)
      else .error .tooLarge := by
  induction cs generalizing n with
  | nil => rw [digitsFrom, Nat.ofDigitChars_nil, if_pos hn]
  | cons c cs ih =>
      have hc : c.isDigit := hcs c List.mem_cons_self
      have hnext : n * 10 + (c.toNat - 48) = 10 * n + (c.toNat - '0'.toNat) := by
        rw [Nat.mul_comm]
        rfl
      rw [digitsFrom, hc, Nat.ofDigitChars_cons, hnext]
      generalize 10 * n + (c.toNat - '0'.toNat) = m
      by_cases hm : m ≤ limit
      · have hread := ih (fun d hd => hcs d (List.mem_cons_of_mem c hd)) hm
        simpa [hm] using hread
      · have hlarge : ¬ Nat.ofDigitChars 10 cs m ≤ limit := by
          have hle := Integer.le_ofDigitChars cs m
          omega
        simp [hm, hlarge]

/-- A number that is written is read back, if it is not above the limit. -/
theorem Integer.natural_toString (limit n : Nat) :
    natural limit (toString n) = if n ≤ limit then .ok n else .error .tooLarge := by
  have hdigits : ∀ c ∈ Nat.toDigits 10 n, c.isDigit := fun c hc =>
    Nat.isDigit_of_mem_toDigits (by decide) (by decide) hc
  have hread := Integer.digitsFrom_of_digits hdigits (Nat.zero_le limit)
  rw [Nat.ofDigitChars_toDigits (by decide) (by decide)] at hread
  have htext : (toString n).toList = Nat.toDigits 10 n := by simp
  rw [natural, htext, ← hread]
  cases hcs : Nat.toDigits 10 n with
  | nil => exact absurd hcs Nat.toDigits_ne_nil
  | cons c cs =>
      have hsign : c ≠ '+' := by
        rintro rfl
        have hplus := hdigits '+' (by rw [hcs]; exact List.mem_cons_self)
        exact absurd hplus (by decide)
      split
      · cases ‹_ = []›
      · rename_i hplus
        exact absurd (List.cons.inj hplus).1 hsign
      · rfl

theorem trim_toString_line (n : Nat) : trim (toString n ++ "\n") = toString n := by
  have hdigit : ∀ c : Char, c.isDigit → ¬ isBlank c := by
    intro c hc
    have hrange : 48 ≤ c.toNat ∧ c.toNat ≤ 57 := by
      simpa [Char.isDigit, UInt32.le_iff_toNat_le] using hc
    simp only [isBlank, Bool.or_eq_true, Bool.and_eq_true, decide_eq_true_eq]
    omega
  have htext : (toString n).toList = Nat.toDigits 10 n := by simp
  refine trim_line (fun c hc => hdigit c ?_) fun c hc => hdigit c ?_
  · rw [htext] at hc
    exact Nat.isDigit_of_mem_toDigits (by decide) (by decide) (List.mem_of_mem_head? hc)
  · rw [htext] at hc
    exact Nat.isDigit_of_mem_toDigits (by decide) (by decide) (List.mem_of_mem_getLast? hc)

end AttestedModel.Text
