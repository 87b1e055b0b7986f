import AttestedModel.Proofs.ByteField

/-!
# The block cipher forgets nothing

Every step of a round can be undone: the power 254 undoes itself, the affine map
has an inverse of its own kind, rows are rotated, and a column that is mixed four
times comes back (`Column.mixed_mixed_mixed_mixed`).  So the cipher of a key gives
different blocks different encryptions, whatever the key schedule is
(`encrypt_injective`).
-/

namespace AttestedModel.Cipher.Aes

/-- Only the exponent modulo 255 counts, save that zero is not one. -/
theorem value_pow_cycle (b : UInt8) (k : Nat) : value b ^ (255 * k + 1) = value b := by
  induction k with
  | zero => exact pow_one _
  | succ k ih =>
      calc value b ^ (255 * (k + 1) + 1) = value b ^ (255 * k + 1) * value b ^ 255 := by
            rw [← pow_add, Nat.mul_succ, Nat.add_right_comm]
        _ = value b ^ 256 := by rw [ih, ← pow_succ']
        _ = value b := value_pow_256 b

/-- The power 254 undoes itself. -/
theorem fieldInverse_fieldInverse (b : UInt8) : fieldInverse (fieldInverse b) = b := by
  refine value_injective ?_
  calc value (fieldInverse (fieldInverse b)) = value (fieldInverse b) ^ 254 := value_powers 254 _
    _ = (value b ^ 254) ^ 254 := congrArg (· ^ 254) (value_powers 254 b)
    _ = value b ^ (255 * 253 + 1) := by rw [← pow_mul]
    _ = value b := value_pow_cycle b 253

/-- What undoes the affine map. -/
def affineInverse (b : UInt8) : UInt8 :=
  let rotate (n : UInt8) := b <<< n ||| b >>> (8 - n)
  rotate 1 ^^^ rotate 3 ^^^ rotate 6 ^^^ 0x05

/-- The affine map can be undone. -/
theorem affineInverse_affine (b : UInt8) : affineInverse (affine b) = b := by
  have hbytes : ∀ n < 256, affineInverse (affine (UInt8.ofNat n)) = UInt8.ofNat n := by
    decide +kernel
  have hb := hbytes b.toNat b.toNat_lt
  rwa [UInt8.ofNat_toNat] at hb

/-- **The substitution is one to one.** -/
theorem substitute_injective : Function.Injective substitute := by
  intro a b h
  rw [substitute_eq, substitute_eq, ← fieldInverse_eq, ← fieldInverse_eq] at h
  have hpower := congrArg affineInverse h
  rw [affineInverse_affine, affineInverse_affine] at hpower
  exact Function.LeftInverse.injective fieldInverse_fieldInverse hpower

attribute [ext] Column Square

namespace Column

/-- A column can be told from the substitutes of its bytes. -/
theorem substituted_injective : Function.Injective substituted := by
  intro x y h
  obtain ⟨h0, h1, h2, h3⟩ := Column.mk.inj h
  exact Column.ext (substitute_injective h0) (substitute_injective h1) (substitute_injective h2)
    (substitute_injective h3)

/-- A column can be told from its sum with a key. -/
theorem add_left_injective (k : Column) : Function.Injective fun x => add x k := by
  intro x y h
  obtain ⟨h0, h1, h2, h3⟩ := Column.mk.inj h
  exact Column.ext ((UInt8.xor_left_inj _).mp h0) ((UInt8.xor_left_inj _).mp h1)
    ((UInt8.xor_left_inj _).mp h2) ((UInt8.xor_left_inj _).mp h3)

/-- Mixing does not change the sum of a column. -/
theorem sum_mixed (a b c d : UInt8) :
    let all := a ^^^ b ^^^ c ^^^ d
    (a ^^^ all ^^^ double (a ^^^ b)) ^^^ (b ^^^ all ^^^ double (b ^^^ c)) ^^^
      (c ^^^ all ^^^ double (c ^^^ d)) ^^^ (d ^^^ all ^^^ double (d ^^^ a)) = all := by
  have htwo : (2 : AdjoinRoot polynomial) = 0 := CharTwo.two_eq_zero
  refine value_injective ?_
  simp only [value_xor, value_double]
  linear_combination
    (2 + root) * (value a + value b + value c + value d) * htwo

/-- Mixed twice under one sum, a byte is itself and four times its sum with the byte opposite. -/
theorem byte_mixed_mixed (all a b c : UInt8) :
    (a ^^^ all ^^^ double (a ^^^ b)) ^^^ all ^^^
      double ((a ^^^ all ^^^ double (a ^^^ b)) ^^^ (b ^^^ all ^^^ double (b ^^^ c))) =
    a ^^^ double (double (a ^^^ c)) := by
  have htwo : (2 : AdjoinRoot polynomial) = 0 := CharTwo.two_eq_zero
  refine value_injective ?_
  simp only [value_xor, value_double]
  linear_combination
    (value all + root * (value a + value b + value all) + root ^ 2 * value b) * htwo

/-- Mixed twice, each byte of a column is the byte plus four times its sum with the byte two rows
on. -/
theorem mixed_mixed (x : Column) :
    x.mixed.mixed =
      ⟨x.b0 ^^^ double (double (x.b0 ^^^ x.b2)), x.b1 ^^^ double (double (x.b1 ^^^ x.b3)),
       x.b2 ^^^ double (double (x.b2 ^^^ x.b0)), x.b3 ^^^ double (double (x.b3 ^^^ x.b1))⟩ := by
  have hsum := sum_mixed x.b0 x.b1 x.b2 x.b3
  simp only [mixed] at hsum ⊢
  rw [hsum]
  simp only [byte_mixed_mixed]

/-- A column that is mixed four times comes back. -/
theorem mixed_mixed_mixed_mixed (x : Column) : x.mixed.mixed.mixed.mixed = x := by
  have hopposite : ∀ a c : UInt8,
      a ^^^ double (double (a ^^^ c)) ^^^
        double (double (a ^^^ double (double (a ^^^ c)) ^^^ (c ^^^ double (double (c ^^^ a))))) =
      a := by
    have htwo : (2 : AdjoinRoot polynomial) = 0 := CharTwo.two_eq_zero
    intro a c
    refine value_injective ?_
    simp only [value_xor, value_double]
    linear_combination (root ^ 2 + root ^ 4) * (value a + value c) * htwo
  simp only [mixed_mixed, hopposite]

/-- A column can be told from the mixed one: four times mixed it is itself. -/
theorem mixed_injective : Function.Injective mixed := by
  have hback : Function.LeftInverse (fun x => x.mixed.mixed.mixed) mixed := mixed_mixed_mixed_mixed
  exact hback.injective

end Column

namespace Square

/-- A square can be told from the substitutes of its bytes. -/
theorem substituted_injective : Function.Injective substituted := by
  intro x y h
  obtain ⟨h0, h1, h2, h3⟩ := Square.mk.inj h
  exact Square.ext (Column.substituted_injective h0) (Column.substituted_injective h1)
    (Column.substituted_injective h2) (Column.substituted_injective h3)

/-- A square can be told from its sum with a round key. -/
theorem add_left_injective (k : Square) : Function.Injective fun x => add x k := by
  intro x y h
  obtain ⟨h0, h1, h2, h3⟩ := Square.mk.inj h
  exact Square.ext (Column.add_left_injective _ h0) (Column.add_left_injective _ h1)
    (Column.add_left_injective _ h2) (Column.add_left_injective _ h3)

/-- A square can be told from its mixed columns. -/
theorem mixed_injective : Function.Injective mixed := by
  intro x y h
  obtain ⟨h0, h1, h2, h3⟩ := Square.mk.inj h
  exact Square.ext (Column.mixed_injective h0) (Column.mixed_injective h1)
    (Column.mixed_injective h2) (Column.mixed_injective h3)

/-- Rows that are rotated hold the same bytes. -/
theorem shifted_injective : Function.Injective shifted := by
  intro x y h
  simp only [shifted, Square.mk.injEq, Column.mk.injEq] at h
  ext <;> simp only [h]

/-- Nothing is lost when a square is written out. -/
theorem toBytes_injective : Function.Injective toBytes := by
  intro x y h
  simp only [toBytes, Column.toBytes, List.cons_append, List.nil_append, List.cons.injEq] at h
  ext <;> simp only [h]

/-- Sixteen bytes are the bytes of their square. -/
theorem toBytes_ofBytes {bs : Bytes} (h : bs.length = 16) : (ofBytes bs).toBytes = bs := by
  match bs, h with
  | [_, _, _, _, _, _, _, _, _, _, _, _, _, _, _, _], _ => rfl

end Square

/-- **The cipher is one to one**, for every row of round keys. -/
theorem encrypt_injective (keys : Schedule) : Function.Injective (encrypt keys) := by
  have hround : ∀ k, Function.Injective fun s : Square => s.substituted.shifted.mixed.add k :=
    fun k => (Square.add_left_injective k).comp <| Square.mixed_injective.comp <|
      Square.shifted_injective.comp Square.substituted_injective
  have hrounds : ∀ ks : List Square, Function.Injective fun s : Square =>
      ks.foldl (fun s k => s.substituted.shifted.mixed.add k) s := by
    intro ks
    induction ks with
    | nil => exact Function.injective_id
    | cons k ks ih => exact ih.comp (hround k)
  exact (Square.add_left_injective keys.last).comp <| Square.shifted_injective.comp <|
    Square.substituted_injective.comp <| (hrounds keys.middle).comp <|
      Square.add_left_injective keys.first

end AttestedModel.Cipher.Aes
