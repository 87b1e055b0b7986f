import AttestedModel.Evidence.Report
import AttestedModel.Proofs.JsonDocuments

/-!
# Mock evidence

A mock document is read back from its text, and says in its report data the SHA-512
digest of what it is bound to (`collectMock_commits`).  The numbers and bytes of a
document are read back one by one, from their digits.
-/

namespace AttestedModel

namespace Json

theorem digits_of_lt {n : Nat} (h : n < 10) : digits n = [n] := by
  rw [digits, Nat.toDigits_of_lt_base h, List.map_singleton, Nat.toNat_digitChar_sub_48_of_lt_ten h]

/-- The last digit of a number stands behind those of its tenth. -/
theorem digits_of_le {n : Nat} (h : 10 ≤ n) : digits n = digits (n / 10) ++ [n % 10] := by
  rw [digits, Nat.toDigits_of_base_le (by decide) h, List.map_append, List.map_singleton,
    Nat.toNat_digitChar_sub_48_of_lt_ten (Nat.mod_lt n (by decide)), digits]

/-- To prove something of the digits of a number, prove it of a single digit, and of a further
digit at the end. -/
theorem digits_induction {P : Nat → List Nat → Prop} (single : ∀ n < 10, P n [n])
    (more : ∀ n, 10 ≤ n → P (n / 10) (digits (n / 10)) → P n (digits (n / 10) ++ [n % 10]))
    (n : Nat) : P n (digits n) := by
  induction n using Nat.strongRecOn with
  | ind n ih =>
      by_cases h : n < 10
      · rw [digits_of_lt h]
        exact single n h
      · have hle : 10 ≤ n := Nat.le_of_not_lt h
        rw [digits_of_le hle]
        exact more n hle (ih (n / 10) (by omega))

/-- Digits are below ten. -/
theorem lt_of_mem_digits (n : Nat) : ∀ d ∈ digits n, d < 10 := by
  induction n using digits_induction with
  | single n h => simpa using h
  | more n h ih =>
      intro d hd
      rcases List.mem_append.mp hd with hd | hd
      · exact ih d hd
      · rw [List.mem_singleton.mp hd]
        exact Nat.mod_lt n (by decide)

/-- One more digit makes ten times as much, and itself. -/
theorem ofDigits_append_singleton (ds : List Nat) (d : Nat) :
    ofDigits (ds ++ [d]) = ofDigits ds * 10 + d := by
  rw [ofDigits, List.foldl_append]
  rfl

/-- The digits of a number make the number. -/
theorem ofDigits_digits (n : Nat) : ofDigits (digits n) = n := by
  induction n using digits_induction with
  | single n h => simp [ofDigits]
  | more n h ih =>
      rw [ofDigits_append_singleton, ih]
      omega

/-- Every number has a digit, also zero. -/
theorem digits_ne_nil (n : Nat) : digits n ≠ [] := by
  simp [digits]

/-- Only zero begins with a zero. -/
theorem eq_zero_of_head?_digits {n : Nat} : (digits n).head? = some 0 → n = 0 := by
  induction n using digits_induction with
  | single n h => simp
  | more n h ih =>
      intro hzero
      rw [List.head?_append_of_ne_nil _ (digits_ne_nil _)] at hzero
      have := ih hzero
      omega

/-- The numeral of a number is well formed: it has digits and no zero in front. -/
theorem Numeral.proper_ofNat (n : Nat) : (Numeral.ofNat n).Proper where
  whole_digits := lt_of_mem_digits n
  whole_ne_nil := digits_ne_nil n
  no_zero_in_front hzero := by
    rw [show n = 0 from eq_zero_of_head?_digits hzero]
    rfl
  fraction_digits := nofun
  exponent_digits := nofun
  exponent_ne_nil := nofun

/-- A number can be written. -/
theorem writable_ofNat (n : Nat) : Writable (ofNat n) :=
  .number (Numeral.proper_ofNat n)

/-- A number below a limit is read as itself. -/
theorem natBelow?_ofNat {limit n : Nat} (h : n < limit) : (ofNat n).natBelow? limit = some n := by
  simp [ofNat, natBelow?, Numeral.toNatBelow?, Numeral.ofNat, ofDigits_digits, h]

/-- A list of bytes can be written. -/
theorem writable_ofBytes (bs : Bytes) : Writable (ofBytes bs) := by
  refine .array fun item hitem => ?_
  obtain ⟨b, -, rfl⟩ := List.mem_map.mp hitem
  exact writable_ofNat b.toNat

/-- A byte is read as itself. -/
theorem byte?_ofNat (b : UInt8) : (ofNat b.toNat).byte? = some b := by
  rw [byte?, natBelow?_ofNat b.toNat_lt, Option.map_some, UInt8.ofNat_toNat]

/-- What is written item by item is read back item by item. -/
theorem list?_map {α : Type} {read : Json → Option α} {write : α → Json}
    (h : ∀ a, read (write a) = some a) (as : List α) :
    (array (as.map write)).list? read = some as := by
  induction as with
  | nil => rfl
  | cons a as ih =>
      simp only [list?] at ih ⊢
      rw [List.map_cons, List.mapM_cons, h a, ih]
      rfl

/-- A list of bytes is read as itself. -/
theorem list?_ofBytes (bs : Bytes) : (ofBytes bs).list? byte? = some bs :=
  list?_map byte?_ofNat bs

end Json

namespace Evidence

/-- The fields of a mock document are read from its tree. -/
theorem MockDocument.ofJson?_toJson (d : MockDocument) : ofJson? d.toJson = some d := by
  have hfields : d.toJson.fields? fields = some [.ofText d.moduleId, .ofBytes d.mrtd,
      .array (d.rtmrs.map .ofBytes), .ofText d.reportData] :=
    Json.fields?_record rfl (by decide)
  simp only [ofJson?, hfields, Option.bind_eq_bind, Option.bind_some, Json.list?_ofBytes,
    Json.list?_map Json.list?_ofBytes]
  rfl

/-- The tree of a mock document can be written. -/
theorem MockDocument.writable_toJson (d : MockDocument) : Json.Writable d.toJson := by
  refine Json.writable_record fun member hmember => ?_
  simp only [List.mem_cons, List.not_mem_nil, or_false] at hmember
  rcases hmember with rfl | rfl | rfl | rfl
  · exact .string d.moduleId
  · exact Json.writable_ofBytes d.mrtd
  · refine .array fun item hitem => ?_
    obtain ⟨bs, -, rfl⟩ := List.mem_map.mp hitem
    exact Json.writable_ofBytes bs
  · exact .string d.reportData

/-- A mock document is read back from its text. -/
theorem MockDocument.read_written (d : MockDocument) :
    (Json.parse (Text.Utf8.encode d.toJson.toCompact)).bind ofJson? = some d := by
  rw [Json.parse_toCompact d.writable_toJson, Option.bind_some, d.ofJson?_toJson]

/-- **Mock evidence commits to the digest of its binding.** -/
theorem collectMock_commits {binding evidence : Bytes} (h : collectMock binding = .ok evidence) :
    ∃ document, (Json.parse evidence).bind MockDocument.ofJson? = some document ∧
      document.reportData = Text.Hex.encode (Digest.sha512 binding) := by
  unfold collectMock mock? at h
  split at h
  · rename_i evidence' hmock
    split at hmock
    · exact absurd hmock nofun
    · obtain rfl := Except.ok.inj h
      obtain rfl := Option.some.inj hmock
      exact ⟨_, MockDocument.read_written _, rfl⟩
  · exact absurd h nofun

end Evidence

end AttestedModel
