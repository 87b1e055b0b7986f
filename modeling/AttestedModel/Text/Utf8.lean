import AttestedModel.Bytes

/-!
# Text as bytes

The UTF-8 form of a text, and the text of bytes: strictly, where every byte must
belong to the shortest form of a Unicode scalar value (`decode?`), or with the
replacement character for each longest piece that could have started one
(`decodeLossy`).
-/

namespace AttestedModel.Text.Utf8

/-- The bytes of a text. -/
def encode (text : String) : Bytes :=
  text.toList.flatMap String.utf8EncodeChar

/-- How the bytes at the front of a string read: as a character, or as an ill-formed piece;
either way with what follows. -/
inductive Step
  | char (c : Char) (rest : Bytes)
  | illFormed (rest : Bytes)

/-- A byte that continues a character. -/
def isContinuation (b : UInt8) : Bool :=
  0x80 ≤ b && b < 0xc0

/-- The bits that a continuing byte carries. -/
def payload (b : UInt8) : Nat :=
  b.toNat % 64

/-- The second byte of a character of three bytes: neither a longer form than needed nor a
surrogate. -/
def isSecondOfThree (first second : UInt8) : Bool :=
  isContinuation second && (first != 0xe0 || 0xa0 ≤ second) && (first != 0xed || second < 0xa0)

/-- The second byte of a character of four bytes: neither a longer form than needed nor past
the last scalar value. -/
def isSecondOfFour (first second : UInt8) : Bool :=
  isContinuation second && (first != 0xf0 || 0x90 ≤ second) && (first != 0xf4 || second < 0x90)

/-- One step of reading, at a byte `b0` and what follows it. -/
def step (b0 : UInt8) (rest : Bytes) : Step :=
  if b0 < 0x80 then .char (Char.ofNat b0.toNat) rest
  else if 0xc2 ≤ b0 ∧ b0 < 0xe0 then
    match rest with
    | b1 :: tail =>
      if isContinuation b1 then
        .char (Char.ofNat ((b0.toNat % 32) * 64 + payload b1)) tail
      else .illFormed rest
    | [] => .illFormed rest
  else if 0xe0 ≤ b0 ∧ b0 < 0xf0 then
    match rest with
    | b1 :: tail1 =>
      if isSecondOfThree b0 b1 then
        match tail1 with
        | b2 :: tail2 =>
          if isContinuation b2 then
            .char (Char.ofNat ((b0.toNat % 16) * 4096 + payload b1 * 64 + payload b2)) tail2
          else .illFormed tail1
        | [] => .illFormed tail1
      else .illFormed rest
    | [] => .illFormed rest
  else if 0xf0 ≤ b0 ∧ b0 < 0xf5 then
    match rest with
    | b1 :: tail1 =>
      if isSecondOfFour b0 b1 then
        match tail1 with
        | b2 :: tail2 =>
          if isContinuation b2 then
            match tail2 with
            | b3 :: tail3 =>
              if isContinuation b3 then
                let high := (b0.toNat % 8) * 262144 + payload b1 * 4096
                .char (Char.ofNat (high + payload b2 * 64 + payload b3)) tail3
              else .illFormed tail2
            | [] => .illFormed tail2
          else .illFormed tail1
        | [] => .illFormed tail1
      else .illFormed rest
    | [] => .illFormed rest
  else .illFormed rest

/-- The bytes that a step leaves. -/
def Step.rest : Step → Bytes
  | .char _ rest => rest
  | .illFormed rest => rest

/-- A step consumes its first byte at least. -/
theorem length_rest_step (b : UInt8) (rest : Bytes) : (step b rest).rest.length ≤ rest.length := by
  unfold step
  repeat' split
  all_goals simp only [Step.rest, List.length_cons]
  all_goals omega

/-- The characters of a well-formed byte string. -/
def chars? : (bs : Bytes) → Option (List Char)
  | [] => some []
  | b :: bs =>
    match _h : step b bs with
    | .char c rest => (chars? rest).map (c :: ·)
    | .illFormed _ => none
termination_by bs => bs.length
decreasing_by
  have := length_rest_step b bs
  simp_all only [Step.rest, List.length_cons]
  omega

/-- The text of a well-formed byte string. -/
def decode? (bs : Bytes) : Option String :=
  (chars? bs).map String.ofList

/-- The characters of any byte string, U+FFFD for each ill-formed piece. -/
def charsLossy : (bs : Bytes) → List Char
  | [] => []
  | b :: bs =>
    match _h : step b bs with
    | .char c rest => c :: charsLossy rest
    | .illFormed rest => '\uFFFD' :: charsLossy rest
termination_by bs => bs.length
decreasing_by
  all_goals
    have := length_rest_step b bs
    simp_all only [Step.rest, List.length_cons]
    omega

/-- The text of any byte string, U+FFFD for each ill-formed piece. -/
def decodeLossy (bs : Bytes) : String :=
  String.ofList (charsLossy bs)

end AttestedModel.Text.Utf8
