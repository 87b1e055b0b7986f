import AttestedModel.Text.Base64
import AttestedModel.Text.Split
import AttestedModel.Text.Utf8

/-!
# Armored text

Binary contents in a text file.  Each stands in a section of lines between a
begin line and an end line, both of which carry its label.  Text outside the
sections counts for nothing, so that a file may hold no section at all.

The lines of a section are base64 in groups of eight symbols.  White space is
passed over, and padding may be left out at the end; but padding that is there
stands at the end of a group, and leaves a whole number of bytes.
-/

namespace AttestedModel.Text.Armor

/-- The front of a line that begins a section. -/
def beginMark : Bytes := Utf8.encode "-----BEGIN "

/-- The front of a line that ends a section. -/
def endMark : Bytes := Utf8.encode "-----END "

/-- A dash. -/
def dash : UInt8 := 0x2d

/-- What comes after the label of either line. -/
def dashes : Bytes := List.replicate 5 dash

/-- The end of a line. -/
def isLineEnd (b : UInt8) : Bool :=
  b = 0x0a || b = 0x0d

/-- White space among the symbols. -/
def isSpace (b : UInt8) : Bool :=
  b = 0x20 || (0x09 ≤ b && b ≤ 0x0d)

/-- The number of dashes at the front of a reversed line, and how many bytes they and the spaces
before and between them are, up to the last dash. -/
def trailingDashes : (line : Bytes) → (seen count length : Nat) → Nat × Nat
  | b :: bs, seen, count, length =>
    if b = dash then trailingDashes bs (seen + 1) (count + 1) (seen + 1)
    else if b = 0x20 then trailingDashes bs (seen + 1) count length
    else (count, length)
  | [], _, count, length => (count, length)

/-- The label on a line that begins a section: what lies between the mark and five dashes, among
which and after which there may be spaces. -/
def label? (line : Bytes) : Option Bytes :=
  let (count, length) := trailingDashes line.reverse 0 0 0
  if count = dashes.length then
    some ((line.take (line.length - length)).drop beginMark.length)
  else none

/-- The six bits of a symbol; none of padding. -/
def bits? (b : UInt8) : Option (Option Nat) :=
  if b = 0x3d then some none
  else (Base64.value? (Char.ofNat b.toNat)).map some

/-- The bytes of a group: of eight symbols, of which the last ones may be padding. -/
def group? (symbols : List (Option Nat)) : Option Bytes :=
  let front := symbols.takeWhile Option.isSome
  let count := front.length
  if symbols.drop count |>.all Option.isNone then
    if count = 0 ∨ count = 1 ∨ count = 5 then none
    else
      let n := front.foldl (fun n bits => n * 64 + bits.getD 0) 0
      some (Bytes.ofNat (count * 6 / 8) (n / Nat.pow 2 (count * 6 % 8)))
  else none

/-- The bytes of symbols, in groups. -/
def groups? : List (Option Nat) → Option Bytes
  | [] => some []
  | a :: rest => do
    return (← group? (a :: rest.take 7)) ++ (← groups? (rest.drop 7))
termination_by symbols => symbols.length
decreasing_by simp only [List.length_drop, List.length_cons]; omega

/-- The content that the lines of a section write. -/
def content? (body : Bytes) : Option Bytes := do
  groups? (← (body.filter (!isSpace ·)).mapM bits?)

/-- A section. -/
structure Section where
  label : Bytes
  content : Bytes
deriving DecidableEq, Repr

/-- The sections of lines, of those labels that are of interest; the others are passed over
unread.  `current` is the label of the section that is open, and `body` its lines so far, last
line first.  A begin line in a section changes its label.  There are none if a begin line has no
label, if a section has no end line or if its content cannot be read. -/
def sectionsOfLines? (labels : List Bytes) :
    (current : Option Bytes) → (body lines : List Bytes) → Option (List Section)
  | none, _, [] => some []
  | some _, _, [] => none
  | current, body, line :: rest =>
    if beginMark.isPrefixOf line then do
      sectionsOfLines? labels (some (← label? line)) body rest
    else
      match current with
      | none => sectionsOfLines? labels none body rest
      | some label =>
        if (endMark ++ label ++ dashes).isPrefixOf line then
          if label ∈ labels then do
            let content ← content? body.reverse.flatten
            return ⟨label, content⟩ :: (← sectionsOfLines? labels none [] rest)
          else sectionsOfLines? labels none [] rest
        else sectionsOfLines? labels (some label) (line :: body) rest

/-- The sections of a text. -/
def sections? (labels : List Bytes) (text : Bytes) : Option (List Section) :=
  sectionsOfLines? labels none [] (pieces isLineEnd text)

end AttestedModel.Text.Armor
