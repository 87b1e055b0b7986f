import AttestedModel.Json.Tree
import AttestedModel.Text.Utf8

/-!
# Reading JSON

The reader takes one byte at a time.  Its state is what it has read of the token
at hand, what may come next, and the unfinished arrays and objects around it, so
that documents of any depth are read in a loop.  A byte that cannot come next
leads to the state `refused`, which no byte leaves.

`Json.parse` reads a whole byte string.
-/

namespace AttestedModel.Json

/-- A piece of a string literal: a byte of text, or the code unit of a `\u` escape. -/
inductive Piece
  | byte (b : UInt8)
  | unit (u : Nat)

/-- The first half of a surrogate pair. -/
def isLeading (u : Nat) : Bool :=
  0xd800 ≤ u && u < 0xdc00

/-- The second half of a surrogate pair. -/
def isTrailing (u : Nat) : Bool :=
  0xdc00 ≤ u && u < 0xe000

/-- The character of a surrogate pair. -/
def ofPair (leading trailing : Nat) : Char :=
  Char.ofNat (0x10000 + (leading - 0xd800) * 0x400 + (trailing - 0xdc00))

/-- The bytes of a literal's pieces, put before `rest`; none if a surrogate stands alone.  The
pieces come last piece first. -/
def bytesOfPieces : (reversed : List Piece) → (rest : Bytes) → Option Bytes
  | [], rest => some rest
  | .byte b :: before, rest => bytesOfPieces before (b :: rest)
  | .unit u :: before, rest =>
    if isTrailing u then
      match before with
      | .unit v :: before' =>
        if isLeading v then
          bytesOfPieces before' (String.utf8EncodeChar (ofPair v u) ++ rest)
        else none
      | _ => none
    else if isLeading u then none
    else bytesOfPieces before (String.utf8EncodeChar (Char.ofNat u) ++ rest)

/-- The text of a literal's pieces, last piece first, if they stand for one. -/
def textOfPieces (reversed : List Piece) : Option String :=
  (bytesOfPieces reversed []).bind Text.Utf8.decode?

/-- How far a number has been read. -/
inductive NumeralPart
  | sign
  | zero
  | whole
  | point
  | fraction
  | exponentMark
  | exponentSign
  | exponent
deriving DecidableEq

/-- The token being read. -/
inductive Scan
  | blank
  /-- The bytes of a word that are still to come, and its value. -/
  | word (rest : Bytes) (value : Json)
  /-- A number, with the digits of each part last digit first. -/
  | number (part : NumeralPart) (read : Numeral)
  | string (reversed : List Piece)
  | escape (reversed : List Piece)
  /-- A `\u` escape that lacks so many digits. -/
  | unit (reversed : List Piece) (missing value : Nat)

/-- An unfinished array or object, last part first. -/
inductive Frame
  | array (items : List Json)
  | object (members : List (Option String × Json))
  /-- An object that waits for the value of a name. -/
  | member (members : List (Option String × Json)) (name : Option String)

/-- What may come next. -/
inductive Next
  | value
  /-- A value, or the end of an array just begun. -/
  | firstItem
  /-- A name, or the end of an object just begun. -/
  | firstName
  | name
  | colon
  /-- A comma, or the end of the innermost array or object. -/
  | comma
  /-- Nothing: the document is complete. -/
  | nothing (document : Json)

/-- The state of the reader. -/
inductive Reader
  | reading (scan : Scan) (next : Next) (stack : List Frame)
  | refused

/-- The state after a value inside `stack`. -/
def accept (value : Json) : (stack : List Frame) → Reader
  | [] => .reading .blank (.nothing value) []
  | .array items :: stack => .reading .blank .comma (.array (value :: items) :: stack)
  | .member members name :: stack =>
    .reading .blank .comma (.object ((name, value) :: members) :: stack)
  | .object _ :: _ => .refused

/-- The state after a string, which is a name where a name may come. -/
def acceptString (text : Option String) : (next : Next) → (stack : List Frame) → Reader
  | .firstName, .object members :: stack =>
    .reading .blank .colon (.member members text :: stack)
  | .name, .object members :: stack =>
    .reading .blank .colon (.member members text :: stack)
  | .value, stack => accept (.string text) stack
  | .firstItem, stack => accept (.string text) stack
  | _, _ => .refused

/-- The state at a byte that may start a value. -/
def startValue (b : UInt8) (next : Next) (stack : List Frame) : Reader :=
  let read (negative : Bool) (whole : List Nat) : Numeral :=
    { negative, whole, fraction := [], exponent := none }
  if b = 0x7b then .reading .blank .firstName (.object [] :: stack)
  else if b = 0x5b then .reading .blank .firstItem (.array [] :: stack)
  else if b = 0x22 then .reading (.string []) next stack
  else if b = 0x6e then .reading (.word [0x75, 0x6c, 0x6c] .null) next stack
  else if b = 0x74 then .reading (.word [0x72, 0x75, 0x65] (.bool true)) next stack
  else if b = 0x66 then .reading (.word [0x61, 0x6c, 0x73, 0x65] (.bool false)) next stack
  else if b = 0x2d then .reading (.number .sign (read true [])) next stack
  else if b = 0x30 then .reading (.number .zero (read false [0])) next stack
  else if 0x31 ≤ b ∧ b ≤ 0x39 then
    .reading (.number .whole (read false [b.toNat - 0x30])) next stack
  else .refused

/-- A byte of white space. -/
def isSpace (b : UInt8) : Bool :=
  b = 0x20 || b = 0x0a || b = 0x0d || b = 0x09

/-- The state after a byte between tokens. -/
def between (b : UInt8) (next : Next) (stack : List Frame) : Reader :=
  if isSpace b then .reading .blank next stack
  else
    match next with
    | .value => startValue b next stack
    | .firstItem =>
      if b = 0x5d then
        match stack with
        | .array items :: stack => accept (.array items.reverse) stack
        | _ => .refused
      else startValue b next stack
    | .firstName =>
      if b = 0x22 then .reading (.string []) next stack
      else if b = 0x7d then
        match stack with
        | .object members :: stack => accept (.object members.reverse) stack
        | _ => .refused
      else .refused
    | .name => if b = 0x22 then .reading (.string []) next stack else .refused
    | .colon => if b = 0x3a then .reading .blank .value stack else .refused
    | .comma =>
      match stack with
      | .array items :: outer =>
        if b = 0x2c then .reading .blank .value stack
        else if b = 0x5d then accept (.array items.reverse) outer
        else .refused
      | .object members :: outer =>
        if b = 0x2c then .reading .blank .name stack
        else if b = 0x7d then accept (.object members.reverse) outer
        else .refused
      | _ => .refused
    | .nothing _ => .refused

/-- The value of a hexadecimal digit. -/
def hexValue? (b : UInt8) : Option Nat :=
  if 0x30 ≤ b ∧ b ≤ 0x39 then some (b.toNat - 0x30)
  else if 0x61 ≤ b ∧ b ≤ 0x66 then some (b.toNat - 0x61 + 10)
  else if 0x41 ≤ b ∧ b ≤ 0x46 then some (b.toNat - 0x41 + 10)
  else none

/-- The byte that a one-letter escape stands for. -/
def escaped? (b : UInt8) : Option UInt8 :=
  if b = 0x22 ∨ b = 0x5c ∨ b = 0x2f then some b
  else if b = 0x62 then some 0x08
  else if b = 0x66 then some 0x0c
  else if b = 0x6e then some 0x0a
  else if b = 0x72 then some 0x0d
  else if b = 0x74 then some 0x09
  else none

/-- The number read so far, continued by a byte, if it can be. -/
def continueNumber (part : NumeralPart) (n : Numeral) (b : UInt8) :
    Option (NumeralPart × Numeral) :=
  let digit := b.toNat - 0x30
  let isDigit : Bool := 0x30 ≤ b && b ≤ 0x39
  let mark : Option (NumeralPart × Numeral) :=
    if b = 0x65 ∨ b = 0x45 then some (.exponentMark, { n with exponent := some (false, []) })
    else none
  let inExponent (sign : Bool) (ds : List Nat) : Option (NumeralPart × Numeral) :=
    some (.exponent, { n with exponent := some (sign, digit :: ds) })
  match part with
  | .sign =>
    if isDigit then some (if digit = 0 then .zero else .whole, { n with whole := [digit] })
    else none
  | .zero => if b = 0x2e then some (.point, n) else mark
  | .whole =>
    if isDigit then some (.whole, { n with whole := digit :: n.whole })
    else if b = 0x2e then some (.point, n) else mark
  | .point => if isDigit then some (.fraction, { n with fraction := [digit] }) else none
  | .fraction =>
    if isDigit then some (.fraction, { n with fraction := digit :: n.fraction }) else mark
  | .exponentMark =>
    if isDigit then inExponent false []
    else if b = 0x2b then some (.exponentSign, n)
    else if b = 0x2d then some (.exponentSign, { n with exponent := some (true, []) })
    else none
  | .exponentSign =>
    match n.exponent with
    | some (sign, ds) => if isDigit then inExponent sign ds else none
    | none => none
  | .exponent =>
    match n.exponent with
    | some (sign, ds) => if isDigit then inExponent sign ds else none
    | none => none

/-- The number read, with its digits in order, if it may end here. -/
def finishNumber? (part : NumeralPart) (n : Numeral) : Option Numeral :=
  match part with
  | .zero | .whole | .fraction | .exponent =>
    some { n with
      whole := n.whole.reverse
      fraction := n.fraction.reverse
      exponent := n.exponent.map fun e => (e.1, e.2.reverse) }
  | _ => none

/-- The state after a byte.  A number ends at the first byte that does not continue it, which
then counts as a byte between tokens. -/
def Reader.step : Reader → UInt8 → Reader
  | .refused, _ => .refused
  | .reading scan next stack, b =>
    match scan with
    | .blank => between b next stack
    | .word [] _ => .refused
    | .word (e :: es) value =>
      if b ≠ e then .refused
      else if es.isEmpty then accept value stack
      else .reading (.word es value) next stack
    | .number part n =>
      match continueNumber part n b with
      | some (part, n) => .reading (.number part n) next stack
      | none =>
        match finishNumber? part n with
        | none => .refused
        | some n =>
          match accept (.number n) stack with
          | .reading _ next stack => between b next stack
          | .refused => .refused
    | .string pieces =>
      if b = 0x22 then acceptString (textOfPieces pieces) next stack
      else if b = 0x5c then .reading (.escape pieces) next stack
      else if b < 0x20 then .refused
      else .reading (.string (.byte b :: pieces)) next stack
    | .escape pieces =>
      if b = 0x75 then .reading (.unit pieces 4 0) next stack
      else
        match escaped? b with
        | some c => .reading (.string (.byte c :: pieces)) next stack
        | none => .refused
    | .unit pieces missing value =>
      match hexValue? b with
      | none => .refused
      | some d =>
        let value := value * 16 + d
        if missing ≤ 1 then .reading (.string (.unit value :: pieces)) next stack
        else .reading (.unit pieces (missing - 1) value) next stack

/-- The document read, if the input may end here. -/
def Reader.finish? : Reader → Option Json
  | .reading .blank (.nothing document) _ => some document
  | .reading (.number part n) _ [] => (finishNumber? part n).map .number
  | _ => none

/-- The state before the first byte. -/
def Reader.start : Reader :=
  .reading .blank .value []

/-- The document that a byte string writes. -/
def parse (bs : Bytes) : Option Json :=
  (bs.foldl Reader.step Reader.start).finish?

end AttestedModel.Json
