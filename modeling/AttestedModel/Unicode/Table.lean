import AttestedModel.Text.Split

/-!
# Tables of code points

A property of characters is a table: rows in ascending order, each of which says
what holds of a range of code points.  Of a code point without a row nothing is
said.

A table is written as words between spaces and line breaks.  A word begins with
the first code point of a row in hexadecimal digits, and after a hyphen the last
one if it is another; what holds of them follows.
-/

namespace AttestedModel.Unicode

/-- What holds of the code points from `first` to `last`. -/
structure Row (α : Type) where
  first : Nat
  last : Nat
  value : α
deriving Repr

/-- Rows in ascending order. -/
structure Table (α : Type) where
  rows : Array (Row α)

/-- The value of an upper-case hexadecimal digit. -/
def digitValue (c : Char) : Nat :=
  if c.isDigit then c.toNat - 48 else c.toNat - 55

/-- An upper-case hexadecimal digit. -/
def isDigit (c : Char) : Bool :=
  c.isDigit || ('A' ≤ c && c ≤ 'F')

/-- The number that hexadecimal digits write. -/
def number (digits : List Char) : Nat :=
  digits.foldl (fun n c => n * 16 + digitValue c) 0

/-- The number at the front of a word, and what follows it. -/
def takeNumber (word : List Char) : Nat × List Char :=
  (number (word.takeWhile isDigit), word.dropWhile isDigit)

/-- The characters whose numbers stand between points after an equals sign. -/
def sequence (rest : List Char) : List Char :=
  (Text.pieces (· = '.') (rest.drop 1)).map fun digits => Char.ofNat (number digits)

namespace Row

/-- The row that a word writes. -/
def ofWord (value : List Char → α) (word : List Char) : Row α :=
  let (first, rest) := takeNumber word
  match rest with
  | '-' :: rest =>
    let (last, rest) := takeNumber rest
    { first, last, value := value rest }
  | rest => { first, last := first, value := value rest }

end Row

namespace Table

/-- The table that a text writes; `value` reads what follows the code points of a row. -/
def ofText (value : List Char → α) (text : String) : Table α :=
  let words := (Text.pieces (fun c => c = ' ' || c = '\n') text.toList).filter (· ≠ [])
  { rows := (words.map (Row.ofWord value)).toArray }

/-- The row of a code point among the rows from `low` on and before `high`. -/
def search? (rows : Array (Row α)) (point low high : Nat) : Option (Row α) :=
  if low < high then
    let middle := (low + high) / 2
    match rows[middle]? with
    | none => none
    | some row =>
      if point < row.first then search? rows point low middle
      else if row.last < point then search? rows point (middle + 1) high
      else some row
  else none
termination_by high - low

/-- The row of a character. -/
def row? (table : Table α) (c : Char) : Option (Row α) :=
  search? table.rows c.toNat 0 table.rows.size

/-- What the table says of a character. -/
def find? (table : Table α) (c : Char) : Option α :=
  (table.row? c).map (·.value)

end Table

end AttestedModel.Unicode
