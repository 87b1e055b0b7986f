import AttestedModel.Url.Label
import AttestedModel.Url.Percent

/-!
# Hosts

A host is a name, or an address of four bytes or of eight 16-bit pieces.  Names
of web servers are brought to lower case and to ASCII, and a name whose last label
is a number must be an address; the hosts of other schemes are taken as they are.
-/

namespace AttestedModel.Url

/-- Why a text is no address. -/
inductive Fault
  | relative
  | emptyHost
  | hostCharacter
  | domain
  | ipv4
  | ipv6
  | port
deriving DecidableEq, Repr

/-- The wording of a fault. -/
def Fault.message : Fault → String
  | relative => "relative URL without a base"
  | emptyHost => "empty host"
  | hostCharacter => "invalid domain character"
  | domain => "invalid international domain name"
  | ipv4 => "invalid IPv4 address"
  | ipv6 => "invalid IPv6 address"
  | port => "invalid port number"

/-- A host. -/
inductive Host
  | domain (text : List Char)
  | ipv4 (address : Nat)
  | ipv6 (pieces : List Nat)
deriving DecidableEq, Repr

/-- The number of all addresses of four bytes. -/
def addressCount : Nat := 4294967296

/-- The number that digits of a base write, or that of all addresses if it is greater. -/
def ofDigits? (base : Nat) (cs : List Char) : Option Nat :=
  cs.foldl (fun n? c => do
    let n ← n?
    let d ← Percent.hexValue? c
    if d < base then some (min (n * base + d) addressCount) else none) (some 0)

namespace Host

/-- A part of an address of four bytes: decimal, octal after a zero, hexadecimal after `0x`. -/
def ipv4Part? : List Char → Option Nat
  | [] => none
  | '0' :: 'x' :: cs => ofDigits? 16 cs
  | '0' :: 'X' :: cs => ofDigits? 16 cs
  | '0' :: c :: cs => ofDigits? 8 (c :: cs)
  | cs => ofDigits? 10 cs

/-- The labels of a name, without an empty one at the end. -/
def labels (name : List Char) : List (List Char) :=
  let all := Text.pieces (· = '.') name
  if all.getLast? = some [] then all.dropLast else all

/-- The last label is a number. -/
def endsInNumber (name : List Char) : Bool :=
  match (labels name).getLast? with
  | none => false
  | some last => (last ≠ [] && last.all Char.isDigit) || (ipv4Part? last).isSome

/-- The address of parts: the last one fills the bytes that the others leave. -/
def ipv4OfParts? (parts : List Nat) : Option Nat := do
  let last ← parts.getLast?
  let front := parts.dropLast
  if parts.length ≤ 4 ∧ front.all (· ≤ 255) ∧ last < Nat.pow 256 (4 - front.length) then
    some (front.foldl (fun n part => n * 256 + part) 0 * Nat.pow 256 (4 - front.length) + last)
  else none

/-- The address of four bytes that a name writes. -/
def ipv4? (name : List Char) : Option Nat := do
  ipv4OfParts? (← (labels name).mapM ipv4Part?)

/-- A byte in decimal, without zeros before it. -/
def byte? (cs : List Char) : Option Nat :=
  if cs ≠ [] ∧ cs.all Char.isDigit ∧ (cs.length = 1 ∨ cs.head? ≠ some '0') then
    (ofDigits? 10 cs).filter (· ≤ 255)
  else none

/-- The two pieces of an address of four bytes. -/
def piecesOfIpv4? (cs : List Char) : Option (List Nat) := do
  let [a, b, c, d] ← (Text.pieces (· = '.') cs).mapM byte? | none
  return [a * 256 + b, c * 256 + d]

/-- One piece: up to four hexadecimal digits. -/
def ipv6Piece? (cs : List Char) : Option Nat :=
  if cs ≠ [] ∧ cs.length ≤ 4 then ofDigits? 16 cs else none

/-- Pieces between colons, of which the last two may be written as an address of four bytes. -/
def ipv6Pieces? : List (List Char) → Option (List Nat)
  | [] => some []
  | [last] => if '.' ∈ last then piecesOfIpv4? last else (ipv6Piece? last).map ([·])
  | cs :: rest => do return (← ipv6Piece? cs) :: (← ipv6Pieces? rest)

/-- The pieces of one side of a double colon. -/
def ipv6Side? (cs : List Char) : Option (List Nat) :=
  if cs = [] then some [] else ipv6Pieces? (Text.pieces (· = ':') cs)

/-- The texts before and after the first double colon. -/
def splitAtDoubleColon : List Char → Option (List Char × List Char)
  | ':' :: ':' :: rest => some ([], rest)
  | c :: cs => (splitAtDoubleColon cs).map fun (front, rest) => (c :: front, rest)
  | [] => none

/-- The address of eight pieces that a text writes.  A double colon stands for one zero piece at
least; before it there is no address of four bytes. -/
def ipv6? (cs : List Char) : Option (List Nat) := do
  match splitAtDoubleColon cs with
  | none => (← ipv6Side? cs) |> fun all => if all.length = 8 then some all else none
  | some (front, rest) =>
    if '.' ∈ front then none
    let front ← ipv6Side? front
    let rest ← ipv6Side? rest
    if front.length + rest.length ≤ 7 then
      some (front ++ List.replicate (8 - front.length - rest.length) 0 ++ rest)
    else none

/-- A character of ASCII that no name of a web server holds. -/
def isForbidden (c : Char) : Bool :=
  c.toNat ≤ 0x20 || c.toNat = 0x7f ||
    c ∈ ['%', '#', '/', ':', '<', '>', '?', '@', '[', '\\', ']', '^', '|']

/-- The name of a web server in ASCII and in lower case. -/
def asciiName? (name : List Char) : Option (List Char) := do
  let ascii ←
    if Label.isPlain name then some (name.map Char.toLower)
    else do
      let labels ← Label.ofName? name
      some (['.'].intercalate (labels.map (·.ascii)))
  if ascii.any isForbidden then none else some ascii

/-- The address between brackets. -/
def bracketed (cs : List Char) : Except Fault Host :=
  if cs.getLast? = some ']' then
    match ipv6? (cs.drop 1).dropLast with
    | some address => .ok (.ipv6 address)
    | none => .error .ipv6
  else .error .ipv6

/-- The host of a web server. -/
def ofWeb (cs : List Char) : Except Fault Host :=
  if cs.head? = some '[' then bracketed cs
  else
    match asciiName? (Text.Utf8.charsLossy (Percent.decode cs)) with
    | none => .error .domain
    | some name =>
      if name = [] then .error .emptyHost
      else if endsInNumber name then
        match ipv4? name with
        | some address => .ok (.ipv4 address)
        | none => .error .ipv4
      else .ok (.domain name)

/-- A character that the host of no scheme holds. -/
def isNeverInHost (c : Char) : Bool :=
  c.toNat = 0 ||
    c ∈ ['\t', '\n', '\r', ' ', '#', '/', ':', '<', '>', '?', '@', '[', '\\', ']', '^', '|']

/-- The host of another scheme. -/
def ofOther (cs : List Char) : Except Fault Host :=
  if cs.head? = some '[' then bracketed cs
  else if cs.any isNeverInHost then .error .hostCharacter
  else .ok (.domain (Percent.encode (fun _ => false) cs))

/-- The number in decimal digits. -/
def decimal (n : Nat) : List Char :=
  Nat.toDigits 10 n

/-- Where the longest run of two zero pieces at least begins, and its length. -/
def longestZeros (pieces : List Nat) : Nat × Nat :=
  let runAt (k : Nat) := ((pieces.drop k).takeWhile (· = 0)).length
  let best := (List.range pieces.length).foldl
    (fun best k => if runAt k > best.2 then (k, runAt k) else best) (0, 1)
  if best.2 < 2 then (pieces.length, 0) else best

/-- Pieces between colons. -/
def writePieces (pieces : List Nat) : List Char :=
  [':'].intercalate (pieces.map (Nat.toDigits 16))

/-- The written form of a host. -/
def chars : Host → List Char
  | .domain text => text
  | .ipv4 n =>
    ['.'].intercalate [decimal (n / 16777216), decimal (n / 65536 % 256),
      decimal (n / 256 % 256), decimal (n % 256)]
  | .ipv6 pieces =>
    let (start, length) := longestZeros pieces
    if length = 0 then '[' :: writePieces pieces ++ [']']
    else '[' :: writePieces (pieces.take start) ++ ':' :: ':' ::
      writePieces (pieces.drop (start + length)) ++ [']']

end Host

end AttestedModel.Url
