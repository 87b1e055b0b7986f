import AttestedModel.Unicode.Direction
import AttestedModel.Unicode.Joining
import AttestedModel.Unicode.Mark
import AttestedModel.Unicode.NormalForm
import AttestedModel.Url.Folding
import AttestedModel.Url.Punycode

/-!
# Labels

A name is a row of labels.  A label of any characters has a form in ASCII, which
a mark in front tells from a plain label, and it has this form only if it is what
folding and composing leave it.  Joiners stand in it only where they show, and if
any label of a name runs from the right, each of its labels has one direction.
-/

namespace AttestedModel.Url

/-- A label. -/
structure Label where
  /-- Its characters. -/
  chars : List Char
  /-- Its form in ASCII. -/
  ascii : List Char
deriving DecidableEq, Repr

namespace Label

open Unicode (Direction Joining)

/-- A character of ASCII. -/
def isAscii (c : Char) : Bool :=
  c.toNat < 0x80

/-- The front of a label in its form in ASCII. -/
def asciiMark : List Char := ['x', 'n', '-', '-']

/-- Characters that the form in ASCII may have after its mark. -/
def longestEncoded : Nat := 2000

/-- Characters that a label may have if not all of them are ASCII. -/
def longestWide : Nat := 1000

/-- A character that keeps letters from joining. -/
def nonJoiner : Char := '\u200c'

/-- A character that makes letters join. -/
def joiner : Char := '\u200d'

/-- The first character that neighbours do not see through joins in one of these ways. -/
def joins (ways : List Joining) (cs : List Char) : Bool :=
  (cs.find? (Unicode.joining · ≠ .transparent)).any (Unicode.joining · ∈ ways)

/-- A joiner may stand between these characters, of which those before it come last one first:
after a sign that takes a letter its vowel, or where it parts two letters. -/
def joinerFits (c : Char) (before after : List Char) : Bool :=
  before.head?.any (Unicode.combiningClass · = Unicode.viramaClass) ||
    (c = nonJoiner && joins [.left, .dual] before && joins [.right, .dual] after)

/-- All joiners may stand where they do; the characters before come last one first. -/
def joinersFit (before : List Char) : List Char → Bool
  | [] => true
  | c :: cs =>
    (!(c = nonJoiner || c = joiner) || joinerFits c before cs) && joinersFit (c :: before) cs

/-- The characters may make a label: the first one is no mark, joiners are in place, and there
are not too many. -/
def fits (cs : List Char) : Bool :=
  cs.head?.all (!Unicode.isMark ·) && joinersFit [] cs &&
    (cs.all isAscii || cs.length ≤ longestWide)

/-- Folding and composing change nothing. -/
def isFolded (cs : List Char) : Bool :=
  cs.all (fun c => foldChar? c = some [c]) && Unicode.normalize cs = cs

/-- The characters of a label, of which the form in ASCII may be given. -/
def charsOf? (cs : List Char) : Option (List Char) :=
  if asciiMark.isPrefixOf cs then do
    let encoded := cs.drop asciiMark.length
    if !cs.all isAscii ∨ cs.getLast? = some '-' ∨ longestEncoded < encoded.length then none
    let chars ← Punycode.decode? encoded
    if isFolded chars then some chars else none
  else some cs

/-- The label of folded characters. -/
def ofFolded? (cs : List Char) : Option Label := do
  let chars ← charsOf? cs
  if fits chars then
    some { chars, ascii := if cs.all isAscii then cs else asciiMark ++ Punycode.encode cs }
  else none

/-- The label runs from the right somewhere. -/
def isFromRight (label : Label) : Bool :=
  label.chars.any fun c => Unicode.direction c ∈ [.right, .arabicNumber]

/-- The directions may stand within a label, in this order. -/
def directionsFit : List Direction → Bool
  | [] => true
  | first :: rest =>
    let back := rest.reverse.dropWhile (· = .mark)
    match first with
    | .left =>
      back.head?.all (· ∈ [.left, .europeanNumber]) &&
        back.all (· ∈ [.left, .europeanNumber, .neutral, .mark])
    | .right =>
      back.head?.all (· ∈ [.right, .europeanNumber, .arabicNumber]) &&
        back.all (· ∈ [.right, .europeanNumber, .arabicNumber, .neutral, .mark]) &&
        !(.europeanNumber ∈ back && .arabicNumber ∈ back)
    | _ => false

/-- The labels may stand in one name. -/
def fitTogether (labels : List Label) : Bool :=
  !labels.any isFromRight ||
    labels.all fun label => directionsFit (label.chars.map Unicode.direction)

/-- The name is ASCII in small letters or capitals, and no label is marked.  Of such a name nothing
is folded but the capitals, and all labels may stand where they do. -/
def isPlain (name : List Char) : Bool :=
  name.all isAscii &&
    !(Text.pieces (· = '.') (name.map Char.toLower)).any (asciiMark.isPrefixOf ·)

/-- The labels of a name. -/
def ofName? (name : List Char) : Option (List Label) := do
  let folded := Unicode.normalize (← name.mapM foldChar?).flatten
  let labels ← (Text.pieces (· = '.') folded).mapM ofFolded?
  if fitTogether labels then some labels else none

end Label

end AttestedModel.Url
