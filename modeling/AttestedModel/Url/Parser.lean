import AttestedModel.Text.Integer
import AttestedModel.Url.Host

/-!
# Addresses

How the text of an address is read.  White space around it is dropped, and tabs
and line breaks anywhere; the first number sign starts the fragment and the first
question mark before it the query, so that neither can reach into the rest.

The schemes of the web and of files are special: a backslash is a slash there,
they have a host, and their path is never empty.  In a path the segments of one
and of two dots are resolved, also where the dots are escaped; nothing else is
unescaped.  A segment that begins with a drive is never dropped.  A path that
begins with no slash is opaque: it has no segments.
-/

namespace AttestedModel

namespace Url

/-- A path. -/
inductive Route
  | plain (text : List Char)
  | segments (list : List (List Char))
deriving DecidableEq, Repr

end Url

/-- An address. -/
structure Url where
  scheme : List Char
  user : List Char
  password : List Char
  host : Option Url.Host
  port : Option Nat
  route : Url.Route
  query : Option (List Char)
  fragment : Option (List Char)
deriving DecidableEq, Repr

namespace Url

/-- A character that is dropped at either end. -/
def isMargin (c : Char) : Bool :=
  c.toNat ≤ 0x20

/-- A character that is dropped anywhere. -/
def isBreak (c : Char) : Bool :=
  c = '\t' || c = '\n' || c = '\r'

/-- The characters between the margins. -/
def dropMargins (cs : List Char) : List Char :=
  ((cs.dropWhile isMargin).reverse.dropWhile isMargin).reverse

/-- The characters that are not dropped. -/
def dropBreaks (cs : List Char) : List Char :=
  cs.filter (!isBreak ·)

/-- What stands before the first character of a kind, and what after it, if it is there. -/
def cutAt (stop : Char → Bool) (cs : List Char) : List Char × Option (List Char) :=
  (cs.takeWhile (!stop ·), (cs.dropWhile (!stop ·)).tail?)

/-- The kinds of schemes. -/
inductive Kind
  | web
  | file
  | other
deriving DecidableEq, Repr

/-- The schemes of the web, each with its port. -/
def webPorts : List (List Char × Nat) :=
  [("http".toList, 80), ("https".toList, 443), ("ws".toList, 80), ("wss".toList, 443),
    ("ftp".toList, 21)]

/-- The kind of a scheme. -/
def kindOf (scheme : List Char) : Kind :=
  if scheme = "file".toList then .file
  else if (webPorts.lookup scheme).isSome then .web
  else .other

/-- A slash, as a kind of schemes has it. -/
def Kind.isSlash (kind : Kind) (c : Char) : Bool :=
  c = '/' || (c = '\\' && kind ≠ .other)

/-- A letter of ASCII. -/
def isLetter (c : Char) : Bool :=
  c.isAlpha

/-- A character of a scheme. -/
def isSchemeChar (c : Char) : Bool :=
  c.isAlphanum || c = '+' || c = '-' || c = '.'

/-- The scheme in lower case, and what follows its colon. -/
def scheme? (cs : List Char) : Option (List Char × List Char) :=
  match cutAt (· = ':') cs with
  | (front, some rest) =>
    let scheme := dropBreaks front
    if scheme.head?.any isLetter ∧ scheme.all isSchemeChar then
      some (scheme.map Char.toLower, rest)
    else none
  | (_, none) => none

/-- A segment of one dot. -/
def isSingleDot (segment : List Char) : Bool :=
  let s := segment.map Char.toLower
  s = ['.'] || s = "%2e".toList

/-- A segment of two dots. -/
def isDoubleDot (segment : List Char) : Bool :=
  let s := segment.map Char.toLower
  s = ['.', '.'] || s = ".%2e".toList || s = "%2e.".toList || s = "%2e%2e".toList

/-- The letter of a drive and its mark. -/
def isDrive (segment : List Char) : Bool :=
  match segment with
  | [letter, mark] => isLetter letter && (mark = ':' || mark = '|')
  | _ => false

/-- A drive, and what does not belong to its name. -/
def beginsWithDrive (segment : List Char) : Bool :=
  isDrive (segment.take 2) && (segment.drop 2).head?.all (· = '\\')

/-- The segments, last one first, after one more. -/
def enter (kind : Kind) (before : List (List Char)) (segment : List Char) : List (List Char) :=
  if isDoubleDot segment then
    if before.head?.any beginsWithDrive then before else before.tail
  else if isSingleDot segment then before
  else if kind = .file ∧ before = [] ∧ isDrive segment then [segment.take 1 ++ [':']]
  else segment :: before

/-- A drive and the segment after it, where a break stands for the slash between them. -/
def brokenDrive? (piece : List Char) : Option (List Char × List Char) :=
  match piece.dropWhile isBreak with
  | [] => none
  | letter :: rest =>
    match rest.dropWhile isBreak with
    | ':' :: rest =>
      if isLetter letter ∧ rest.head?.any isBreak ∧ dropBreaks rest ≠ [] then
        some ([letter, ':'], dropBreaks rest)
      else none
    | _ => none

/-- The segments, last one first, after those that pieces between slashes write.  Dots at the end
leave a segment of their own, which is empty.  In the address of a file a break may end a drive
that comes first; what follows it then is taken as it is. -/
def resolve (kind : Kind) (before : List (List Char)) : List (List Char) → List (List Char)
  | [] => before
  | piece :: pieces =>
    match if kind = .file ∧ before = [] then brokenDrive? piece else none with
    | some (drive, rest) => resolve kind [Percent.encode Percent.inPath rest, drive] pieces
    | none =>
      let segment := Percent.encode Percent.inPath (dropBreaks piece)
      let after := enter kind before segment
      if pieces.isEmpty ∧ (isSingleDot segment ∨ isDoubleDot segment) then [] :: after
      else resolve kind after pieces

/-- The segments that follow the first slash of a path.  The address of a file has no empty ones
in front. -/
def segmentsOf (kind : Kind) (cs : List Char) : List (List Char) :=
  let all := (resolve kind [] (Text.pieces kind.isSlash cs)).reverse
  if kind = .file then
    match all.dropWhile (· = []) with
    | [] => [[]]
    | rest => rest
  else all

/-- The path after an authority.  Only other schemes have a path without any segment. -/
def pathOf (kind : Kind) (cs : List Char) : Route :=
  match cs with
  | [] => .segments (if kind = .other then [] else [[]])
  | c :: rest => .segments (segmentsOf kind (if kind.isSlash c then rest else cs))

/-- The greatest port. -/
def greatestPort : Nat := 65535

/-- The port after a colon, and what follows it: nothing, or a backslash and more.  No digits, or
the port that belongs to the scheme, count as none. -/
def portOf (scheme : List Char) (cs : List Char) : Except Fault (Option Nat × List Char) :=
  let digits := cs.takeWhile Char.isDigit
  let rest := cs.dropWhile Char.isDigit
  if rest.head?.any (· ≠ '\\') then .error .port
  else if digits = [] then .ok (none, rest)
  else
    match Text.Integer.digitsFrom greatestPort 0 digits with
    | .ok port => .ok (if webPorts.lookup scheme = some port then none else some port, rest)
    | .error _ => .error .port

/-- The number of characters, added to `n`, before the first colon.  Between brackets there is
none that counts. -/
def hostLength (bracketed : Bool) (n : Nat) : List Char → Nat
  | [] => n
  | c :: cs =>
    if c = ':' ∧ !bracketed then n
    else hostLength (if c = '[' then true else if c = ']' then false else bracketed) (n + 1) cs

/-- The host and the port of an authority. -/
def cutPort (cs : List Char) : List Char × Option (List Char) :=
  let n := hostLength false 0 cs
  (cs.take n, (cs.drop n).tail?)

/-- What stands before the last at sign of an authority, if there is one, and the rest. -/
def cutCredentials (cs : List Char) : Option (List Char) × List Char :=
  let back := cs.reverse
  ((back.dropWhile (· ≠ '@')).tail?.map List.reverse, (back.takeWhile (· ≠ '@')).reverse)

/-- The user name and the password that credentials write. -/
def readCredentials (cs : List Char) : List Char × List Char :=
  let (user, password) := cutAt (· = ':') cs
  (Percent.encode Percent.inCredentials user,
    Percent.encode Percent.inCredentials (password.getD []))

/-- What follows the path of an address. -/
structure Ending where
  query : Option (List Char)
  fragment : Option (List Char)

/-- Nothing follows. -/
def Ending.isNone (ending : Ending) : Bool :=
  ending.query.isNone && ending.fragment.isNone

/-- The address with an authority and what follows it.  An at sign with nothing before it has a
host after it, or nothing at all. -/
def withAuthority (kind : Kind) (scheme : List Char) (ending : Ending) (cs : List Char) :
    Except Fault Url := do
  let path := cs.dropWhile (!kind.isSlash ·)
  let (credentials, rest) := cutCredentials (cs.takeWhile (!kind.isSlash ·))
  if credentials = some [] ∧ rest = [] ∧ ¬ (path = [] ∧ ending.isNone) then throw .emptyHost
  let (user, password) := readCredentials (credentials.getD [])
  let (hostText, portText) := cutPort rest
  if hostText = [] ∧ (kind = .web ∨ user ≠ [] ∨ password ≠ [] ∨ portText.isSome) then
    throw .emptyHost
  let host ← if kind = .web then Host.ofWeb hostText else Host.ofOther hostText
  let (port, rest) ← match portText with
    | some text => portOf scheme text
    | none => pure (none, [])
  return {
    scheme, user, password, host := some host, port, route := pathOf kind (rest ++ path)
    query := ending.query, fragment := ending.fragment }

/-- The address of a file, with the segments of its path. -/
def fileUrl (ending : Ending) (host : Host) (list : List (List Char)) : Url :=
  { scheme := "file".toList, user := [], password := [], host := some host, port := none,
    route := .segments list, query := ending.query, fragment := ending.fragment }

/-- The name of the machine itself. -/
def thisMachine : Host := .domain "localhost".toList

/-- The address of a file on a host, from what follows two slashes.  A drive is no host. -/
def withFileHost (ending : Ending) (cs : List Char) : Except Fault Url := do
  let name := dropBreaks (cs.takeWhile (!Kind.isSlash .file ·))
  let path := cs.dropWhile (!Kind.isSlash .file ·)
  let here := fileUrl ending (.domain [])
  if isDrive name then return here (segmentsOf .file cs)
  if name = [] then return here (segmentsOf .file path)
  let host ← Host.ofWeb name
  if host = thisMachine then return here (segmentsOf .file path)
  return fileUrl ending host (segmentsOf .file (path.drop 1))

/-- The address of a file, from what follows the colon. -/
def ofFile (ending : Ending) (cs : List Char) : Except Fault Url :=
  let here (path : List Char) := .ok (fileUrl ending (.domain []) (segmentsOf .file path))
  match cs.dropWhile isBreak with
  | [] => here []
  | a :: rest =>
    if Kind.isSlash .file a then
      match rest.dropWhile isBreak with
      | [] => here rest
      | b :: more => if Kind.isSlash .file b then withFileHost ending more else here rest
    else here cs

/-- The address of another scheme, from what follows the colon. -/
def ofOther (scheme : List Char) (ending : Ending) (cs : List Char) : Except Fault Url :=
  let hostless (route : Route) : Url :=
    { scheme, user := [], password := [], host := none, port := none, route
      query := ending.query, fragment := ending.fragment }
  match cs with
  | '/' :: '/' :: rest => withAuthority .other scheme ending rest
  | '/' :: rest => .ok (hostless (pathOf .other ('/' :: rest)))
  | text => .ok (hostless (.plain (Percent.encode (fun _ => false) text)))

/-- The address of its characters. -/
def ofChars (cs : List Char) : Except Fault Url :=
  let (front, fragment) := cutAt (· = '#') cs
  let (front, query) := cutAt (· = '?') front
  match scheme? front with
  | none => .error .relative
  | some (scheme, rest) =>
    let kind := kindOf scheme
    let inQuery (c : Char) := Percent.inQuery c || (kind ≠ .other && c = '\'')
    let ending : Ending :=
      { query := query.map fun cs => Percent.encode inQuery (dropBreaks cs)
        fragment := fragment.map fun cs => Percent.encode Percent.inFragment (dropBreaks cs) }
    match kind with
    | .web => withAuthority .web scheme ending ((dropBreaks rest).dropWhile (Kind.isSlash .web))
    | .file => ofFile ending rest
    | .other => ofOther scheme ending (dropBreaks rest)

/-- The address of a text. -/
def parse (text : String) : Except Fault Url :=
  ofChars (dropMargins text.toList)

/-- The segments of the path; an opaque path and an empty one have none. -/
def segments (url : Url) : List (List Char) :=
  match url.route with
  | .segments list => list
  | .plain _ => []

/-- The user name and the password as they are written. -/
def credentialChars (url : Url) : List Char :=
  if url.user = [] ∧ url.password = [] then []
  else url.user ++ (if url.password = [] then [] else ':' :: url.password) ++ ['@']

/-- The written form of the path. -/
def Route.chars : Route → List Char
  | plain text => text
  | segments list => list.flatMap ('/' :: ·)

/-- A part with the character that starts it, if it is there. -/
def started (c : Char) : Option (List Char) → List Char
  | some part => c :: part
  | none => []

/-- The written form. -/
def toText (url : Url) : String :=
  let authority := match url.host with
    | none => []
    | some host =>
      '/' :: '/' :: url.credentialChars ++ host.chars ++ started ':' (url.port.map Host.decimal)
  String.ofList (url.scheme ++ ':' :: authority ++ url.route.chars ++ started '?' url.query ++
    started '#' url.fragment)

/-- The address without the credentials, if they read as text: then they are handed over apart. -/
def withoutCredentials (url : Url) : Url :=
  let isText (cs : List Char) := (Text.Utf8.chars? (Percent.decode cs)).isSome
  if isText url.user ∧ (url.user ≠ [] ∨ isText url.password) then
    { url with user := [], password := [] }
  else url

end Url

end AttestedModel
