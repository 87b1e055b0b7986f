import AttestedModel.Json.Tree

/-!
# Writing JSON

A document on one line without spaces, or over many lines with an indentation of
two spaces.  In strings only the quote, the backslash and the control characters
below the space are escaped.
-/

namespace AttestedModel.Json

/-- The digit characters of a row of digits. -/
def digitChars (ds : List Nat) : List Char :=
  ds.map Nat.digitChar

/-- The written form of a number; a positive exponent has a plus sign. -/
def Numeral.chars (n : Numeral) : List Char :=
  (if n.negative then ['-'] else []) ++ digitChars n.whole ++
    (if n.fraction.isEmpty then [] else '.' :: digitChars n.fraction) ++
    (match n.exponent with
      | none => []
      | some (negative, ds) => 'e' :: (if negative then '-' else '+') :: digitChars ds)

/-- A character inside a string literal. -/
def escape (c : Char) : List Char :=
  if c = '"' then ['\\', '"']
  else if c = '\\' then ['\\', '\\']
  else if c = '\n' then ['\\', 'n']
  else if c = '\r' then ['\\', 'r']
  else if c = '\t' then ['\\', 't']
  else if c.toNat = 0x08 then ['\\', 'b']
  else if c.toNat = 0x0c then ['\\', 'f']
  else if c.toNat < 0x20 then
    ['\\', 'u', '0', '0', Nat.digitChar (c.toNat / 16), Nat.digitChar (c.toNat % 16)]
  else [c]

/-- The literal of a text. -/
def quote (text : List Char) : List Char :=
  '"' :: text.flatMap escape ++ ['"']

/-- The literal of a text; what stands for no text is written as the empty one. -/
def quoteText (text : Option String) : List Char :=
  quote (text.getD "").toList

mutual

/-- The document on one line. -/
def compact : Json → List Char
  | null => ['n', 'u', 'l', 'l']
  | bool true => ['t', 'r', 'u', 'e']
  | bool false => ['f', 'a', 'l', 's', 'e']
  | number n => n.chars
  | string s => quoteText s
  | array [] => ['[', ']']
  | array (item :: items) => '[' :: compact item ++ compactItems items ++ [']']
  | object [] => ['\x7b', '\x7d']
  | object ((name, value) :: members) =>
    '\x7b' :: quoteText name ++ ':' :: compact value ++ compactMembers members ++ ['\x7d']

/-- The further items of an array on one line. -/
def compactItems : List Json → List Char
  | [] => []
  | item :: items => ',' :: compact item ++ compactItems items

/-- The further members of an object on one line. -/
def compactMembers : List (Option String × Json) → List Char
  | [] => []
  | (name, value) :: members =>
    ',' :: quoteText name ++ ':' :: compact value ++ compactMembers members

end

/-- A new line at a depth. -/
def newline (depth : Nat) : List Char :=
  '\n' :: List.replicate (2 * depth) ' '

mutual

/-- The document over many lines, at a depth. -/
def indented (depth : Nat) : Json → List Char
  | null => ['n', 'u', 'l', 'l']
  | bool true => ['t', 'r', 'u', 'e']
  | bool false => ['f', 'a', 'l', 's', 'e']
  | number n => n.chars
  | string s => quoteText s
  | array [] => ['[', ']']
  | array (item :: items) =>
    '[' :: newline (depth + 1) ++ indented (depth + 1) item ++ indentedItems depth items ++
      newline depth ++ [']']
  | object [] => ['\x7b', '\x7d']
  | object ((name, value) :: members) =>
    '\x7b' :: newline (depth + 1) ++ quoteText name ++ ':' :: ' ' :: indented (depth + 1) value ++
      indentedMembers depth members ++ newline depth ++ ['\x7d']

/-- The further items of an array at a depth. -/
def indentedItems (depth : Nat) : List Json → List Char
  | [] => []
  | item :: items =>
    ',' :: newline (depth + 1) ++ indented (depth + 1) item ++ indentedItems depth items

/-- The further members of an object at a depth. -/
def indentedMembers (depth : Nat) : List (Option String × Json) → List Char
  | [] => []
  | (name, value) :: members =>
    ',' :: newline (depth + 1) ++ quoteText name ++ ':' :: ' ' :: indented (depth + 1) value ++
      indentedMembers depth members

end

/-- The text of a document on one line. -/
def toCompact (document : Json) : String :=
  String.ofList document.compact

/-- The text of a document over many lines. -/
def toPretty (document : Json) : String :=
  String.ofList (document.indented 0)

end AttestedModel.Json
