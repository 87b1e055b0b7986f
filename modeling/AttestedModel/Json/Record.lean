import AttestedModel.Json.Real

/-!
# Records in JSON

A record is read from an object or from an array.  In an object the order of the
members is free and members of other names are passed over, but a declared name
may not occur twice.  In an array the items follow the order of declaration and
there may not be more of them than fields.

`Json.fields?` brings both forms to one list of values in the order of
declaration, with the values that stand for what is absent.
-/

namespace AttestedModel.Json

/-- A declared field of a record. -/
structure Field where
  name : String
  /-- What an absent member of an object counts as, if it may be absent. -/
  inObject : Option Json
  /-- What an absent item at the end of an array counts as, if it may be absent. -/
  inArray : Option Json

/-- A field that may not be absent. -/
def Field.required (name : String) : Field :=
  { name, inObject := none, inArray := none }

/-- A field that an object may leave out in place of a null. -/
def Field.nullable (name : String) : Field :=
  { name, inObject := some .null, inArray := none }

/-- A field that may be left out in place of a value. -/
def Field.defaulted (name : String) (value : Json) : Field :=
  { name, inObject := some value, inArray := some value }

/-- The values that the members give to the declared names. -/
def namedValues (members : List (Option String × Json)) (fields : List Field) :
    Option (List Json) :=
  fields.mapM fun field =>
    match members.filter (·.1 = some field.name) with
    | [] => field.inObject
    | [(_, value)] => some value
    | _ => none

/-- The values that the items give to the declared fields in turn. -/
def orderedValues : (items : List Json) → (fields : List Field) → Option (List Json)
  | [], [] => some []
  | _ :: _, [] => none
  | [], field :: fields => do
    let value ← field.inArray
    return value :: (← orderedValues [] fields)
  | item :: items, _ :: fields => (orderedValues items fields).map (item :: ·)

/-- The values of the declared fields.  A member whose name is no text makes an object
unreadable. -/
def fields? (fields : List Field) : Json → Option (List Json)
  | object members =>
    if members.all (·.1.isSome) then namedValues members fields else none
  | array items => orderedValues items fields
  | _ => none

/-- The text of a string. -/
def text? : Json → Option String
  | string s => s
  | _ => none

/-- The text of a string, or nothing for a null. -/
def optionalText? : Json → Option (Option String)
  | null => some none
  | string (some s) => some (some s)
  | _ => none

/-- The truth value. -/
def bool? : Json → Option Bool
  | bool b => some b
  | _ => none

/-- The natural number below a limit. -/
def natBelow? (limit : Nat) : Json → Option Nat
  | number n => n.toNatBelow? limit
  | _ => none

/-- The byte. -/
def byte? (document : Json) : Option UInt8 :=
  (document.natBelow? 256).map UInt8.ofNat

/-- The binary number. -/
def real? : Json → Option Decimal.Binary64
  | number n => n.toReal?
  | _ => none

/-- The items of an array, each read. -/
def list? (read : Json → Option α) : Json → Option (List α)
  | array items => items.mapM read
  | _ => none

/-- The document of a text. -/
def ofText (text : String) : Json :=
  string (some text)

/-- The document of a text or of nothing. -/
def ofOptionalText : Option String → Json
  | none => null
  | some text => ofText text

/-- The document of a natural number. -/
def ofNat (n : Nat) : Json :=
  number (.ofNat n)

/-- The document of a binary number. -/
def ofReal (x : Decimal.Binary64) : Json :=
  number (.ofReal x)

/-- The document of a byte string: an array of numbers. -/
def ofBytes (bs : List UInt8) : Json :=
  array (bs.map fun b => ofNat b.toNat)

/-- The object of declared names and their values. -/
def record (members : List (String × Json)) : Json :=
  object (members.map fun (name, value) => (some name, value))

end AttestedModel.Json
