import AttestedModel.Json.Record

/-!
# The two messages of a key transfer

A request carries the evidence and the public key that it is bound to, both in
base64.  A reply carries two wrapped keys; either may be missing, which is for
the reader of the reply to judge.
-/

namespace AttestedModel.Broker

open Json (Field)

/-- What a key broker is asked with. -/
structure TransferRequest where
  quote : String
  userData : String
deriving DecidableEq, Repr

namespace TransferRequest

/-- The declared fields. -/
def fields : List Field :=
  [.required "quote", .required "user_data"]

/-- The request of a document. -/
def ofJson? (document : Json) : Option TransferRequest := do
  let [quote, userData] ← document.fields? fields | none
  return { quote := ← quote.text?, userData := ← userData.text? }

/-- The document of a request. -/
def toJson (r : TransferRequest) : Json :=
  .record [("quote", .ofText r.quote), ("user_data", .ofText r.userData)]

end TransferRequest

/-- What a key broker answers with. -/
structure TransferReply where
  wrappedKey : Option String
  wrappedSwk : Option String
deriving DecidableEq, Repr

namespace TransferReply

/-- The declared fields. -/
def fields : List Field :=
  [.defaulted "wrapped_key" .null, .defaulted "wrapped_swk" .null]

/-- The reply of a document. -/
def ofJson? (document : Json) : Option TransferReply := do
  let [key, swk] ← document.fields? fields | none
  return { wrappedKey := ← key.optionalText?, wrappedSwk := ← swk.optionalText? }

/-- The document of a reply. -/
def toJson (r : TransferReply) : Json :=
  .record [("wrapped_key", .ofOptionalText r.wrappedKey),
    ("wrapped_swk", .ofOptionalText r.wrappedSwk)]

end TransferReply

end AttestedModel.Broker
