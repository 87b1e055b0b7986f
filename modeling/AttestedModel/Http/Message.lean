import AttestedModel.Bytes

/-!
# HTTP messages

Requests and responses as far as a retrieval looks at them.
-/

namespace AttestedModel.Http

/-- A request; one without a body asks for a document, one with a body sends it. -/
structure Request where
  url : String
  headers : List (String × String)
  body : Option Bytes
deriving DecidableEq, Repr

/-- A response. -/
structure Response where
  status : Nat
  body : Bytes
deriving DecidableEq, Repr

/-- Why a request got no response. -/
inductive Fault
  /-- The address is no address of a web server; nothing was sent. -/
  | unusableAddress
  /-- The connection failed, or ended before the response's status. -/
  | noConnection
  /-- The connection, or the response's status, took too long. -/
  | timedOut
  /-- The response's body ended early, or the next part of it took too long. -/
  | truncatedBody
deriving DecidableEq, Repr

/-- The wording of a fault. -/
def Fault.message : Fault → String
  | unusableAddress => "builder error"
  | noConnection | timedOut => "error sending request"
  | truncatedBody => "error decoding response body"

/-- What a client of a JSON service says that it sends and accepts. -/
def jsonHeaders : List (String × String) :=
  [("Accept", "application/json"), ("Content-Type", "application/json")]

end AttestedModel.Http
