import AttestedModel.Duration
import AttestedModel.Http.Message

/-!
# Transports

How a request reaches a key broker and what comes back, in time.  A transport
that could not connect may be asked again; any other failure is final.
-/

namespace AttestedModel.Broker

/-- Why a request got no response. -/
inductive TransportFault
  | connect (detail : String)
  | other (detail : String)
deriving DecidableEq, Repr

/-- The wording of a fault. -/
def TransportFault.message : TransportFault → String
  | connect detail => s!"接続失敗: {detail}"
  | other detail => s!"通信エラー: {detail}"

/-- The fault of an HTTP request.  Only a connection that failed may be tried again, and not one
that took too long. -/
def TransportFault.ofHttp : Http.Fault → TransportFault
  | .noConnection => connect (Http.Fault.message .noConnection)
  | fault => other fault.message

/-- What a request brings about: after a delay the call is cancelled, or not, and then the answer
is there, if ever. -/
structure Reaction where
  delay : Duration
  cancels : Bool
  answer : Option (Except TransportFault Http.Response)

/-- An answer at once. -/
def Reaction.immediate (answer : Except TransportFault Http.Response) : Reaction :=
  { delay := .zero, cancels := false, answer := some answer }

end AttestedModel.Broker
