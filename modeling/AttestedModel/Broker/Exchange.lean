import AttestedModel.Broker.Transfer
import AttestedModel.Broker.Transport
import AttestedModel.Envelope
import AttestedModel.Evidence.Report
import AttestedModel.Json.Reader
import AttestedModel.RetryPolicy
import AttestedModel.Session
import AttestedModel.Text.Base64
import AttestedModel.Text.Blank

/-!
# Key transfers

The content key of a model is exchanged for evidence.  A call makes one key pair,
binds its public half into one piece of evidence and posts both to the key
broker; the reply carries a key-encryption key wrapped for the pair, and the
content key in an envelope under it.

`post` tries again as long as only the connection fails: the attempts are
counted by the policy, and between two of them lies one wait.  Nothing else is
tried twice.
-/

namespace AttestedModel.Broker

/-- How the world takes part in a key transfer. -/
structure Peers (σ : Type) where
  makeKeyPair : σ → Except CryptoError Rsa.KeyPair × σ
  collectEvidence : (binding : Bytes) → σ → Except Evidence.Failure Bytes × σ
  post : Http.Request → σ → Reaction × σ
  /-- How long a sleep between two attempts lasts at most, if there is a most.  Longer ones have
  been seen to end after thirty years, hence the default; no result rests on it.  A limit of time
  is no sleep, and is kept to however long it is. -/
  longestSleep : Option Duration := some (.ofYears 30)

/-- The address at which a key is asked for. -/
def transferUrl (serverUrl keyId : String) : String :=
  Text.dropTrailing '/' serverUrl ++ s!"/keys/{keyId}/transfer"

/-- What every transfer request says of itself. -/
def transferHeaders : List (String × String) :=
  Http.jsonHeaders ++ [("Attestation-Type", "TDX")]

/-- One attempt.  A call that has been cancelled begins none. -/
def attempt (peers : Peers σ) (request : Http.Request) :
    Action σ (Except TransportFault Http.Response) := do
  Action.failIfCancelled
  let time ← Action.now
  Action.note (.transferred time request)
  let reaction ← Action.ask (peers.post request)
  Action.waitUntil (some (time + reaction.delay.milliseconds))
  if reaction.cancels then Action.cancel
  match reaction.answer with
  | some answer => return answer
  | none =>
    Action.waitUntil none
    return .error (.other "")

/-- The response that an answer brings: one of status 200.  A failed connection is left to
`onConnect`, everything else ends the call. -/
def settle (url : String) (answer : Except TransportFault Http.Response)
    (onConnect : String → Action σ Http.Response) : Action σ Http.Response :=
  match answer with
  | .ok response =>
    if response.status = 200 then return response
    else Action.fail (.keyBrokerUnreachable s!"予期しないステータス {response.status} ({url})")
  | .error (.connect detail) => onConnect detail
  | .error (.other detail) => Action.fail (.keyBrokerUnreachable s!"{detail} ({url})")

/-- A wait between two attempts; one of no length is no wait. -/
def pause (longest : Option Duration) (length : Duration) : Action σ Unit := do
  if length.nanos ≠ 0 then
    Action.note (.waited length)
    let time ← Action.now
    Action.waitUntil (some (time + (length.upTo longest).milliseconds))

/-- The attempt of a number and so many further ones. -/
def postFrom (peers : Peers σ) (policy : RetryPolicy) (request : Http.Request) (number : Nat) :
    (further : Nat) → Action σ Http.Response
  | 0 => do
    settle request.url (← attempt peers request) fun detail =>
      Action.fail (.keyBrokerUnreachable
        s!"{policy.attempts}回接続に失敗しました ({request.url}): {detail}")
  | further + 1 => do
    settle request.url (← attempt peers request) fun _ => do
      pause peers.longestSleep (policy.backoffAfter number)
      postFrom peers policy request (number + 1) further

/-- The response of status 200 to a request, within the attempts of a policy. -/
def post (peers : Peers σ) (policy : RetryPolicy) (request : Http.Request) :
    Action σ Http.Response :=
  postFrom peers policy request 1 (policy.attempts - 1)

/-- The bytes of a base64 field of a reply. -/
def decodeField (field text : String) : Except LoadError Bytes :=
  match Text.Base64.decode? text with
  | some bytes => .ok bytes
  | none => .error (.malformedResponse s!"{field}のBase64デコードに失敗")

/-- The wrapped content key and the wrapped key-encryption key of a reply. -/
def parseReply (body : Bytes) : Except LoadError (Bytes × Bytes) :=
  match (Json.parse body).bind TransferReply.ofJson? with
  | none => .error (.malformedResponse "JSONのパースに失敗")
  | some { wrappedKey := some key, wrappedSwk := some swk } => do
    let key ← decodeField "wrapped_key" key
    let swk ← decodeField "wrapped_swk" swk
    return (key, swk)
  | some _ => .error (.malformedResponse "wrapped_key と wrapped_swk の両方が必要です")

/-- The content key of a reply, for the holder of a key pair. -/
def openReply (pair : Rsa.KeyPair) (body : Bytes) : Except LoadError Bytes := do
  let (wrappedKey, wrappedSwk) ← parseReply body
  let swk ← (pair.unwrap wrappedSwk).mapError LoadError.ofCrypto
  (Envelope.decrypt wrappedKey swk).mapError LoadError.ofCrypto

/-- The text that evidence is bound to: the public document of a pair. -/
def userData (pair : Rsa.KeyPair) : String :=
  Text.Base64.encode pair.publicKeyDer

/-- A new key pair.  It is made elsewhere, so the deadline is looked at. -/
def makeKeyPair (peers : Peers σ) : Action σ Rsa.KeyPair := do
  let made ← Action.ask peers.makeKeyPair
  Action.note (.madeKeyPair made)
  Action.failIfExpired
  Action.ofExcept (made.mapError LoadError.ofCrypto)

/-- Evidence for a binding. -/
def collectEvidence (peers : Peers σ) (binding : Bytes) : Action σ Bytes := do
  Action.note (.boundEvidence binding)
  match ← Action.ask (peers.collectEvidence binding) with
  | .ok evidence => return evidence
  | .error (.reported error) => Action.fail error
  | .error .crashed => Action.fail (.evidenceUnavailable "Evidence取得タスクが異常終了")

/-- The request for a key. -/
def transferRequest (serverUrl keyId : String) (quote : Bytes) (userData : String) :
    Http.Request :=
  let message : TransferRequest := { quote := Text.Base64.encode quote, userData }
  { url := transferUrl serverUrl keyId, headers := transferHeaders,
    body := some (Text.Utf8.encode message.toJson.toCompact) }

/-- The exchange of new evidence for a content key. -/
def exchange (peers : Peers σ) (policy : RetryPolicy) (serverUrl keyId : String) :
    Action σ Bytes := do
  let pair ← makeKeyPair peers
  let quote ← collectEvidence peers (Text.Utf8.encode (userData pair))
  let response ← post peers policy (transferRequest serverUrl keyId quote (userData pair))
  Action.ofExcept (openReply pair response.body)

/-- The content key of an identifier, within a limit of time. -/
def getKey (peers : Peers σ) (policy : RetryPolicy) (serverUrl keyId : String)
    (limit : Option Duration) : Action σ Bytes :=
  if Text.blank serverUrl then Action.fail (.invalidArgument "KBSのURLが指定されていません")
  else if Text.blank keyId then Action.fail (.invalidArgument "KBSの鍵IDが指定されていません")
  else Action.within limit (exchange peers policy serverUrl keyId)

end AttestedModel.Broker
