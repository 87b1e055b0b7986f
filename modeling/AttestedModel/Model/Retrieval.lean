import AttestedModel.Broker.Exchange
import AttestedModel.Http.Client
import AttestedModel.Model.FileName
import AttestedModel.Model.Info
import AttestedModel.Staging

/-!
# Retrievals

A retrieval reads a model's metadata, downloads the model, decrypts it with a key
from the key broker if the metadata says that it is encrypted, and stages it.
Everything that the metadata can be refused for is refused before the download,
and nothing is staged before the plaintext is complete.

What was retrieved last is kept: `getData` gives it again without any effect.
-/

namespace AttestedModel.Model

/-- How the world takes part in a retrieval. -/
structure Environment (σ : Type) where
  /-- Metadata and model servers. -/
  fetch : Http.Network σ
  /-- The key broker, and what is needed to speak to it. -/
  peers : Broker.Peers σ
  /-- What goes wrong when a file is staged. -/
  faults : σ → Staging.Faults × σ

/-- A source of one model. -/
structure Provider where
  modelInfoUrl : String
  modelId : String
  /-- The path of a directory; as every path here it is text, so none that is not UTF-8. -/
  modelDir : String
  retry : RetryPolicy

/-- Where the key of an encrypted model is. -/
structure KeyLocation where
  kind : BrokerKind
  kbsUrl : String
  keyId : String
deriving DecidableEq, Repr

/-- A field that an encrypted model's metadata must have. -/
def required (name : String) (value : Option String) : Except LoadError String :=
  match given value with
  | some text => .ok text
  | none => .error (.invalidArgument s!"暗号化モデルには {name} が必要です")

/-- The place of the key that metadata names. -/
def KeyLocation.ofMetadata (m : Metadata) : Except LoadError KeyLocation := do
  let kbs ← required "kbs" m.kbs
  let kbsUrl ← required "kbs_url" m.kbsUrl
  let keyId ← required "key_id" m.keyId
  return { kind := ← BrokerKind.ofName kbs, kbsUrl, keyId }

/-- What a retrieval takes from metadata. -/
structure Plan where
  id : String
  url : String
  fileName : String
  /-- The place of the key, for an encrypted model. -/
  key : Option KeyLocation
  details : Details
deriving DecidableEq, Repr

/-- The plan that metadata allows. -/
def Plan.ofMetadata (m : Metadata) : Except LoadError Plan := do
  match given m.id, given m.url with
  | some id, some url =>
    let fileName ← Model.fileName url
    let key ← if m.encrypted then (KeyLocation.ofMetadata m).map some else pure none
    return { id, url, fileName, key, details := Details.ofMetadata m }
  | _, _ => throw (.validation "モデル情報には id と url が必要です")

/-- The document at an address, which must be answered with status 200. -/
def fetch (env : Environment σ) (url : String) (headers : List (String × String))
    (refused : Nat → String) : Action σ Bytes := do
  let request : Http.Request := { url, headers, body := none }
  if (Http.address? url).isSome then Action.note (.fetched request)
  match ← Action.ask (Http.send env.fetch request) with
  | .error fault => Action.fail (.connection s!"{url}: {fault.message}")
  | .ok response =>
    if response.status = 200 then return response.body
    else Action.fail (.connection (refused response.status))

/-- The decrypted model. -/
def decrypt (env : Environment σ) (provider : Provider) (limit : Option Duration)
    (location : KeyLocation) (body : Bytes) : Action σ Bytes := do
  let key ← match location.kind with
    | .amber => Broker.getKey env.peers provider.retry location.kbsUrl location.keyId limit
  Action.ofExcept ((Envelope.decrypt body key).mapError LoadError.ofCrypto)

/-- Stages a file on the session's disk. -/
def stage (env : Environment σ) (directory name : String) (data : Bytes) : Action σ String := do
  Action.note (.staged directory name)
  let faults ← Action.ask env.faults
  let path ← fun s =>
    let staged := Staging.stage s.disk directory name data faults
    (.done staged.result, { s with disk := staged.disk })
  Action.ofExcept path

/-- Keeps the retrieved model. -/
def keep (data : Bytes) : Action σ Unit :=
  fun s => (.done (), { s with retrieved := some data })

namespace Provider

/-- The address of the metadata. -/
def metadataUrl (provider : Provider) : String :=
  Text.dropTrailing '/' provider.modelInfoUrl ++ "/" ++ provider.modelId

/-- The metadata. -/
def fetchMetadata (env : Environment σ) (provider : Provider) : Action σ Metadata := do
  let url := provider.metadataUrl
  let body ← fetch env url Http.jsonHeaders fun status =>
    s!"モデル情報サーバーがステータス {status} を返しました ({url})"
  match (Json.parse body).bind Metadata.ofJson? with
  | some m => return m
  | none => Action.fail (.validation "モデル情報のパースに失敗")

/-- The model as its server has it. -/
def download (env : Environment σ) (url : String) : Action σ Bytes :=
  fetch env url [] fun status =>
    s!"モデルのダウンロードに失敗 (ステータス {status}, {url})"

/-- Retrieves the model and stages it; its key must be there within a limit of time. -/
def getInfo (env : Environment σ) (provider : Provider) (limit : Option Duration) :
    Action σ Info := do
  let metadata ← fetchMetadata env provider
  let plan ← Action.ofExcept (Plan.ofMetadata metadata)
  let body ← download env plan.url
  let plaintext ← match plan.key with
    | some location => decrypt env provider limit location body
    | none => pure body
  let path ← stage env provider.modelDir plan.fileName plaintext
  keep plaintext
  return { id := plan.id, path, details := plan.details, uploadedDate := 0, metrics := .zero }

/-- The model that was retrieved last. -/
def retrieved : Action σ (Option Bytes) :=
  fun s => (.done s.retrieved, s)

/-- The plaintext of the model, retrieved first if it has not been. -/
def getData (env : Environment σ) (provider : Provider) (limit : Option Duration) :
    Action σ Bytes := do
  match ← retrieved with
  | some data => return data
  | none =>
    discard (getInfo env provider limit)
    match ← retrieved with
    | some data => return data
    | none => Action.fail (.staging "取得済みのモデルデータがありません")

/-- A source, unless its server or its model is not named. -/
def create (provider : Provider) : Except LoadError Provider :=
  if Text.blank provider.modelInfoUrl then
    .error (.invalidArgument "モデル情報サーバーのURLが指定されていません")
  else if Text.blank provider.modelId then
    .error (.invalidArgument "モデルIDが指定されていません")
  else .ok provider

/-- The name of the one kind of source. -/
def simpleName : String := "simple"

/-- The source of a model by settings.  The client is built before the kind is looked at. -/
def ofSettings (read : String → Except OsError Bytes) (kind modelId : String)
    (settings : Settings) : Except LoadError Provider := do
  discard (Http.Client.build read settings.httpTimeout settings.trust)
  if kind = simpleName then
    create {
      modelInfoUrl := settings.modelInfoUrl
      modelId
      modelDir := settings.modelDir
      retry := settings.retry }
  else throw (.invalidArgument s!"未知のモデルプロバイダ: {kind}")

end Provider

/-- The transport of a key broker that is reached over HTTP. -/
def Environment.post (network : Http.Network σ) (request : Http.Request) (world : σ) :
    Broker.Reaction × σ :=
  let (answer, world) := Http.send network request world
  (.immediate (answer.mapError Broker.TransportFault.ofHttp), world)

end AttestedModel.Model
