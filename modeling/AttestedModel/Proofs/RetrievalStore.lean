import AttestedModel.Model.Retrieval
import AttestedModel.Proofs.Sessions
import AttestedModel.Proofs.StagedFiles
import AttestedModel.Proofs.TransferSteps

/-!
# A retrieval that fails leaves no trace

Everything a retrieval does before it stages a file keeps the store, the whole
key transfer included.  Staging keeps the store unless it succeeds, and nothing
can fail behind it.  So a retrieval that is not done leaves every file of the
disk and the retrieved model as they were (`store_of_getInfo_not_done`).
-/

namespace AttestedModel

namespace Broker

open AttestedModel.Action

variable {σ : Type}

/-- No step of a transfer touches the store. -/
theorem frame_keeps (request : Http.Request) :
    Frame id request fun {α} (action _ : Action σ α) => Keeps action where
  pure := keeps_pure
  bind := Keeps.bind
  unreachable _ := keeps_fail _
  failIfCancelled := keeps_failIfCancelled
  send := keeps_now.bind fun _ => (keeps_note _).bind fun _ => keeps_pure _
  ask _ _ _ hnext := (keeps_ask _).bind hnext
  cancelIf cancels := by
    cases cancels with
    | true => exact keeps_cancel
    | false => exact keeps_pure ()
  waited _ := keeps_note _
  now := keeps_now
  waitUntil := keeps_waitUntil

variable (peers : Peers σ)

/-- Making a pair changes neither the disk nor what is kept. -/
theorem keeps_makeKeyPair : Keeps (makeKeyPair peers) :=
  (keeps_ask _).bind fun _ => (keeps_note _).bind fun _ =>
    keeps_failIfExpired.bind fun _ => keeps_ofExcept _

/-- Collecting evidence changes neither the disk nor what is kept. -/
theorem keeps_collectEvidence (binding : Bytes) : Keeps (collectEvidence peers binding) := by
  refine (keeps_note _).bind fun _ => (keeps_ask _).bind fun answer => ?_
  cases answer with
  | ok evidence => exact keeps_pure evidence
  | error failure => cases failure <;> exact keeps_fail _

/-- A key transfer keeps the store. -/
theorem keeps_getKey (policy : RetryPolicy) (serverUrl keyId : String) (limit : Option Duration) :
    Keeps (getKey peers policy serverUrl keyId limit) := by
  have hexchange : Keeps (exchange peers policy serverUrl keyId) :=
    (keeps_makeKeyPair peers).bind fun _ => (keeps_collectEvidence peers _).bind fun _ =>
      ((frame_keeps _).post peers policy).bind fun _ => keeps_ofExcept _
  unfold getKey
  split
  · exact keeps_fail _
  · split
    · exact keeps_fail _
    · exact hexchange.within limit

end Broker

namespace Model

open AttestedModel.Action

variable {σ : Type} (env : Environment σ) (provider : Provider)

/-- Asking for a document changes neither the disk nor what is kept. -/
theorem keeps_fetch (url : String) (headers : List (String × String)) (refused : Nat → String) :
    Keeps (fetch env url headers refused) := by
  have hstatus : ∀ response : Http.Response,
      Keeps (if response.status = 200 then pure response.body
        else fail (.connection (refused response.status)) : Action σ Bytes) := by
    intro response
    by_cases hfound : response.status = 200
    · rw [if_pos hfound]
      exact keeps_pure _
    · rw [if_neg hfound]
      exact keeps_fail _
  unfold fetch
  dsimp only
  split
  · refine (keeps_note _).bind fun _ => (keeps_ask _).bind fun answer => ?_
    cases answer with
    | error fault => exact keeps_fail _
    | ok response => exact hstatus response
  · refine (keeps_ask _).bind fun answer => ?_
    cases answer with
    | error fault => exact keeps_fail _
    | ok response => exact hstatus response

theorem keeps_fetchMetadata : Keeps (provider.fetchMetadata env) := by
  refine (keeps_fetch env _ _ _).bind fun body => ?_
  split
  · exact keeps_pure _
  · exact keeps_fail _

/-- Decrypting a body changes neither the disk nor what is kept. -/
theorem keeps_decrypt (limit : Option Duration) (location : KeyLocation) (body : Bytes) :
    Keeps (decrypt env provider limit location body) :=
  (Broker.keeps_getKey env.peers _ _ _ limit).bind fun _ => keeps_ofExcept _

/-- The plaintext of a downloaded body: the body itself, or what it decrypts to where the model
has a key. -/
def openBody (limit : Option Duration) (body : Bytes) : Option KeyLocation → Action σ Bytes
  | some location => decrypt env provider limit location body
  | none => pure body

/-- Opening a body changes neither the disk nor what is kept, whether it is encrypted or not. -/
theorem keeps_openBody (limit : Option Duration) (body : Bytes) (key : Option KeyLocation) :
    Keeps (openBody env provider limit body key) := by
  cases key with
  | some location => exact keeps_decrypt env provider limit location body
  | none => exact keeps_pure body

/-- The end of a retrieval: the plaintext is staged, kept and reported. -/
def deliver (plan : Plan) (plaintext : Bytes) : Action σ Info := do
  let path ← stage env provider.modelDir plan.fileName plaintext
  keep plaintext
  return { id := plan.id, path, details := plan.details, uploadedDate := 0, metrics := .zero }

/-- A retrieval is a chain of four steps with a look at the metadata between the first two. -/
theorem getInfo_eq (limit : Option Duration) :
    provider.getInfo env limit = (do
      let metadata ← provider.fetchMetadata env
      let plan ← Action.ofExcept (Plan.ofMetadata metadata)
      let body ← Provider.download env plan.url
      let plaintext ← openBody env provider limit body plan.key
      deliver env provider plan plaintext) := by
  unfold Provider.getInfo
  refine congrArg _ (funext fun metadata => congrArg _ (funext fun plan =>
    congrArg _ (funext fun body => ?_)))
  cases plan.key <;> rfl

/-- Staging keeps the store unless it is done. -/
theorem stage_keepsUnlessDone (directory name : String) (data : Bytes) :
    KeepsUnlessDone (stage env directory name data) := by
  refine (keeps_note _).bind_unlessDone fun _ => (keeps_ask _).bind_unlessDone fun faults => ?_
  intro s
  cases Staging.stage_ends s.disk directory name data faults with
  | refused reason hresult hdisk =>
      right
      simp only [bind, hresult, Action.ofExcept_error, Session.store, hdisk]
  | placed location hresult hdisk hreads =>
      left
      refine ⟨Path.join directory name, ?_⟩
      simp only [bind, hresult, Action.ofExcept_ok]

/-- A retrieval keeps the store unless it is done. -/
theorem getInfo_keepsUnlessDone (limit : Option Duration) :
    KeepsUnlessDone (provider.getInfo env limit) := by
  rw [getInfo_eq]
  refine (keeps_fetchMetadata env provider).bind_unlessDone fun metadata => ?_
  refine (keeps_ofExcept _).bind_unlessDone fun plan => ?_
  refine (keeps_fetch env _ _ _).bind_unlessDone fun body => ?_
  refine (keeps_openBody env provider limit body plan.key).bind_unlessDone fun plaintext => ?_
  exact (stage_keepsUnlessDone env _ _ plaintext).bind_done fun _ _ => ⟨_, rfl⟩

/-- **No trace of a failure.**  A retrieval that is not done, whatever failed or hung at whatever
stage, leaves the whole disk and the retrieved model as they were before the call. -/
theorem store_of_getInfo_not_done (limit : Option Duration) (s : Session σ)
    (h : ∀ info, (provider.getInfo env limit s).1 ≠ .done info) :
    (provider.getInfo env limit s).2.disk = s.disk ∧
      (provider.getInfo env limit s).2.retrieved = s.retrieved := by
  rcases getInfo_keepsUnlessDone env provider limit s with ⟨info, hdone⟩ | hstore
  · exact absurd hdone (h info)
  · exact Session.store_eq_iff.mp hstore

/-- The servers of a script: documents in turn, and then no connection any more. -/
def scriptedFetch : Http.Network (List Http.Response)
  | _, response :: rest => (.ok response, rest)
  | _, [] => (.error .noConnection, [])

/-- Servers that follow a script, a key broker that cannot be asked, and a disk on which files
go wrong in one way. -/
def scripted (faults : Staging.Faults) : Environment (List Http.Response) where
  fetch := scriptedFetch
  peers :=
    { makeKeyPair := fun world => (.error (.keyGeneration ""), world)
      collectEvidence := fun _ world => (.ok [], world)
      post := fun _ world => (.immediate (.error (.connect "")), world) }
  faults world := (faults, world)

/-- A source of the model `m`, staged under `/d`. -/
def scriptedProvider : Provider :=
  { modelInfoUrl := "http://i", modelId := "m", modelDir := "/d", retry := .standard }

/-- A session in which the model `[7]` was retrieved before, and the servers are about to give
the metadata of a plain model and its three bytes. -/
def afterEarlierRetrieval : Session (List Http.Response) where
  world :=
    [⟨200, Text.Utf8.encode "\x7b\"id\":\"m\",\"url\":\"http://h/m.enc\"\x7d"⟩, ⟨200, [1, 2, 3]⟩]
  now := 0
  cancelledAt := none
  deadline := none
  disk := { entries := [(["d"], .directory), (["d", "m"], .file [7])], workingDirectory := [] }
  retrieved := some [7]
  events := []

/-- A call is done. -/
def isDone {α : Type} : Outcome α → Bool
  | .done _ => true
  | _ => false

/-- After the temporary file could not be synced, the earlier file and the earlier model are
there as before. -/
theorem store_of_failed_sync :
    let run := scriptedProvider.getInfo
      (scripted { Staging.Faults.none with sync := some .inputOutput }) none afterEarlierRetrieval
    run.2.disk = afterEarlierRetrieval.disk ∧ run.2.retrieved = some [7] := by
  refine store_of_getInfo_not_done _ scriptedProvider none afterEarlierRetrieval ?_
  have hfails : isDone (scriptedProvider.getInfo
      (scripted { Staging.Faults.none with sync := some .inputOutput }) none
      afterEarlierRetrieval).1 = false := by decide +kernel
  intro info hdone
  rw [hdone] at hfails
  exact absurd hfails nofun

end Model

end AttestedModel
