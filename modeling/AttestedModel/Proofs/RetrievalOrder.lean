import AttestedModel.Proofs.RetrievalRuns
import AttestedModel.Proofs.WireRecords

/-!
# The order of a retrieval

A retrieval asks for the metadata, then for the model, then for the key, and stages a file
at the end.  However far it comes (`Progress`), each step before was done, and its
events are those of its steps, one after the other (`getInfo_progress`).

Everything about their order is read off from that (`getInfo_ordered`): which
requests there are, what each of them takes for granted, that the disk is touched
last, and that a model in plain has nothing to do with a key broker.

A request is what is given to the network once.  Where the network is sent on to
from there is its own affair.
-/

namespace AttestedModel

open AttestedModel.Action

variable {σ : Type}

/-- The requests among events, to servers and to key brokers, in their order. -/
def sentRequests (events : List Event) : List Http.Request :=
  events.filterMap fun
    | .fetched request => some request
    | .transferred _ request => some request
    | _ => none

@[simp] theorem sentRequests_append (before after : List Event) :
    sentRequests (before ++ after) = sentRequests before ++ sentRequests after :=
  List.filterMap_append

namespace Broker

/-- An event that is due to the request of a key. -/
inductive KeyEvent : Event → Prop
  | madeKeyPair (pair : Except CryptoError Rsa.KeyPair) : KeyEvent (.madeKeyPair pair)
  | boundEvidence (binding : Bytes) : KeyEvent (.boundEvidence binding)
  | transferred (time : Nat) (request : Http.Request) : KeyEvent (.transferred time request)
  | waited (length : Duration) : KeyEvent (.waited length)

/-- What happens in a transfer is due to the request of a key. -/
theorem TransferEvent.keyEvent {request : Http.Request} {event : Event}
    (h : TransferEvent request event) : KeyEvent event := by
  rcases h with ⟨time, rfl⟩ | ⟨length, rfl⟩
  · exact .transferred time request
  · exact .waited length

/-- Making a pair adds one event, which is due to the request of a key. -/
theorem adds_makeKeyPair (peers : Peers σ) : Adds KeyEvent (makeKeyPair peers) :=
  (adds_ask _).bind fun made => (adds_note (.madeKeyPair made) rfl).bind fun _ =>
    adds_failIfExpired.bind fun _ => adds_ofExcept _

/-- Collecting evidence adds its binding, which is due to the request of a key. -/
theorem adds_collectEvidence (peers : Peers σ) (binding : Bytes) :
    Adds KeyEvent (collectEvidence peers binding) := by
  refine (adds_note (.boundEvidence binding) rfl).bind fun _ => (adds_ask _).bind fun answer => ?_
  cases answer with
  | ok evidence => exact adds_pure evidence
  | error failure => cases failure <;> exact adds_fail _

/-- The request of a key adds its own events and no others. -/
theorem adds_getKey (peers : Peers σ) (policy : RetryPolicy) (serverUrl keyId : String)
    (limit : Option Duration) : Adds KeyEvent (getKey peers policy serverUrl keyId limit) := by
  by_cases hblank : Text.blank serverUrl ∨ Text.blank keyId
  · obtain ⟨e, hfail⟩ := getKey_of_blank hblank peers policy
    rw [hfail]
    exact adds_fail e
  · rw [getKey_eq_within hblank]
    have hpost : ∀ request, Adds KeyEvent (post peers policy request) := fun request =>
      ((frame_adds request).post peers policy).mono fun _ => TransferEvent.keyEvent
    exact ((adds_makeKeyPair peers).bind fun _ => (adds_collectEvidence peers _).bind fun _ =>
      (hpost _).bind fun _ => adds_ofExcept _).within limit

/-- Of events that are due to the request of a key, all requests are transfers. -/
theorem sentRequests_of_keyEvents {events : List Event} (h : ∀ event ∈ events, KeyEvent event) :
    sentRequests events = (transfers events).map Prod.snd := by
  rw [transfers, List.map_filterMap]
  refine List.filterMap_congr fun event hevent => ?_
  cases h event hevent <;> rfl

end Broker

namespace Model

variable {env : Environment σ} {provider : Provider} {limit : Option Duration}
variable {s t : Session σ}

/-- The request for a document. -/
def document (url : String) (headers : List (String × String)) : Http.Request :=
  { url, headers, body := none }

/-- The request for the metadata. -/
def Provider.metadataRequest (provider : Provider) : Http.Request :=
  document provider.metadataUrl Http.jsonHeaders

/-- The events of asking for a document: a request, unless its address is of no use. -/
def asking (request : Http.Request) : List Event :=
  if (Http.address? request.url).isSome then [.fetched request] else []

/-- The events of asking for the key of a model, from a session on. -/
def keyEvents (env : Environment σ) (provider : Provider) (limit : Option Duration)
    (s : Session σ) : Option KeyLocation → List Event
  | some location => s.since
      (Broker.getKey env.peers provider.retry location.kbsUrl location.keyId limit s).2
  | none => []

/-- A document is asked for, if its address can be asked, and nothing else happens. -/
theorem events_fetch (env : Environment σ) (url : String) (headers : List (String × String))
    (refused : Nat → String) (s : Session σ) :
    (fetch env url headers refused s).2.events = s.events ++ asking (document url headers) := by
  -- whatever is answered, to look at the answer changes nothing
  have hstatus (response : Http.Response) (u : Session σ) :
      ((if response.status = 200 then pure response.body
        else fail (.connection (refused response.status)) : Action σ Bytes) u).2 = u := by
    by_cases hfound : response.status = 200
    · rw [if_pos hfound, pure_apply]
    · rw [if_neg hfound, fail]
  unfold fetch asking
  by_cases haddress : (Http.address? url).isSome
  · simp only [document, haddress, if_true, note_bind]
    rw [bind_snd_of_rest]
    · rfl
    · intro answer u
      cases answer with
      | error fault => rfl
      | ok response => exact hstatus response u
  · simp only [document, haddress, if_false, Bool.false_eq_true, List.append_nil]
    rw [bind_snd_of_rest]
    · rfl
    · intro answer u
      cases answer with
      | error fault => rfl
      | ok response => exact hstatus response u

/-- Fetching metadata is asking for one document. -/
theorem events_fetchMetadata (env : Environment σ) (provider : Provider) (s : Session σ) :
    (provider.fetchMetadata env s).2.events = s.events ++ asking provider.metadataRequest := by
  unfold Provider.fetchMetadata
  rw [bind_snd_of_rest, events_fetch]
  · rfl
  · -- what the document reads as is a matter of the result
    intro body u
    cases (Json.parse body).bind Metadata.ofJson? <;> rfl

/-- A document that came was asked for once. -/
theorem Answers.events {url : String} {headers : List (String × String)} {body : Bytes}
    (h : Answers env url headers s body t) :
    t.events = s.events ++ [.fetched (document url headers)] := by
  obtain ⟨-, ht⟩ := h
  rw [ht]
  rfl

/-- Metadata that came was asked for once. -/
theorem Describes.events {m : Metadata} (h : Describes env provider s m t) :
    t.events = s.events ++ [.fetched provider.metadataRequest] := by
  obtain ⟨document, hanswer, -⟩ := h
  exact hanswer.events

/-- Opening a body adds the events of the key that it takes, or none. -/
theorem events_openBody (env : Environment σ) (provider : Provider) (limit : Option Duration)
    (body : Bytes) (key : Option KeyLocation) (s : Session σ) :
    (openBody env provider limit body key s).2.events =
      s.events ++ keyEvents env provider limit s key := by
  cases key with
  | none => exact (List.append_nil _).symm
  | some location =>
      have hkey := Broker.adds_getKey env.peers provider.retry location.kbsUrl location.keyId limit
      unfold openBody decrypt
      -- behind the key there is only a result to look at
      rw [bind_snd_of_rest fun key u => ofExcept_snd _ u]
      exact hkey.events_eq s

/-- A body that was opened has left the events of its key. -/
theorem Opens.events {body plaintext : Bytes} {key : Option KeyLocation}
    (h : Opens env provider limit body s plaintext t key) :
    t.events = s.events ++ keyEvents env provider limit s key := by
  have hevents := events_openBody env provider limit body key s
  rwa [openBody_eq_done_iff.mpr h] at hevents

/-- Delivering a plaintext is one staging, whatever comes of it. -/
theorem events_deliver (env : Environment σ) (provider : Provider) (plan : Plan)
    (plaintext : Bytes) (s : Session σ) :
    (deliver env provider plan plaintext s).2.events =
      s.events ++ [.staged provider.modelDir plan.fileName] := by
  have hstage : ∀ directory name, (stage env directory name plaintext s).2.events =
      s.events ++ [.staged directory name] := by
    intro directory name
    unfold stage
    rw [note_bind, ask_bind]
    exact congrArg Session.events (ofExcept_snd _ _)
  rcases bind_ends (stage env provider.modelDir plan.fileName plaintext) _ s with
    hend | ⟨path, u, hdone, hrest⟩
  · exact (congrArg Session.events hend).trans (hstage _ _)
  · have hevents := hstage provider.modelDir plan.fileName
    rw [hdone] at hevents
    exact (congrArg (fun run => run.2.events) hrest).trans hevents

/-- A document that came left the disk and what is kept as they were. -/
theorem Answers.store {url : String} {headers : List (String × String)} {body : Bytes}
    (h : Answers env url headers s body t) : t.store = s.store := by
  obtain ⟨-, ht⟩ := h
  rw [ht]
  rfl

/-- Metadata that came left the disk and what is kept as they were. -/
theorem Describes.store {m : Metadata} (h : Describes env provider s m t) : t.store = s.store := by
  obtain ⟨document, hanswer, -⟩ := h
  exact hanswer.store

/-- Opening a body left the disk and what is kept as they were. -/
theorem Opens.store {body plaintext : Bytes} {key : Option KeyLocation}
    (h : Opens env provider limit body s plaintext t key) : t.store = s.store := by
  have hstore := keeps_openBody env provider limit body key s
  rwa [openBody_eq_done_iff.mpr h] at hstore

/-- How far a retrieval comes.  Every step before the one at which it ends was done; unless
that is the last one, the store is as it was. -/
inductive Progress (env : Environment σ) (provider : Provider) (limit : Option Duration)
    (s : Session σ) (run : Outcome Info × Session σ) : Prop
  /-- No further than the metadata, which are not there or cannot be followed. -/
  | metadata (hstore : run.2.store = s.store)
      (hevents : s.since run.2 = asking provider.metadataRequest)
  /-- No further than the download. -/
  | download {m : Metadata} {s₁ : Session σ} {plan : Plan}
      (hdescribed : Describes env provider s m s₁) (hplan : Plan.ofMetadata m = .ok plan)
      (hstore : run.2.store = s.store)
      (hevents : s.since run.2 =
        .fetched provider.metadataRequest :: asking (document plan.url []))
  /-- No further than the key, or the decryption with it. -/
  | opening {m : Metadata} {s₁ : Session σ} {plan : Plan} {body : Bytes} {s₂ : Session σ}
      (hdescribed : Describes env provider s m s₁) (hplan : Plan.ofMetadata m = .ok plan)
      (hbody : Answers env plan.url [] s₁ body s₂) (hstore : run.2.store = s.store)
      (hevents : s.since run.2 =
        .fetched provider.metadataRequest :: .fetched (document plan.url []) ::
          keyEvents env provider limit s₂ plan.key)
  /-- As far as the staging. -/
  | delivery {m : Metadata} {s₁ : Session σ} {plan : Plan} {body : Bytes} {s₂ : Session σ}
      {plaintext : Bytes} {s₃ : Session σ}
      (hdescribed : Describes env provider s m s₁) (hplan : Plan.ofMetadata m = .ok plan)
      (hbody : Answers env plan.url [] s₁ body s₂)
      (hopened : Opens env provider limit body s₂ plaintext s₃ plan.key)
      (hstore : s₃.store = s.store)
      (hbefore : s.since s₃ =
        .fetched provider.metadataRequest :: .fetched (document plan.url []) ::
          keyEvents env provider limit s₂ plan.key)
      (hevents : s.since run.2 =
        s.since s₃ ++ [.staged provider.modelDir plan.fileName])
      (hrun : run = deliver env provider plan plaintext s₃)

/-- **A retrieval goes forward**: it ends at one of its steps, and all before it were done. -/
theorem getInfo_progress (env : Environment σ) (provider : Provider) (limit : Option Duration)
    (s : Session σ) : Progress env provider limit s (provider.getInfo env limit s) := by
  rw [getInfo_eq]
  have hmetadata (run : Outcome Info × Session σ)
      (hend : run.2 = (provider.fetchMetadata env s).2) : Progress env provider limit s run := by
    refine .metadata ?_ (Session.since_of_append ?_)
    · rw [hend, keeps_fetchMetadata env provider s]
    · rw [hend, events_fetchMetadata]
  obtain hend | ⟨m, s₁, hm, hrest⟩ := bind_ends (provider.fetchMetadata env) _ s
  · exact hmetadata _ hend
  rw [hrest]
  obtain hend | ⟨plan, u, hlook, hrest⟩ := bind_ends (ofExcept (Plan.ofMetadata m)) _ s₁
  · -- the metadata are there, but no plan can be made of them
    exact hmetadata _ (by rw [hend, ofExcept_snd, hm])
  rw [hrest]
  obtain ⟨hplan, rfl⟩ := ofExcept_eq_done_iff.mp hlook
  have hdescribed := fetchMetadata_eq_done_iff.mp hm
  obtain hend | ⟨body, s₂, hbody, hrest⟩ := bind_ends (Provider.download env plan.url) _ u
  · refine .download hdescribed hplan ?_ (Session.since_of_append ?_)
    · rw [hend, Provider.download, keeps_fetch env _ _ _ u, hdescribed.store]
    · rw [hend, Provider.download, events_fetch, hdescribed.events, List.append_assoc]
      rfl
  rw [hrest]
  have hbody := fetch_eq_done_iff.mp hbody
  have hstore : s₂.store = s.store := hbody.store.trans hdescribed.store
  have hevents : s₂.events = s.events ++
      [.fetched provider.metadataRequest, .fetched (document plan.url [])] := by
    rw [hbody.events, hdescribed.events, List.append_assoc]
    rfl
  obtain hend | ⟨plaintext, s₃, hopened, hrest⟩ :=
    bind_ends (openBody env provider limit body plan.key) _ s₂
  · refine .opening hdescribed hplan hbody ?_ (Session.since_of_append ?_)
    · rw [hend, keeps_openBody env provider limit body plan.key s₂, hstore]
    · rw [hend, events_openBody, hevents, List.append_assoc]
      rfl
  rw [hrest]
  have hopened := openBody_eq_done_iff.mp hopened
  have hbefore : s₃.events = s.events ++ (.fetched provider.metadataRequest ::
      .fetched (document plan.url []) :: keyEvents env provider limit s₂ plan.key) := by
    rw [hopened.events, hevents, List.append_assoc]
    rfl
  refine .delivery hdescribed hplan hbody hopened (hopened.store.trans hstore)
    (Session.since_of_append hbefore) (Session.since_of_append ?_) rfl
  rw [events_deliver, Session.since_of_append hbefore, hbefore, List.append_assoc]

/-- Metadata that can be followed to the model at an address. -/
structure Metadata.Allows (m : Metadata) (url : String) : Prop where
  id_given : ∃ id, given m.id = some id
  url_given : given m.url = some url
  url_names : ∃ name, Model.fileName url = .ok name
  kbs_amber : m.encrypted = true → given m.kbs = some "amber"
  kbsUrl_given : m.encrypted = true → ∃ kbsUrl, given m.kbsUrl = some kbsUrl
  keyId_given : m.encrypted = true → ∃ keyId, given m.keyId = some keyId

/-- The address of a plan is one that its metadata allows. -/
theorem Plan.allows {m : Metadata} {plan : Plan} (h : Plan.ofMetadata m = .ok plan) :
    m.Allows plan.url := by
  obtain ⟨hid, hurl, hname, -, -⟩ := Plan.ofMetadata_eq_ok_iff.mp h
  have hgiven (hencrypted : m.encrypted = true) : given m.kbs = some "amber" ∧
      (∃ kbsUrl, given m.kbsUrl = some kbsUrl) ∧ ∃ keyId, given m.keyId = some keyId := by
    obtain ⟨location, -, hlocation⟩ := Plan.location_of_ofMetadata h hencrypted
    obtain ⟨hkbs, hkbsUrl, hkeyId⟩ := KeyLocation.ofMetadata_eq_ok_iff.mp hlocation
    exact ⟨hkbs, ⟨_, hkbsUrl⟩, ⟨_, hkeyId⟩⟩
  exact {
    id_given := ⟨_, hid⟩
    url_given := hurl
    url_names := ⟨_, hname⟩
    kbs_amber := fun hencrypted => (hgiven hencrypted).1
    kbsUrl_given := fun hencrypted => (hgiven hencrypted).2.1
    keyId_given := fun hencrypted => (hgiven hencrypted).2.2 }

/-- There are events of a key only if there is a place of the key. -/
theorem keyEvent_of_mem_keyEvents {key : Option KeyLocation} {event : Event}
    (h : event ∈ keyEvents env provider limit s key) :
    Broker.KeyEvent event ∧ ∃ location, key = some location := by
  cases key with
  | none => exact absurd h List.not_mem_nil
  | some location =>
      have hkey := Broker.adds_getKey env.peers provider.retry location.kbsUrl location.keyId limit
      exact ⟨hkey.allowed_since s event h, location, rfl⟩

/-- Asking for a document is one event at most. -/
theorem event_of_mem_asking {request : Http.Request} {event : Event}
    (h : event ∈ asking request) : event = .fetched request := by
  unfold asking at h
  split at h
  · exact List.mem_singleton.mp h
  · exact absurd h List.not_mem_nil

/-- A document is asked for at most once. -/
theorem sentRequests_asking_initial (request : Http.Request) :
    sentRequests (asking request) <+: [request] := by
  unfold asking
  split
  · exact List.prefix_refl _
  · exact List.nil_prefix

/-- The requests for the key of a model are the transfers of its one key request. -/
theorem sentRequests_keyEvents (env : Environment σ) (provider : Provider)
    (limit : Option Duration) (s : Session σ) (key : Option KeyLocation) :
    sentRequests (keyEvents env provider limit s key) =
      (transfers (keyEvents env provider limit s key)).map Prod.snd :=
  Broker.sentRequests_of_keyEvents fun _ hevent => (keyEvent_of_mem_keyEvents hevent).1

/-- Events of a retrieval that goes from its metadata to the model at an address, and from a session
on to the key of a location. -/
structure Ordered (env : Environment σ) (provider : Provider) (limit : Option Duration)
    (s : Session σ) (url : String) (key : Option KeyLocation) (u : Session σ)
    (events : List Event) : Prop where
  /-- The requests, as far as they go, are one for the metadata, one for the model and the
  transfers of one key request. -/
  in_order : sentRequests events <+:
    provider.metadataRequest :: document url [] ::
      (transfers (keyEvents env provider limit u key)).map Prod.snd
  /-- A second request presupposes metadata that allow it. -/
  model_allowed : 2 ≤ (sentRequests events).length →
    ∃ m s₁, Describes env provider s m s₁ ∧ m.Allows url
  /-- Whatever is done for the sake of a key presupposes that the model is encrypted and has been
  downloaded; and it is the key of its metadata. -/
  key_allowed : ∀ event ∈ events, Broker.KeyEvent event →
    ∃ m s₁ body location, Describes env provider s m s₁ ∧ m.encrypted = true ∧
      Answers env url [] s₁ body u ∧ KeyLocation.ofMetadata m = .ok location ∧ key = some location

namespace Ordered

/-- To stage a file is no request and not for the sake of a key. -/
theorem append_staged {url : String} {key : Option KeyLocation} {u : Session σ}
    {events : List Event} (h : Ordered env provider limit s url key u events)
    (directory name : String) :
    Ordered env provider limit s url key u (events ++ [.staged directory name]) := by
  have hrequests : sentRequests (events ++ [.staged directory name]) = sentRequests events := by
    rw [sentRequests_append]
    exact List.append_nil _
  refine ⟨hrequests ▸ h.in_order, hrequests ▸ h.model_allowed, ?_⟩
  intro event hmem hkeyed
  rw [List.mem_append, List.mem_singleton] at hmem
  obtain hmem | rfl := hmem
  · exact h.key_allowed event hmem hkeyed
  · exact absurd hkeyed nofun

/-- The events of a run that gets as far as the metadata are in order. -/
theorem of_metadata : Ordered env provider limit s "" none s (asking provider.metadataRequest) where
  in_order := (sentRequests_asking_initial _).trans ⟨_, rfl⟩
  model_allowed htwo := by
    have hone := (sentRequests_asking_initial provider.metadataRequest).length_le
    exact absurd (Nat.le_trans htwo hone) (by simp)
  key_allowed event hmem hkeyed := by
    obtain rfl := event_of_mem_asking hmem
    exact absurd hkeyed nofun

variable {m : Metadata} {s₁ : Session σ} {plan : Plan} (hdescribed : Describes env provider s m s₁)
  (hplan : Plan.ofMetadata m = .ok plan)
include hdescribed hplan

/-- The events of a run that gets as far as the download are in order. -/
theorem of_download : Ordered env provider limit s plan.url none s
    (.fetched provider.metadataRequest :: asking (document plan.url [])) where
  in_order := List.prefix_cons_inj _ |>.mpr ((sentRequests_asking_initial _).trans ⟨_, rfl⟩)
  model_allowed _ := ⟨m, s₁, hdescribed, Plan.allows hplan⟩
  key_allowed event hmem hkeyed := by
    rw [List.mem_cons] at hmem
    obtain rfl | hmem := hmem
    · exact absurd hkeyed nofun
    · obtain rfl := event_of_mem_asking hmem
      exact absurd hkeyed nofun

/-- The events of a run that gets as far as the key are in order. -/
theorem of_key {body : Bytes} {s₂ : Session σ} (hbody : Answers env plan.url [] s₁ body s₂) :
    Ordered env provider limit s plan.url plan.key s₂
      (.fetched provider.metadataRequest :: .fetched (document plan.url []) ::
        keyEvents env provider limit s₂ plan.key) where
  in_order := by
    rw [← sentRequests_keyEvents]
    exact List.prefix_refl _
  model_allowed _ := ⟨m, s₁, hdescribed, Plan.allows hplan⟩
  key_allowed event hmem hkeyed := by
    rw [List.mem_cons, List.mem_cons] at hmem
    obtain rfl | rfl | hmem := hmem
    · exact absurd hkeyed nofun
    · exact absurd hkeyed nofun
    · -- there is a location only if the model is encrypted
      obtain ⟨location, hlocation⟩ := (keyEvent_of_mem_keyEvents hmem).2
      have hencrypted : m.encrypted = true := by
        by_contra hplain
        rw [(Plan.key_of_ofMetadata hplan).2 (by simpa using hplain)] at hlocation
        exact absurd hlocation nofun
      obtain ⟨location', hkey, hof⟩ := Plan.location_of_ofMetadata hplan hencrypted
      exact ⟨m, s₁, body, location', hdescribed, hencrypted, hbody, hof, hkey⟩

end Ordered

/-- A run that touches the disk at its end, if at all. -/
inductive TouchesDiskLast (env : Environment σ) (provider : Provider) (limit : Option Duration)
    (s : Session σ) (run : Outcome Info × Session σ) : Prop
  /-- The disk is as it was, and nothing was tried to be staged. -/
  | untouched (hdisk : run.2.disk = s.disk) (hretrieved : run.2.retrieved = s.retrieved)
      (hevents : ∀ directory name, .staged directory name ∉ s.since run.2)
  /-- There is a session with an untouched disk in which the plaintext is there, of an encrypted
  model by decryption.  All requests lie before it, and behind it there is only the staging. -/
  | staged {m : Metadata} {s₁ : Session σ} {plan : Plan} {body : Bytes} {s₂ : Session σ}
      {plaintext : Bytes} {u : Session σ}
      (hdescribed : Describes env provider s m s₁) (hplan : Plan.ofMetadata m = .ok plan)
      (hbody : Answers env plan.url [] s₁ body s₂)
      (hopened : Opens env provider limit body s₂ plaintext u plan.key)
      (hdecrypted : m.encrypted = true → ∃ key, Envelope.decrypt body key = .ok plaintext)
      (hdisk : u.disk = s.disk) (hbefore : ∀ directory name, .staged directory name ∉ s.since u)
      (hevents : s.since run.2 = s.since u ++ [.staged provider.modelDir plan.fileName])
      (hrun : run = deliver env provider plan plaintext u)

/-- A run that leaves the store as it was and stages nothing does not touch the disk. -/
theorem TouchesDiskLast.of_store {run : Outcome Info × Session σ} (hstore : run.2.store = s.store)
    (hevents : ∀ directory name, .staged directory name ∉ s.since run.2) :
    TouchesDiskLast env provider limit s run := by
  obtain ⟨hdisk, hretrieved⟩ := Session.store_eq_iff.mp hstore
  exact .untouched hdisk hretrieved hevents

namespace Progress

variable {run : Outcome Info × Session σ} (h : Progress env provider limit s run)
include h

/-- **The events of a retrieval come in their order**, as far as it goes. -/
theorem ordered : ∃ url key u, Ordered env provider limit s url key u (s.since run.2) := by
  cases h with
  | metadata hstore hevents =>
      rw [hevents]
      exact ⟨_, _, _, .of_metadata⟩
  | download hdescribed hplan hstore hevents =>
      rw [hevents]
      exact ⟨_, _, _, .of_download hdescribed hplan⟩
  | opening hdescribed hplan hbody hstore hevents =>
      rw [hevents]
      exact ⟨_, _, _, .of_key hdescribed hplan hbody⟩
  | delivery hdescribed hplan hbody hopened hstore hbefore hevents hrun =>
      rw [hevents, hbefore]
      exact ⟨_, _, _, (Ordered.of_key hdescribed hplan hbody).append_staged _ _⟩

/-- The disk is touched by the staging alone, and that comes last. -/
theorem touchesDiskLast : TouchesDiskLast env provider limit s run := by
  have hasking (request : Http.Request) (directory name : String) :
      .staged directory name ∉ asking request := by
    intro hmem
    exact absurd (event_of_mem_asking hmem) nofun
  have hkey (u : Session σ) (key : Option KeyLocation) (directory name : String) :
      .staged directory name ∉ keyEvents env provider limit u key := by
    intro hmem
    exact absurd (keyEvent_of_mem_keyEvents hmem).1 nofun
  cases h with
  | metadata hstore hevents =>
      refine .of_store hstore fun directory name => ?_
      rw [hevents]
      exact hasking _ _ _
  | download _ _ hstore hevents =>
      refine .of_store hstore fun directory name => ?_
      rw [hevents]
      simp [hasking]
  | opening _ _ _ hstore hevents =>
      refine .of_store hstore fun directory name => ?_
      rw [hevents]
      simp [hkey]
  | @delivery m s₁ plan body s₂ plaintext s₃ hdescribed hplan hbody hopened hstore hbefore hevents
      hrun =>
      refine .staged hdescribed hplan hbody hopened ?_ (Session.store_eq_iff.mp hstore).1
        (fun directory name => ?_) hevents hrun
      · intro hencrypted
        obtain ⟨location, hlocation⟩ := (Plan.key_of_ofMetadata hplan).1 hencrypted
        rw [hlocation] at hopened
        obtain ⟨key, -, hdecrypt⟩ := hopened
        exact ⟨key, hdecrypt⟩
      · rw [hbefore]
        simp [hkey]

end Progress

/-- The plan for a model in plain takes nothing from the fields about its key. -/
theorem Plan.ofMetadata_of_plain {m m' : Metadata} (hplain : m.encrypted = false)
    (hsame : m' = { m with kbs := m'.kbs, kbsUrl := m'.kbsUrl, keyId := m'.keyId }) :
    Plan.ofMetadata m' = Plan.ofMetadata m := by
  rw [hsame]
  unfold Plan.ofMetadata
  simp only [hplain]
  rfl

/-- The retrieval of a model in plain, from its metadata on, is the same with any key broker. -/
theorem getInfo_of_plain {env' : Environment σ} {limit' : Option Duration} {s' s₁ : Session σ}
    {m m' : Metadata} (hfetch : env'.fetch = env.fetch) (hfaults : env'.faults = env.faults)
    (hdescribed : Describes env provider s m s₁) (hdescribed' : Describes env' provider s' m' s₁)
    (hplain : m.encrypted = false)
    (hsame : m' = { m with kbs := m'.kbs, kbsUrl := m'.kbsUrl, keyId := m'.keyId }) :
    provider.getInfo env' limit' s' = provider.getInfo env limit s := by
  have hdownload (url : String) : Provider.download env' url = Provider.download env url := by
    simp only [Provider.download, fetch, hfetch]
  have hdeliver : deliver env' provider = deliver env provider := by
    funext plan plaintext
    simp only [deliver, stage, hfaults]
  rw [getInfo_eq, getInfo_eq, bind_of_done _ (fetchMetadata_eq_done_iff.mpr hdescribed'),
    bind_of_done _ (fetchMetadata_eq_done_iff.mpr hdescribed),
    Plan.ofMetadata_of_plain hplain hsame]
  cases hplan : Plan.ofMetadata m with
  | error e => rfl
  | ok plan =>
      rw [bind_of_done _ (ofExcept_ok plan), bind_of_done _ (ofExcept_ok plan), hdownload,
        hdeliver, (Plan.key_of_ofMetadata hplan).2 hplain]
      rfl

/-- **The order of a retrieval, and what is not done in it.**

The requests of a retrieval are, as far as they go, one for the metadata, one for the model and
the transfers of one key request.  The model is asked for only if the metadata was there and
allowed it.  Nothing is done for the sake of a key unless the metadata says that the model is
encrypted, and the model was downloaded.  The disk is as it was, and no staging was begun,
until all requests are over and the plaintext is there; the staging is the last event.

If the metadata says that the model is not encrypted, the whole run, its result and
everything that it leaves behind, is the same with any other key broker, any other evidence and
any other fields about the key. -/
theorem getInfo_ordered (env : Environment σ) (provider : Provider) (limit : Option Duration)
    (s : Session σ) :
    let run := provider.getInfo env limit s
    let events := s.since run.2
    (∃ url key u, Ordered env provider limit s url key u events) ∧
    TouchesDiskLast env provider limit s run ∧
    (∀ (env' : Environment σ) limit' s' s₁ m m', env'.fetch = env.fetch →
      env'.faults = env.faults → Describes env provider s m s₁ →
      Describes env' provider s' m' s₁ → m.encrypted = false →
      m' = { m with kbs := m'.kbs, kbsUrl := m'.kbsUrl, keyId := m'.keyId } →
      provider.getInfo env' limit' s' = run) := by
  intro run events
  have hprogress : Progress env provider limit s run := getInfo_progress env provider limit s
  refine ⟨hprogress.ordered, hprogress.touchesDiskLast, ?_⟩
  intro env' limit' s' s₁ m m' hfetch hfaults hdescribed hdescribed' hplain hsame
  exact getInfo_of_plain hfetch hfaults hdescribed hdescribed' hplain hsame

/-- The metadata of a model in plain, as they are without a word about a key. -/
def plainMetadata : Metadata where
  id := some "m"
  url := some "http://h/m.enc"
  name := none
  version := none
  framework := none
  target := none
  dtype := none
  encrypted := false
  kbs := none
  kbsUrl := none
  keyId := none

/-- The same metadata with the name of a key broker that nothing asks. -/
def idlyKeyedMetadata : Metadata :=
  { plainMetadata with kbs := some "amber", kbsUrl := some "http://k", keyId := some "i" }

/-- A session in which the servers are about to give metadata and three bytes. -/
def beforePlainRetrieval (m : Metadata) : Session (List Http.Response) :=
  .start [⟨200, Text.Utf8.encode m.toJson.toCompact⟩, ⟨200, [1, 2, 3]⟩]
    ⟨[(["d"], .directory)], []⟩

/-- The session in which the servers are about to give the bytes. -/
def afterPlainMetadata : Session (List Http.Response) :=
  { Session.start [⟨200, [1, 2, 3]⟩] ⟨[(["d"], .directory)], []⟩ with
    events := [.fetched scriptedProvider.metadataRequest] }

/-- Metadata are read as they were written. -/
theorem Metadata.read_written (m : Metadata) :
    (Json.parse (Text.Utf8.encode m.toJson.toCompact)).bind Metadata.ofJson? = some m := by
  have hlossless := represents_metadata.lossless fun document hwritable =>
    Json.parse_toCompact hwritable
  exact hlossless.read_written m trivial

theorem describes_beforePlainRetrieval {env : Environment (List Http.Response)}
    (henv : env.fetch = scriptedFetch) (m : Metadata) :
    Describes env scriptedProvider (beforePlainRetrieval m) m afterPlainMetadata := by
  have husable : (Http.address? scriptedProvider.metadataUrl).isSome := by decide +kernel
  refine ⟨_, ?_, m.read_written⟩
  exact answers_script henv husable Http.jsonHeaders rfl

/-- Whether the metadata of a plain model name a key broker, and whether there is one, is the
same. -/
theorem getInfo_of_plain_model :
    scriptedProvider.getInfo granted none (beforePlainRetrieval idlyKeyedMetadata) =
      scriptedProvider.getInfo (scripted .none) none (beforePlainRetrieval plainMetadata) := by
  obtain ⟨-, -, hplain⟩ := getInfo_ordered (scripted .none) scriptedProvider none
    (beforePlainRetrieval plainMetadata)
  exact hplain granted none (beforePlainRetrieval idlyKeyedMetadata) afterPlainMetadata
    plainMetadata idlyKeyedMetadata rfl rfl (describes_beforePlainRetrieval rfl plainMetadata)
    (describes_beforePlainRetrieval rfl idlyKeyedMetadata) rfl rfl

end Model

end AttestedModel
