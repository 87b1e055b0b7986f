import AttestedModel.Proofs.KeyExchange
import AttestedModel.Proofs.RetrievalStore

/-!
# What a retrieval delivers

A retrieval is done exactly if each of its steps is, in their order
(`getInfo_eq_done_iff`): the metadata server answers, the metadata can be
followed, the model server answers, the model opens, and it is staged.

Read forwards, nothing is staged that was not authenticated: the envelope codec
accepts only what sealing the plaintext gives.  Read backwards, a model that was
sealed properly arrives.
-/

namespace AttestedModel

/-- There is one kind of key broker. -/
theorem BrokerKind.ofName_eq_ok_iff {name : String} {kind : BrokerKind} :
    BrokerKind.ofName name = .ok kind ↔ name = "amber" := by
  cases kind
  unfold BrokerKind.ofName
  split
  · simp
  · rename_i hname
    exact ⟨nofun, fun h => absurd h hname⟩

namespace Model

open AttestedModel.Action

variable {σ : Type} {env : Environment σ} {provider : Provider} {limit : Option Duration}
variable {s t : Session σ}

/-- A server answers a request for an address with status 200 and a document. -/
def Answers (env : Environment σ) (url : String) (headers : List (String × String))
    (s : Session σ) (document : Bytes) (t : Session σ) : Prop :=
  let request : Http.Request := { url, headers, body := none }
  Http.send env.fetch request s.world = (.ok ⟨200, document⟩, t.world) ∧
    t = { s with world := t.world, events := s.events ++ [.fetched request] }

/-- A request that is answered was sent, so its address is usable. -/
theorem isSome_address?_of_send {network : Http.Network σ} {request : Http.Request}
    {response : Http.Response} {world world' : σ}
    (h : Http.send network request world = (.ok response, world')) :
    (Http.address? request.url).isSome := by
  unfold Http.send at h
  cases haddress : Http.address? request.url with
  | none => simp [haddress] at h
  | some url => rfl

/-- A document is fetched exactly if it is answered with status 200. -/
theorem fetch_eq_done_iff {url : String} {headers : List (String × String)}
    {refused : Nat → String} {document : Bytes} :
    fetch env url headers refused s = (.done document, t) ↔ Answers env url headers s document t := by
  cases hsend : Http.send env.fetch { url, headers, body := none } s.world with
  | mk answer world =>
      cases answer with
      | error fault =>
          constructor
          · intro h
            unfold fetch at h
            dsimp only at h
            split at h
            · simp only [note_bind, ask_bind, hsend, fail] at h
              exact absurd h nofun
            · simp only [ask_bind, hsend, fail] at h
              exact absurd h nofun
          · intro hanswer
            obtain ⟨hok, -⟩ := hanswer
            rw [hsend] at hok
            exact absurd hok nofun
      | ok response =>
          -- an answer was asked for at a usable address, so the request was noted
          have haddress := isSome_address?_of_send hsend
          obtain ⟨status, body⟩ := response
          unfold fetch Answers
          simp only [haddress, if_true, note_bind, ask_bind, hsend]
          by_cases hstatus : status = 200
          · subst hstatus
            simp only [if_true, pure_apply, Prod.mk.injEq, Outcome.done.injEq, Except.ok.injEq,
              Http.Response.mk.injEq, true_and]
            constructor
            · intro hfetched
              obtain ⟨rfl, rfl⟩ := hfetched
              exact ⟨⟨rfl, rfl⟩, rfl⟩
            · intro hanswer
              obtain ⟨⟨rfl, rfl⟩, ht⟩ := hanswer
              exact ⟨rfl, ht.symm⟩
          · simp [hstatus, fail]

/-- The metadata server answers with a document that reads as metadata. -/
def Describes (env : Environment σ) (provider : Provider) (s : Session σ) (metadata : Metadata)
    (t : Session σ) : Prop :=
  ∃ document, Answers env provider.metadataUrl Http.jsonHeaders s document t ∧
    (Json.parse document).bind Metadata.ofJson? = some metadata

/-- Metadata is fetched if it describes the model. -/
theorem fetchMetadata_eq_done_iff {metadata : Metadata} :
    provider.fetchMetadata env s = (.done metadata, t) ↔ Describes env provider s metadata t := by
  unfold Provider.fetchMetadata Describes
  simp only [bind_eq_done_iff, fetch_eq_done_iff]
  constructor
  · intro hsteps
    obtain ⟨document, u, hanswer, hread⟩ := hsteps
    cases hmetadata : (Json.parse document).bind Metadata.ofJson? with
    | none => simp [hmetadata, fail] at hread
    | some m =>
        rw [hmetadata] at hread
        obtain ⟨rfl, rfl⟩ : m = metadata ∧ u = t := by simpa using hread
        exact ⟨document, hanswer, hmetadata⟩
  · intro hdescribed
    obtain ⟨document, hanswer, hmetadata⟩ := hdescribed
    exact ⟨document, t, hanswer, by rw [hmetadata]; rfl⟩

/-- A downloaded body opens to a plaintext: it decrypts under the key that the key broker gives
for the model's key location, or it is the plaintext where there is none. -/
def Opens (env : Environment σ) (provider : Provider) (limit : Option Duration) (body : Bytes)
    (s : Session σ) (plaintext : Bytes) (t : Session σ) : Option KeyLocation → Prop
  | some location => ∃ key,
      Broker.getKey env.peers provider.retry location.kbsUrl location.keyId limit s =
        (.done key, t) ∧ Envelope.decrypt body key = .ok plaintext
  | none => plaintext = body ∧ t = s

/-- A body is decrypted if it opens under the key at its place. -/
theorem decrypt_eq_done_iff {location : KeyLocation} {body plaintext : Bytes} :
    decrypt env provider limit location body s = (.done plaintext, t) ↔
      Opens env provider limit body s plaintext t (some location) := by
  unfold decrypt Opens
  simp only [bind_eq_done_iff, ofExcept_eq_done_iff, mapError_eq_ok_iff]
  constructor
  · intro hsteps
    obtain ⟨key, u, hkey, hplain, rfl⟩ := hsteps
    exact ⟨key, hkey, hplain⟩
  · intro hopened
    obtain ⟨key, hkey, hplain⟩ := hopened
    exact ⟨key, t, hkey, hplain, rfl⟩

/-- Staging data on the disk of a session gives a path, and the session that has the file. -/
def Stages (env : Environment σ) (directory name : String) (data : Bytes) (s : Session σ)
    (path : String) (t : Session σ) : Prop :=
  let (faults, world) := env.faults s.world
  let staged := Staging.stage s.disk directory name data faults
  staged.result = .ok path ∧
    t = { s with world, disk := staged.disk, events := s.events ++ [.staged directory name] }

/-- A file is staged if the steps of staging end well. -/
theorem stage_eq_done_iff {directory name path : String} {data : Bytes} :
    stage env directory name data s = (.done path, t) ↔ Stages env directory name data s path t :=
  ofExcept_eq_done_iff

/-- What was staged lies under its name in the directory, and reads as the data. -/
theorem Stages.read {directory name path : String} {data : Bytes}
    (h : Stages env directory name data s path t) :
    path = Path.join directory name ∧ t.disk.read path = .ok data := by
  obtain ⟨hresult, rfl⟩ := h
  exact Staging.read_of_stage hresult

/-- A body opens exactly if it is the plaintext or decrypts to it. -/
theorem openBody_eq_done_iff {body plaintext : Bytes} {key : Option KeyLocation} :
    openBody env provider limit body key s = (.done plaintext, t) ↔
      Opens env provider limit body s plaintext t key := by
  cases key with
  | some location => exact decrypt_eq_done_iff
  | none => simp [openBody, Opens, eq_comm]

/-- **The steps of a retrieval.**  It is done exactly if the metadata is there and can be
followed, the model is there and opens, and its plaintext can be staged, each step in the session
that the one before left. -/
theorem getInfo_eq_done_iff {info : Info} :
    provider.getInfo env limit s = (.done info, t) ↔
      ∃ m s₁ plan body s₂ plaintext s₃ path s₄, Describes env provider s m s₁ ∧
        Plan.ofMetadata m = .ok plan ∧ Answers env plan.url [] s₁ body s₂ ∧
        Opens env provider limit body s₂ plaintext s₃ plan.key ∧
        Stages env provider.modelDir plan.fileName plaintext s₃ path s₄ ∧
        t = { s₄ with retrieved := some plaintext } ∧
        info = { id := plan.id, path, details := plan.details, uploadedDate := 0,
                 metrics := .zero } := by
  rw [getInfo_eq]
  simp only [deliver, Provider.download, bind_eq_done_iff, fetchMetadata_eq_done_iff,
    fetch_eq_done_iff, ofExcept_eq_done_iff, openBody_eq_done_iff, ← stage_eq_done_iff]
  constructor
  · intro hsteps
    obtain ⟨m, _, hmetadata, plan, s₁, ⟨hplan, rfl⟩, body, s₂, hbody, plaintext, s₃, hopen, path,
      s₄, hstage, hreport⟩ := hsteps
    obtain ⟨_, _, hkeep, hinfo⟩ := hreport
    obtain ⟨-, rfl⟩ := Prod.mk.inj hkeep
    obtain ⟨rfl, rfl⟩ : _ = info ∧ _ = t := by simpa using hinfo
    exact ⟨m, s₁, plan, body, s₂, plaintext, s₃, path, s₄, hmetadata, hplan, hbody, hopen, hstage,
      rfl, rfl⟩
  · intro hsteps
    obtain ⟨m, s₁, plan, body, s₂, plaintext, s₃, path, s₄, hmetadata, hplan, hbody, hopen, hstage,
      rfl, rfl⟩ := hsteps
    exact ⟨m, s₁, hmetadata, plan, s₁, ⟨hplan, rfl⟩, body, s₂, hbody, plaintext, s₃, hopen, path,
      s₄, hstage, (), _, rfl, rfl⟩

/-- A required field has to be given, and counts without the white space around it. -/
theorem required_eq_ok_iff {name text : String} {value : Option String} :
    required name value = .ok text ↔ given value = some text := by
  unfold required
  cases given value <;> simp

/-- A key location needs the one kind of broker there is, by its exact name, and the two texts
that say where the key is. -/
theorem KeyLocation.ofMetadata_eq_ok_iff {m : Metadata} {location : KeyLocation} :
    KeyLocation.ofMetadata m = .ok location ↔
      given m.kbs = some "amber" ∧ given m.kbsUrl = some location.kbsUrl ∧
        given m.keyId = some location.keyId := by
  simp only [KeyLocation.ofMetadata, bind_eq_ok_iff, required_eq_ok_iff, pure_eq_ok_iff,
    BrokerKind.ofName_eq_ok_iff]
  constructor
  · intro hsteps
    obtain ⟨_, hkbs, kbsUrl, hkbsUrl, keyId, hkeyId, kind, rfl, rfl⟩ := hsteps
    exact ⟨hkbs, hkbsUrl, hkeyId⟩
  · intro hgiven
    obtain ⟨hkbs, hkbsUrl, hkeyId⟩ := hgiven
    exact ⟨_, hkbs, _, hkbsUrl, _, hkeyId, location.kind, rfl, rfl⟩

/-- What a plan takes from metadata.  There is a key location exactly for encrypted models. -/
theorem Plan.ofMetadata_eq_ok_iff {m : Metadata} {plan : Plan} :
    Plan.ofMetadata m = .ok plan ↔
      given m.id = some plan.id ∧ given m.url = some plan.url ∧
        Model.fileName plan.url = .ok plan.fileName ∧
        (if m.encrypted then (KeyLocation.ofMetadata m).map some else .ok none) = .ok plan.key ∧
        plan.details = Details.ofMetadata m := by
  unfold Plan.ofMetadata
  cases given m.id with
  | none => simp [throw_ne_ok]
  | some id =>
      cases given m.url with
      | none => simp [throw_ne_ok]
      | some url =>
          have hkeyed : ∀ (key : Except LoadError (Option KeyLocation)),
              (do let fileName ← Model.fileName url
                  let key ← key
                  return { id, url, fileName, key, details := Details.ofMetadata m }) =
                Except.ok plan ↔
              some id = some plan.id ∧ some url = some plan.url ∧
                Model.fileName plan.url = .ok plan.fileName ∧ key = .ok plan.key ∧
                plan.details = Details.ofMetadata m := by
            intro key
            simp only [bind_eq_ok_iff, pure_eq_ok_iff, Option.some.injEq]
            constructor
            · intro hsteps
              obtain ⟨name, hname, key, hkey, rfl⟩ := hsteps
              exact ⟨rfl, rfl, hname, hkey, rfl⟩
            · intro hplan
              obtain ⟨rfl, rfl, hname, hkey, hdetails⟩ := hplan
              exact ⟨plan.fileName, hname, plan.key, hkey, by rw [← hdetails]⟩
          cases m.encrypted with
          | true => exact hkeyed _
          | false => exact hkeyed (.ok none)

/-- Metadata with everything that the retrieval of a sealed model needs. -/
structure Metadata.Complete (m : Metadata) (id url name kbsUrl keyId : String) : Prop where
  id_given : given m.id = some id
  url_given : given m.url = some url
  url_names : Model.fileName url = .ok name
  encrypted : m.encrypted = true
  kbs_amber : given m.kbs = some "amber"
  kbsUrl_given : given m.kbsUrl = some kbsUrl
  keyId_given : given m.keyId = some keyId

/-- Complete metadata can be followed, and to one plan only. -/
theorem Metadata.Complete.plan {m : Metadata} {id url name kbsUrl keyId : String}
    (h : m.Complete id url name kbsUrl keyId) :
    Plan.ofMetadata m = .ok
      { id, url, fileName := name, key := some { kind := .amber, kbsUrl, keyId },
        details := Details.ofMetadata m } := by
  have hlocation : KeyLocation.ofMetadata m = .ok { kind := .amber, kbsUrl, keyId } :=
    KeyLocation.ofMetadata_eq_ok_iff.mpr ⟨h.kbs_amber, h.kbsUrl_given, h.keyId_given⟩
  refine Plan.ofMetadata_eq_ok_iff.mpr ⟨h.id_given, h.url_given, h.url_names, ?_, rfl⟩
  rw [h.encrypted, hlocation]
  rfl

/-- The key location of an encrypted model is the one of its metadata. -/
theorem Plan.location_of_ofMetadata {m : Metadata} {plan : Plan} (h : Plan.ofMetadata m = .ok plan)
    (hencrypted : m.encrypted = true) :
    ∃ location, plan.key = some location ∧ KeyLocation.ofMetadata m = .ok location := by
  obtain ⟨-, -, -, hkey, -⟩ := Plan.ofMetadata_eq_ok_iff.mp h
  rw [hencrypted, if_pos rfl] at hkey
  cases hlocation : KeyLocation.ofMetadata m with
  | error e =>
      rw [hlocation] at hkey
      exact absurd hkey nofun
  | ok location =>
      rw [hlocation] at hkey
      exact ⟨location, (Except.ok.inj hkey).symm, rfl⟩

/-- A plan has a key location exactly if the metadata says that the model is encrypted. -/
theorem Plan.key_of_ofMetadata {m : Metadata} {plan : Plan} (h : Plan.ofMetadata m = .ok plan) :
    (m.encrypted = true → ∃ location, plan.key = some location) ∧
      (m.encrypted = false → plan.key = none) := by
  constructor
  · intro hencrypted
    obtain ⟨location, hkey, -⟩ := Plan.location_of_ofMetadata h hencrypted
    exact ⟨location, hkey⟩
  · intro hplain
    obtain ⟨-, -, -, hkey, -⟩ := Plan.ofMetadata_eq_ok_iff.mp h
    rw [hplain] at hkey
    exact (Except.ok.inj hkey).symm

/-- **Only what was authenticated is staged, and what was sealed properly arrives.**

Of a retrieval that is done, the file at the reported path and the model that is kept are one
plaintext.  For encrypted models the downloaded body is, byte for byte, what sealing that plaintext
gives under the content key that the key broker gave in the same call and under bytes 12 to 24
of the body; for others the plaintext is the body.

Conversely, let the metadata be complete, the body what sealing a model gives under a key and
some nonce, the key what the key broker gives, and let staging not fail.  Then the retrieval is
done, and the model is what is staged and kept. -/
theorem getInfo_delivers (env : Environment σ) (provider : Provider) (limit : Option Duration)
    (s : Session σ) :
    (∀ info t, provider.getInfo env limit s = (.done info, t) →
      ∃ m s₁ plan body s₂ p, Describes env provider s m s₁ ∧ Plan.ofMetadata m = .ok plan ∧
        Answers env plan.url [] s₁ body s₂ ∧
        info.path = Path.join provider.modelDir plan.fileName ∧
        t.disk.read info.path = .ok p ∧ t.retrieved = some p ∧
        (m.encrypted = true → ∃ location key s₃, plan.key = some location ∧
          Broker.getKey env.peers provider.retry location.kbsUrl location.keyId limit s₂ =
            (.done key, s₃) ∧
          Envelope.encrypt p key ((body.drop 12).take 12) = .ok body) ∧
        (m.encrypted = false → p = body)) ∧
    (∀ m s₁ id url name kbsUrl keyId body s₂ model key iv s₃ path,
      Describes env provider s m s₁ → m.Complete id url name kbsUrl keyId →
      Answers env url [] s₁ body s₂ → iv.length = 12 → Envelope.encrypt model key iv = .ok body →
      Broker.getKey env.peers provider.retry kbsUrl keyId limit s₂ = (.done key, s₃) →
      (Staging.stage s₃.disk provider.modelDir name model (env.faults s₃.world).1).result =
        .ok path →
      ∃ info t, provider.getInfo env limit s = (.done info, t) ∧ info.path = path ∧
        t.disk.read path = .ok model ∧ t.retrieved = some model) := by
  constructor
  · intro info t hdone
    obtain ⟨m, s₁, plan, body, s₂, p, s₃, path, s₄, hmetadata, hplan, hbody, hopen, hstage, rfl,
      rfl⟩ := getInfo_eq_done_iff.mp hdone
    obtain ⟨hsealed, hplain⟩ := Plan.key_of_ofMetadata hplan
    refine ⟨m, s₁, plan, body, s₂, p, hmetadata, hplan, hbody, hstage.read.1, hstage.read.2, rfl,
      ?_, ?_⟩
    · intro hencrypted
      obtain ⟨location, hlocation⟩ := hsealed hencrypted
      rw [hlocation] at hopen
      obtain ⟨key, hkey, hdecrypt⟩ := hopen
      exact ⟨location, key, s₃, hlocation, hkey, (Envelope.encrypt_of_decrypt hdecrypt).1⟩
    · intro hencrypted
      rw [hplain hencrypted] at hopen
      exact hopen.1
  · intro m s₁ id url name kbsUrl keyId body s₂ model key iv s₃ path hmetadata hcomplete hbody hiv
      hsealed hkey hresult
    have hopen : Opens env provider limit body s₂ model s₃
        (some { kind := .amber, kbsUrl, keyId }) :=
      ⟨key, hkey, Envelope.decrypt_of_encrypt hiv hsealed⟩
    have hstage : Stages env provider.modelDir name model s₃ path _ := ⟨hresult, rfl⟩
    refine ⟨_, _, getInfo_eq_done_iff.mpr ⟨m, s₁, _, body, s₂, model, s₃, path, _, hmetadata,
      hcomplete.plan, hbody, hopen, hstage, rfl, rfl⟩, rfl, hstage.read.2, rfl⟩

/-- The document `[7, 8, 9]`, sealed under the content key of the sample grant. -/
def sealedDocument : Bytes :=
  (Envelope.enclose [7, 8, 9] Broker.sampleGrant.contentKey (List.replicate 12 1)).toBytes

/-- Servers that follow a script, a key broker that has the sample grant, and a disk without
faults. -/
def granted : Environment (List Http.Response) where
  fetch := scriptedFetch
  peers :=
    { makeKeyPair := fun world => (.ok Rsa.samplePair, world)
      collectEvidence := fun _ world => (.ok [1, 2, 3], world)
      post := fun request world => (.immediate (.ok (Broker.sampleGrant.respond request)), world) }
  faults world := (.none, world)

/-- The metadata of the sealed model, as it is served. -/
def sealedMetadata : Bytes :=
  Text.Utf8.encode ("\x7b\"id\":\"m\",\"url\":\"http://h/m.enc\",\"encrypted\":true," ++
    "\"kbs\":\"amber\",\"kbs_url\":\"http://k\",\"key_id\":\"i\"\x7d")

/-- What it says. -/
def sampleMetadata : Metadata where
  id := some "m"
  url := some "http://h/m.enc"
  name := none
  version := none
  framework := none
  target := none
  dtype := none
  encrypted := true
  kbs := some "amber"
  kbsUrl := some "http://k"
  keyId := some "i"

/-- The sample metadata has all that an encrypted model needs. -/
theorem complete_sampleMetadata :
    sampleMetadata.Complete "m" "http://h/m.enc" "m" "http://k" "i" where
  id_given := by decide +kernel
  url_given := by decide +kernel
  url_names := eq_ok_of_toOption (by decide +kernel)
  encrypted := rfl
  kbs_amber := by decide +kernel
  kbsUrl_given := by decide +kernel
  keyId_given := by decide +kernel

/-- A session in which the servers are about to give the metadata and the sealed model. -/
def beforeRetrieval : Session (List Http.Response) :=
  .start [⟨200, sealedMetadata⟩, ⟨200, sealedDocument⟩] ⟨[(["d"], .directory)], []⟩

/-- A usable address is answered with the next document of the script. -/
theorem answers_script {env : Environment (List Http.Response)} (henv : env.fetch = scriptedFetch)
    {url : String} (hurl : (Http.address? url).isSome) (headers : List (String × String))
    {s : Session (List Http.Response)} {document : Bytes} {rest : List Http.Response}
    (hworld : s.world = ⟨200, document⟩ :: rest) :
    Answers env url headers s document
      { s with world := rest, events := s.events ++ [.fetched ⟨url, headers, none⟩] } := by
  obtain ⟨address, haddress⟩ := Option.isSome_iff_exists.mp hurl
  refine ⟨?_, rfl⟩
  simp only [Http.send, haddress, henv, hworld, scriptedFetch]

/-- The answer of a script leaves the disk and the time of cancellation alone. -/
theorem answers_scripted {env : Environment (List Http.Response)} (henv : env.fetch = scriptedFetch)
    {url : String} (hurl : (Http.address? url).isSome) (headers : List (String × String))
    {s : Session (List Http.Response)} {document : Bytes} {rest : List Http.Response}
    (hworld : s.world = ⟨200, document⟩ :: rest) :
    ∃ t, Answers env url headers s document t ∧ t.world = rest ∧ t.disk = s.disk ∧
      t.cancelledAt = s.cancelledAt :=
  ⟨_, answers_script henv hurl headers hworld, rfl, rfl, rfl⟩

/-- A sealed model of three bytes arrives. -/
theorem getInfo_of_sealed_model :
    ∃ info t, scriptedProvider.getInfo granted none beforeRetrieval = (.done info, t) ∧
      info.path = "/d/m" ∧ t.disk.read "/d/m" = .ok [7, 8, 9] ∧ t.retrieved = some [7, 8, 9] := by
  obtain ⟨s₁, hmetadata, hworld₁, hdisk₁, hcancelled₁⟩ := @answers_scripted granted rfl
    scriptedProvider.metadataUrl (by decide +kernel) Http.jsonHeaders beforeRetrieval _ _ rfl
  have hdescribes : Describes granted scriptedProvider beforeRetrieval sampleMetadata s₁ :=
    ⟨sealedMetadata, hmetadata, by decide +kernel⟩
  obtain ⟨s₂, hbody, -, hdisk₂, hcancelled₂⟩ := @answers_scripted granted rfl
    "http://h/m.enc" (by decide +kernel) [] s₁ _ _ hworld₁
  have hundisturbed : Broker.Undisturbed { s₂ with deadline := none } :=
    ⟨hcancelled₂.trans hcancelled₁, rfl⟩
  obtain ⟨u, hexchange, -⟩ := @Broker.exchange_of_reaches _ granted.peers .standard _ "http://k" "i"
    _ _ _ _ hundisturbed Rsa.sound_samplePair rfl rfl _ Broker.wellFormed_sampleGrant _
    Broker.sampleGrant.correct_respond 0 (by decide) (.answers .zero rfl)
  have hkey := Broker.getKey_of_exchange (by decide) (by decide) hexchange
  have hstore := Broker.keeps_getKey granted.peers .standard "http://k" "i" none s₂
  rw [hkey] at hstore
  have hdisk : u.disk = beforeRetrieval.disk :=
    (Session.store_eq_iff.mp hstore).1.trans (hdisk₂.trans hdisk₁)
  have hstage : (Staging.stage u.disk "/d" "m" [7, 8, 9] .none).result = .ok "/d/m" := by
    rw [hdisk]
    exact eq_ok_of_toOption (by decide +kernel)
  have hsealed : Envelope.encrypt [7, 8, 9] Broker.sampleGrant.contentKey (List.replicate 12 1) =
      .ok sealedDocument :=
    Envelope.encrypt_eq_ok_iff.mpr ⟨by decide, by decide, rfl⟩
  exact (getInfo_delivers granted scriptedProvider none beforeRetrieval).2 sampleMetadata s₁ "m"
    "http://h/m.enc" "m" "http://k" "i" sealedDocument s₂ [7, 8, 9] _ (List.replicate 12 1) _ "/d/m"
    hdescribes complete_sampleMetadata hbody (by decide) hsealed hkey hstage

end Model

end AttestedModel
