import AttestedModel.Proofs.EnvelopeCodec
import AttestedModel.Proofs.JsonDocuments
import AttestedModel.Proofs.KeyReplies
import AttestedModel.Proofs.KeyWrapping
import AttestedModel.Proofs.Retries

/-!
# A key exchange with a correct broker

A correct broker wraps what it has for the public document in the request that it
received, and replies with both wrapped keys.  Each layer of the exchange is
undone by the other side: the two messages by `ofJson?_toJson`, base64, the
wrapping by the pair, the envelope by the unwrapped key.  So the reply opens to the
content key (`openReply_of_correct`).

The transport may fail to connect as long as attempts are left.  By induction on
the failures, the transfer ends with the broker's response after one request more
than there were failures (`postFrom_of_reaches`).
-/

namespace AttestedModel.Broker

open AttestedModel.Action

/-- The fields of a request are read from its tree. -/
theorem TransferRequest.ofJson?_toJson (message : TransferRequest) :
    ofJson? message.toJson = some message := by
  have hfields : message.toJson.fields? fields =
      some [.ofText message.quote, .ofText message.userData] :=
    Json.fields?_record rfl (by decide)
  simp only [ofJson?, hfields, Option.bind_eq_bind, Option.bind_some]
  rfl

/-- The fields of a reply are read from its tree. -/
theorem TransferReply.ofJson?_toJson (message : TransferReply) :
    ofJson? message.toJson = some message := by
  have hfields : message.toJson.fields? fields =
      some [.ofOptionalText message.wrappedKey, .ofOptionalText message.wrappedSwk] :=
    Json.fields?_record rfl (by decide)
  simp only [ofJson?, hfields, Option.bind_eq_bind, Option.bind_some,
    Json.optionalText?_ofOptionalText]
  rfl

/-- The tree of a request can be written. -/
theorem TransferRequest.writable_toJson (message : TransferRequest) :
    Json.Writable message.toJson := by
  refine Json.writable_record fun member hmember => ?_
  simp only [List.mem_cons, List.not_mem_nil, or_false] at hmember
  rcases hmember with rfl | rfl
  · exact .string message.quote
  · exact .string message.userData

/-- The tree of a reply can be written. -/
theorem TransferReply.writable_toJson (message : TransferReply) :
    Json.Writable message.toJson := by
  refine Json.writable_record fun member hmember => ?_
  simp only [List.mem_cons, List.not_mem_nil, or_false] at hmember
  rcases hmember with rfl | rfl
  · exact Json.writable_ofOptionalText message.wrappedKey
  · exact Json.writable_ofOptionalText message.wrappedSwk

/-- A request is read back from the text that is sent. -/
theorem TransferRequest.read_written (message : TransferRequest) :
    (Json.parse (Text.Utf8.encode message.toJson.toCompact)).bind ofJson? = some message := by
  rw [Json.parse_toCompact message.writable_toJson, Option.bind_some, ofJson?_toJson]

/-- A reply is read back from the text that is sent. -/
theorem TransferReply.read_written (message : TransferReply) :
    (Json.parse (Text.Utf8.encode message.toJson.toCompact)).bind ofJson? = some message := by
  rw [Json.parse_toCompact message.writable_toJson, Option.bind_some, ofJson?_toJson]

/-- What a broker gives out: a content key, the key that it is sealed under, and the random
choices of wrapping and sealing. -/
structure Grant where
  contentKey : Bytes
  swk : Bytes
  seed : Bytes
  iv : Bytes

/-- A grant whose keys and choices have the lengths they must have. -/
structure Grant.WellFormed (grant : Grant) : Prop where
  contentKey : grant.contentKey.length < 2 ^ 32
  swk : grant.swk.length = 16 ∨ grant.swk.length = 24 ∨ grant.swk.length = 32
  seed : grant.seed.length = 32
  iv : grant.iv.length = 12

/-- The reply that a request is entitled to: the key-encryption key wrapped under the public
document that the request carries, and the content key sealed under the key-encryption key. -/
def Grant.reply? (grant : Grant) (request : Http.Request) : Option TransferReply := do
  let body ← request.body
  let message ← (Json.parse body).bind TransferRequest.ofJson?
  let der ← Text.Base64.decode? message.userData
  let wrappedSwk ← (Rsa.wrap der grant.swk grant.seed).toOption
  let wrappedKey ← (Envelope.encrypt grant.contentKey grant.swk grant.iv).toOption
  return {
    wrappedKey := some (Text.Base64.encode wrappedKey)
    wrappedSwk := some (Text.Base64.encode wrappedSwk) }

/-- A broker that answers every request that is entitled to a reply with status 200 and a
document of that reply. -/
def Correct (grant : Grant) (broker : Http.Request → Http.Response) : Prop :=
  ∀ request reply, grant.reply? request = some reply →
    (broker request).status = 200 ∧
      (Json.parse (broker request).body).bind TransferReply.ofJson? = some reply

/-- The broker that writes its replies on one line, and refuses other requests. -/
def Grant.respond (grant : Grant) (request : Http.Request) : Http.Response :=
  match grant.reply? request with
  | some reply => ⟨200, Text.Utf8.encode reply.toJson.toCompact⟩
  | none => ⟨400, []⟩

/-- The broker that keeps to a grant is correct for it. -/
theorem Grant.correct_respond (grant : Grant) : Correct grant grant.respond := by
  intro request reply hreply
  simp only [respond, hreply, reply.read_written, and_self]

/-- A request for a sound pair's public document is entitled to a reply, and the two wrapped
keys of the reply lead back to the content key. -/
theorem Grant.reply?_transferRequest {grant : Grant} (hgrant : grant.WellFormed)
    {pair : Rsa.KeyPair} (hpair : pair.Sound) (serverUrl keyId : String) (quote : Bytes) :
    ∃ wrappedKey wrappedSwk,
      grant.reply? (transferRequest serverUrl keyId quote (userData pair)) =
        some { wrappedKey := some (Text.Base64.encode wrappedKey)
               wrappedSwk := some (Text.Base64.encode wrappedSwk) } ∧
      pair.unwrap wrappedSwk = .ok grant.swk ∧
      Envelope.decrypt wrappedKey grant.swk = .ok grant.contentKey := by
  have hswk := hgrant.swk
  have hroom : grant.swk.length + Rsa.Oaep.overhead ≤ pair.publicKey.size := by
    have hsize := hpair.size_least
    simp only [Rsa.Oaep.overhead, Rsa.Oaep.digestLength]
    omega
  obtain ⟨wrappedSwk, hwrap, hunwrap⟩ := hpair.unwrap_wrap hgrant.seed hroom
  obtain ⟨wrappedKey, hseal⟩ :
      ∃ wrappedKey, Envelope.encrypt grant.contentKey grant.swk grant.iv = .ok wrappedKey :=
    ⟨_, Envelope.encrypt_eq_ok_iff.mpr
      ⟨hgrant.contentKey, Envelope.supported_iff.mpr hgrant.swk, rfl⟩⟩
  refine ⟨wrappedKey, wrappedSwk, ?_, hunwrap, Envelope.decrypt_of_encrypt hgrant.iv hseal⟩
  simp only [Grant.reply?, transferRequest, TransferRequest.read_written, userData,
    Text.Base64.decode?_encode, hwrap, hseal, Except.toOption, Option.bind_eq_bind,
    Option.bind_some, Option.pure_def]

/-- **The reply of a correct broker opens to the content key.** -/
theorem openReply_of_correct {grant : Grant} (hgrant : grant.WellFormed) {pair : Rsa.KeyPair}
    (hpair : pair.Sound) {broker : Http.Request → Http.Response} (hbroker : Correct grant broker)
    (serverUrl keyId : String) (quote : Bytes) :
    let response := broker (transferRequest serverUrl keyId quote (userData pair))
    response.status = 200 ∧ openReply pair response.body = .ok grant.contentKey := by
  obtain ⟨wrappedKey, wrappedSwk, hreply, hunwrap, hopen⟩ :=
    Grant.reply?_transferRequest hgrant hpair serverUrl keyId quote
  obtain ⟨hstatus, hbody⟩ := hbroker _ _ hreply
  refine ⟨hstatus, ?_⟩
  simp only [openReply, parseReply_of_written hbody, bind_eq_ok_iff, mapError_eq_ok_iff]
  exact ⟨_, rfl, grant.swk, hunwrap, hopen⟩

variable {σ : Type}

/-- The requests that were sent to key brokers, in their order. -/
def requests (s : Session σ) : List Http.Request :=
  s.events.filterMap fun
    | .transferred _ request => some request
    | _ => none

/-- Requests are the transfers without their times. -/
theorem requests_eq (s : Session σ) : requests s = (transfers s.events).map Prod.snd := by
  rw [requests, transfers, List.map_filterMap]
  congr 1
  funext event
  cases event <;> rfl

/-- A session that some time and some requests later is still undisturbed. -/
structure Later (s : Session σ) (world : σ) (sent : List Http.Request) (t : Session σ) : Prop where
  world_eq : t.world = world
  undisturbed : Undisturbed t
  requests_eq : requests t = requests s ++ sent

variable {peers : Peers σ} {policy : RetryPolicy} {request : Http.Request} {s : Session σ}

/-- Later and later again is later, by the requests of both. -/
theorem Later.trans {t u : Session σ} {world world' : σ} {sent sent' : List Http.Request}
    (h : Later s world sent t) (h' : Later t world' sent' u) :
    Later s world' (sent ++ sent') u where
  world_eq := h'.world_eq
  undisturbed := h'.undisturbed
  requests_eq := by rw [h'.requests_eq, h.requests_eq, List.append_assoc]

/-- From a world on, the transport fails to connect so many times, and then answers a request with
a response.  Every answer may take its time. -/
inductive Reaches (peers : Peers σ) (request : Http.Request) (response : Http.Response) :
    Nat → σ → Prop
  | answers {world world' : σ} (delay : Duration)
      (post : peers.post request world =
        ({ delay, cancels := false, answer := some (.ok response) }, world')) :
      Reaches peers request response 0 world
  | fails {failures : Nat} {world world' : σ} (delay : Duration) (detail : String)
      (post : peers.post request world =
        ({ delay, cancels := false, answer := some (.error (.connect detail)) }, world'))
      (rest : Reaches peers request response failures world') :
      Reaches peers request response (failures + 1) world

/-- A transport that reaches a response answers by a sequence that ends with it. -/
theorem Reaches.sequence {response : Http.Response} {failures : Nat} {world : σ}
    (h : Reaches peers request response failures world) :
    ∃ answers, Answers peers request answers (failures + 1) world ∧
      (∀ before < failures, Refused (answers before)) ∧ answers failures = .ok response := by
  induction h with
  | answers delay post =>
      refine ⟨fun _ => .ok response, fun before hbefore => ?_, nofun, rfl⟩
      obtain rfl : before = 0 := by omega
      simp [Peers.reaction, Peers.after, post]
  | @fails failures world world' delay detail post rest ih =>
      obtain ⟨answers, hanswers, hrefused, hlast⟩ := ih
      refine ⟨fun before => before.casesOn (.error (.connect detail)) answers, ?_, ?_, hlast⟩
      · rintro (_ | before) hbefore
        · simp [Peers.reaction, Peers.after, post]
        · have hlater := hanswers before (Nat.lt_of_succ_lt_succ hbefore)
          simpa [Peers.reaction, Peers.after, post] using hlater
      · rintro (_ | before) hbefore
        · exact ⟨detail, rfl⟩
        · exact hrefused before (Nat.lt_of_succ_lt_succ hbefore)

/-- **A transfer outlasts its failures.**  If no more attempts fail to connect than there are
further ones, the transfer ends with the response, after one request more than failures. -/
theorem postFrom_of_reaches {response : Http.Response} (hstatus : response.status = 200)
    {failures further : Nat} (hfailures : failures ≤ further) (number : Nat) (hs : Undisturbed s)
    (h : Reaches peers request response failures s.world) :
    ∃ t, postFrom peers policy request number further s = (.done response, t) ∧
      requests t = requests s ++ List.replicate (failures + 1) request := by
  obtain ⟨answers, hanswers, hrefused, hlast⟩ := h.sequence
  have haccepted : ¬ Refused (answers failures) := by
    rw [hlast]
    exact nofun
  obtain ⟨t, hposted, hevents⟩ := @postFrom_of_refusals _ _ policy _ _ _ _ _ number hs hanswers
    hfailures hrefused (.inl haccepted)
  refine ⟨t, ?_, ?_⟩
  · rw [hposted, hlast, verdict, if_pos hstatus]
  · rw [requests_eq, requests_eq, hevents, transfers_append, List.map_append,
      transfers_timetable, Peers.delays, List.length_map, List.length_range]

variable {serverUrl keyId : String} {pair : Rsa.KeyPair} {quote : Bytes} {w₁ w₂ : σ}

/-- A pair that the world has is made in an undisturbed call, and nothing is sent for it. -/
theorem makeKeyPair_of_ok (h : Undisturbed s) (hmade : peers.makeKeyPair s.world = (.ok pair, w₁)) :
    ∃ t, makeKeyPair peers s = (.done pair, t) ∧ Later s w₁ [] t := by
  have hexpired : failIfExpired
      { s with world := w₁, events := s.events ++ [.madeKeyPair (.ok pair)] } =
        (.done (), { s with world := w₁, events := s.events ++ [.madeKeyPair (.ok pair)] }) := by
    simp [failIfExpired, h.2]
  unfold makeKeyPair
  rw [ask_bind, hmade, note_bind]
  exact ⟨_, bind_of_done _ hexpired, rfl, ⟨h.1, h.2⟩,
    by simp [requests, List.filterMap_append]⟩

/-- Evidence that the world has is collected in an undisturbed call, and nothing is sent for it. -/
theorem collectEvidence_of_ok (h : Undisturbed s) {binding : Bytes}
    (hevidence : peers.collectEvidence binding s.world = (.ok quote, w₁)) :
    ∃ t, collectEvidence peers binding s = (.done quote, t) ∧ Later s w₁ [] t := by
  unfold collectEvidence
  rw [note_bind, ask_bind]
  simp only [hevidence, pure_apply]
  exact ⟨_, rfl, rfl, ⟨h.1, h.2⟩, by simp [requests, List.filterMap_append]⟩

/-- **An exchange gives the content key**: a pair and evidence are made, the transport answers in
time as a correct broker does, and the reply opens. -/
theorem exchange_of_reaches (hs : Undisturbed s) (hpair : pair.Sound)
    (hmade : peers.makeKeyPair s.world = (.ok pair, w₁))
    (hevidence :
      peers.collectEvidence (Text.Utf8.encode (userData pair)) w₁ = (.ok quote, w₂))
    {grant : Grant} (hgrant : grant.WellFormed) {broker : Http.Request → Http.Response}
    (hbroker : Correct grant broker) {failures : Nat} (hfailures : failures < policy.attempts)
    (hreaches : Reaches peers (transferRequest serverUrl keyId quote (userData pair))
      (broker (transferRequest serverUrl keyId quote (userData pair))) failures w₂) :
    ∃ t, exchange peers policy serverUrl keyId s = (.done grant.contentKey, t) ∧
      requests t = requests s ++
        List.replicate (failures + 1) (transferRequest serverUrl keyId quote (userData pair)) := by
  obtain ⟨hstatus, hopen⟩ := openReply_of_correct hgrant hpair hbroker serverUrl keyId quote
  obtain ⟨s₁, hpairMade, hlater₁⟩ := makeKeyPair_of_ok hs hmade
  rw [← hlater₁.world_eq] at hevidence
  obtain ⟨s₂, hcollected, hlater₂⟩ := collectEvidence_of_ok hlater₁.undisturbed hevidence
  rw [← hlater₂.world_eq] at hreaches
  obtain ⟨t, hposted, hrequests⟩ := @postFrom_of_reaches _ _ policy _ _ _ hstatus failures
    (policy.attempts - 1) (by omega) 1 hlater₂.undisturbed hreaches
  refine ⟨t, ?_, ?_⟩
  · unfold exchange post
    rw [bind_of_done _ hpairMade, bind_of_done _ hcollected, bind_of_done _ hposted, hopen,
      ofExcept_ok]
  · rw [hrequests, (hlater₁.trans hlater₂).requests_eq, List.append_nil, List.append_nil]

/-- A call with both arguments and without a limit of time is an exchange without a deadline. -/
theorem getKey_of_exchange (hserver : Text.blank serverUrl = false)
    (hkeyId : Text.blank keyId = false) {key : Bytes} {t : Session σ}
    (h : exchange peers policy serverUrl keyId { s with deadline := none } = (.done key, t)) :
    getKey peers policy serverUrl keyId none s = (.done key, { t with deadline := s.deadline }) := by
  unfold getKey
  rw [if_neg (by simp [hserver]), if_neg (by simp [hkeyId])]
  simp only [within, Option.map_none, h]

/-- **End to end, an exchange gives exactly the content key.**  Let a sound key pair be made and
evidence be given for this call, let neither address nor identifier be blank, and let the
transport fail to connect fewer times than the policy has attempts, and then answer as a correct
broker does.  Then a call without a limit of time and without cancellation is done with the content
key, after exactly one request more than there were failures. -/
theorem getKey_of_correct_broker (peers : Peers σ) (policy : RetryPolicy) (serverUrl keyId : String)
    (s : Session σ) (hserver : Text.blank serverUrl = false) (hkeyId : Text.blank keyId = false)
    (hcancelled : s.cancelledAt = none)
    (pair : Rsa.KeyPair) (hpair : pair.Sound) (w₁ : σ)
    (hmade : peers.makeKeyPair s.world = (.ok pair, w₁))
    (quote : Bytes) (w₂ : σ)
    (hevidence : peers.collectEvidence (Text.Utf8.encode (userData pair)) w₁ = (.ok quote, w₂))
    (grant : Grant) (hgrant : grant.WellFormed) (broker : Http.Request → Http.Response)
    (hbroker : Correct grant broker)
    (failures : Nat) (hfailures : failures < max 1 policy.maxAttempts.toNat)
    (hreaches : Reaches peers (transferRequest serverUrl keyId quote (userData pair))
      (broker (transferRequest serverUrl keyId quote (userData pair))) failures w₂) :
    ∃ t, getKey peers policy serverUrl keyId none s = (.done grant.contentKey, t) ∧
      requests t = requests s ++
        List.replicate (failures + 1) (transferRequest serverUrl keyId quote (userData pair)) := by
  have hundisturbed : Undisturbed { s with deadline := none } := ⟨hcancelled, rfl⟩
  obtain ⟨t, hexchange, hrequests⟩ := @exchange_of_reaches σ peers policy _ serverUrl keyId _ _ _ _
    hundisturbed hpair hmade hevidence grant hgrant broker hbroker failures hfailures hreaches
  exact ⟨_, getKey_of_exchange hserver hkeyId hexchange, hrequests⟩

/-- A world that counts the connections that will fail before a broker is reached. -/
def countedPeers (grant : Grant) : Peers Nat where
  makeKeyPair world := (.ok Rsa.samplePair, world)
  collectEvidence _ world := (.ok [1, 2, 3], world)
  post
    | _, failures + 1 => (.immediate (.error (.connect "")), failures)
    | request, 0 => (.immediate (.ok (grant.respond request)), 0)

theorem reaches_countedPeers (grant : Grant) (request : Http.Request) (failures : Nat) :
    Reaches (countedPeers grant) request (grant.respond request) failures failures := by
  induction failures with
  | zero => exact .answers .zero rfl
  | succ failures ih => exact .fails .zero "" rfl ih

/-- A content key of 16 bytes, sealed under another. -/
def sampleGrant : Grant :=
  { contentKey := List.replicate 16 3, swk := List.replicate 16 7, seed := List.replicate 32 9,
    iv := List.replicate 12 5 }

/-- The sample grant is one that a broker can keep to. -/
theorem wellFormed_sampleGrant : sampleGrant.WellFormed where
  contentKey := by decide
  swk := by decide
  seed := by decide
  iv := by decide

/-- Two failed connections and one answer, with three attempts. -/
theorem getKey_after_two_failures :
    ∃ t, getKey (countedPeers sampleGrant) .standard "http://k" "id" none (.start 2 ⟨[], []⟩) =
        (.done (List.replicate 16 3), t) ∧
      requests t = requests (.start 2 ⟨[], []⟩) ++ List.replicate 3
        (transferRequest "http://k" "id" [1, 2, 3] (userData Rsa.samplePair)) :=
  getKey_of_correct_broker (countedPeers sampleGrant) .standard "http://k" "id" (.start 2 ⟨[], []⟩)
    (by decide) (by decide) rfl Rsa.samplePair Rsa.sound_samplePair 2 rfl [1, 2, 3] 2 rfl
    sampleGrant wellFormed_sampleGrant sampleGrant.respond sampleGrant.correct_respond 2
    (by decide) (reaches_countedPeers sampleGrant _ 2)

end AttestedModel.Broker
