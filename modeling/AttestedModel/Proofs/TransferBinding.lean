import AttestedModel.Proofs.EvidenceDocuments
import AttestedModel.Proofs.KeyExchange
import AttestedModel.Proofs.ReportEntries
import AttestedModel.Proofs.TransferSteps

/-!
# One key pair, one evidence, one request

A key request that is not refused makes one key pair and asks for at most one
piece of evidence, which is bound to the public document of the pair.  All that is
sent after that is one request, again and again: it carries the evidence and the
document.  The reply is opened with the same pair (`getKey_binds`).

The steps before the first request are taken apart one by one
(`makeKeyPair_ends`, `collectEvidence_ends`).  Of the transfer behind them only its
events matter, and these are known from its frame (`frame_adds`).
-/

namespace AttestedModel.Broker

open AttestedModel.Action

variable {σ : Type}

/-- A request that asks for a key with a piece of evidence and the public document of a pair. -/
structure Carries (request : Http.Request) (serverUrl keyId : String) (quote : Bytes)
    (pair : Rsa.KeyPair) : Prop where
  url_eq : request.url = transferUrl serverUrl keyId
  headers_eq : request.headers = [("Accept", "application/json"),
    ("Content-Type", "application/json"), ("Attestation-Type", "TDX")]
  message : ∃ body, request.body = some body ∧
    (Json.parse body).bind TransferRequest.ofJson? =
      some { quote := Text.Base64.encode quote, userData := Text.Base64.encode pair.publicKeyDer }

/-- The request of a transfer carries what it is made from. -/
theorem carries_transferRequest (serverUrl keyId : String) (quote : Bytes) (pair : Rsa.KeyPair) :
    Carries (transferRequest serverUrl keyId quote (userData pair)) serverUrl keyId quote pair where
  url_eq := rfl
  headers_eq := rfl
  message := ⟨_, rfl, TransferRequest.read_written _⟩

/-- Evidence of either kind commits to the digest of a binding: a mock document says it, and for a
quote of a kernel nothing else is written, and the digest is accepted. -/
structure CommitsTo (binding : Bytes) (evidence : Bytes) : Prop where
  mock : Evidence.collectMock binding = .ok evidence →
    ∃ document, (Json.parse evidence).bind Evidence.MockDocument.ofJson? = some document ∧
      document.reportData = Text.Hex.encode (Digest.sha512 binding)
  quote : ∀ {κ : Type} (kernel : Evidence.Kernel κ) (suffix : Bytes) (state : κ),
    (Evidence.collect kernel suffix binding state).1 = .ok evidence →
    let steps := (Evidence.collect kernel suffix binding state).2.steps
    .write (Evidence.entryName suffix) (Digest.sha512 binding) true ∈ steps ∧
      ∀ step ∈ steps, step.Writes (Digest.sha512 binding)

/-- **Evidence of either kind commits to its binding.** -/
theorem commitsTo (binding evidence : Bytes) : CommitsTo binding evidence where
  mock := Evidence.collectMock_commits
  quote kernel suffix state hquote :=
    have hcommits := Evidence.collect_commits kernel suffix binding state
    ⟨hcommits.2 evidence hquote, hcommits.1⟩

/-- Making a pair notes what was made, and fails or hands the pair on. -/
theorem makeKeyPair_ends (peers : Peers σ) (s : Session σ) :
    let made := peers.makeKeyPair s.world
    let t := { s with world := made.2, events := s.events ++ [.madeKeyPair made.1] }
    (∃ e, makeKeyPair peers s = (.failed e, t)) ∨
      ∃ pair, made.1 = .ok pair ∧ makeKeyPair peers s = (.done pair, t) := by
  intro made t
  have hrun : makeKeyPair peers s =
      (failIfExpired >>= fun _ => ofExcept (made.1.mapError LoadError.ofCrypto)) t :=
    rfl
  rw [hrun]
  by_cases hexpired : t.deadline.any (· ≤ t.now)
  · have hfail : failIfExpired t = (.failed .timeout, t) := if_pos hexpired
    exact .inl ⟨.timeout, by simp only [Bind.bind, hfail]⟩
  · have hpass : failIfExpired t = (.done (), t) := if_neg hexpired
    rw [bind_of_done _ hpass]
    cases made.1 with
    | error e => exact .inl ⟨_, rfl⟩
    | ok pair => exact .inr ⟨pair, rfl, rfl⟩

/-- Collecting evidence notes its binding, and fails or hands on what the world gives. -/
theorem collectEvidence_ends (peers : Peers σ) (binding : Bytes) (s : Session σ) :
    let evidence := peers.collectEvidence binding s.world
    let t := { s with world := evidence.2, events := s.events ++ [.boundEvidence binding] }
    (∃ failure e, evidence.1 = .error failure ∧ collectEvidence peers binding s = (.failed e, t)) ∨
      ∃ quote, evidence.1 = .ok quote ∧ collectEvidence peers binding s = (.done quote, t) := by
  unfold collectEvidence
  rw [note_bind, ask_bind]
  cases hevidence : (peers.collectEvidence binding s.world).1 with
  | ok quote => exact .inr ⟨quote, hevidence, rfl⟩
  | error failure =>
      cases failure with
      | reported e => exact .inl ⟨_, e, hevidence, rfl⟩
      | crashed => exact .inl ⟨_, _, hevidence, rfl⟩

/-- What is left of an exchange when a pair has been made and evidence is there. -/
def transferFor (peers : Peers σ) (policy : RetryPolicy) (request : Http.Request)
    (pair : Rsa.KeyPair) : Action σ Bytes := do
  let response ← post peers policy request
  Action.ofExcept (openReply pair response.body)

/-- An exchange fails for want of a pair, or for want of evidence, or it is a transfer. -/
theorem exchange_ends (peers : Peers σ) (policy : RetryPolicy) (serverUrl keyId : String)
    (s : Session σ) :
    let run := exchange peers policy serverUrl keyId s
    let made := peers.makeKeyPair s.world
    (∃ e, run = (.failed e,
      { s with world := made.2, events := s.events ++ [.madeKeyPair made.1] })) ∨
    ∃ pair, made.1 = .ok pair ∧
      let binding := Text.Utf8.encode (userData pair)
      let evidence := peers.collectEvidence binding made.2
      let t := { s with
        world := evidence.2
        events := s.events ++ [.madeKeyPair (.ok pair), .boundEvidence binding] }
      (∃ failure e, evidence.1 = .error failure ∧ run = (.failed e, t)) ∨
        ∃ quote, evidence.1 = .ok quote ∧
          run = transferFor peers policy
            (transferRequest serverUrl keyId quote (userData pair)) pair t := by
  unfold exchange
  rcases makeKeyPair_ends peers s with ⟨e, hmade⟩ | ⟨pair, hpair, hmade⟩
  · exact .inl ⟨e, by simp only [Bind.bind, hmade]⟩
  refine .inr ⟨pair, hpair, ?_⟩
  rw [bind_of_done _ hmade, hpair]
  have hends := collectEvidence_ends peers (Text.Utf8.encode (userData pair)) { s with
    world := (peers.makeKeyPair s.world).2
    events := s.events ++ [.madeKeyPair (.ok pair)] }
  simp only [List.append_assoc, List.singleton_append] at hends
  rcases hends with ⟨failure, e, hfailure, hcollected⟩ | ⟨quote, hquote, hcollected⟩
  · exact .inl ⟨failure, e, hfailure, by simp only [Bind.bind, hcollected]⟩
  · exact .inr ⟨quote, hquote, by rw [bind_of_done _ hcollected, transferFor]⟩

/-- A transfer adds nothing but requests and waits, whatever becomes of the reply. -/
theorem adds_transferFor (peers : Peers σ) (policy : RetryPolicy) (request : Http.Request)
    (pair : Rsa.KeyPair) :
    Adds (TransferEvent request) (transferFor peers policy request pair) :=
  ((frame_adds request).post peers policy).bind fun _ => adds_ofExcept _

/-- **Every request is bound to one key pair by one evidence.**

A call that lacks an argument fails, and nothing at all has happened.  Any other call makes one key
pair.  Unless it fails for want of it, it asks for one piece of evidence, bound to the bytes of the
public document of the pair in base64.  Unless it fails for want of that, it is a transfer of one
request, to one address and with one set of headers, whose message is the evidence and the very
document that the evidence commits to; and the reply is opened with the same pair. -/
theorem getKey_binds (peers : Peers σ) (policy : RetryPolicy) (serverUrl keyId : String)
    (limit : Option Duration) (s : Session σ) :
    let run := getKey peers policy serverUrl keyId limit s
    let events := s.since run.2
    let made := peers.makeKeyPair s.world
    (Text.blank serverUrl ∨ Text.blank keyId → events = [] ∧ ∃ e, run.1 = .failed e) ∧
    (¬ (Text.blank serverUrl ∨ Text.blank keyId) →
      (events = [.madeKeyPair made.1] ∧ ∃ e, run.1 = .failed e) ∨
      ∃ pair rest, made.1 = .ok pair ∧
        let binding := Text.Utf8.encode (userData pair)
        let evidence := peers.collectEvidence binding made.2
        events = .madeKeyPair (.ok pair) :: .boundEvidence binding :: rest ∧
        ((∃ failure e, evidence.1 = .error failure ∧ rest = [] ∧ run.1 = .failed e) ∨
          ∃ quote request, evidence.1 = .ok quote ∧ Carries request serverUrl keyId quote pair ∧
            CommitsTo binding quote ∧ (∀ event ∈ rest, TransferEvent request event) ∧
            run.1 = (transferFor peers policy request pair { s with
              world := evidence.2
              deadline := limit.map fun length => s.now + length.milliseconds
              events := s.events ++ [.madeKeyPair (.ok pair), .boundEvidence binding] }).1)) := by
  refine ⟨fun hblank => ?_, fun hblank => ?_⟩
  · obtain ⟨e, hfail⟩ := getKey_of_blank hblank peers policy
    rw [hfail]
    exact ⟨s.since_self, e, rfl⟩
  · have hends := exchange_ends peers policy serverUrl keyId
      { s with deadline := limit.map fun length => s.now + length.milliseconds }
    rw [getKey_eq_within hblank]
    simp only [within]
    rcases hends with ⟨e, heq⟩ | ⟨pair, hpair, hends⟩
    · rw [heq]
      exact .inl ⟨Session.since_of_append rfl, e, rfl⟩
    right
    rcases hends with ⟨failure, e, hfailure, heq⟩ | ⟨quote, hquote, heq⟩
    · rw [heq]
      exact ⟨pair, [], hpair, Session.since_of_append rfl, .inl ⟨failure, e, hfailure, rfl, rfl⟩⟩
    · obtain ⟨rest, hrest⟩ := adds_transferFor peers policy
        (transferRequest serverUrl keyId quote (userData pair)) pair { s with
          world := (peers.collectEvidence (Text.Utf8.encode (userData pair))
            (peers.makeKeyPair s.world).2).2
          deadline := limit.map fun length => s.now + length.milliseconds
          events := s.events ++
            [.madeKeyPair (.ok pair), .boundEvidence (Text.Utf8.encode (userData pair))] }
      have hevents := hrest.events_eq
      rw [List.append_assoc] at hevents
      rw [heq]
      exact ⟨pair, rest, hpair, Session.since_of_append hevents, .inr ⟨quote, _, hquote,
        carries_transferRequest serverUrl keyId quote pair, commitsTo _ quote, hrest.allowed, rfl⟩⟩

end AttestedModel.Broker
