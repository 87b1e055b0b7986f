import AttestedModel.Proofs.EnvelopeCodec
import AttestedModel.Proofs.KeyReplies
import AttestedModel.Proofs.KeyUnwrapping

/-!
# Why a reply is not opened

A reply is opened in three layers, and each of them refuses in words of its own.  What
is refused is listed once for the envelope (`Envelope.Refused`) and once for the whole
reply (`Rejected`), so that every reply opens or is rejected for one reason
(`openReply_eq_error_iff`).

An argument is called invalid for one kind of reply only: both keys are readable, but
the one or the other has no length that opening could use (`Unfit`).
-/

namespace AttestedModel

namespace Envelope

/-- Why an envelope is not opened with a key, by the first reason that there is. -/
inductive Refused (envelope key : Bytes) : CryptoError → Prop
  | empty (envelope_eq : envelope = []) :
      Refused envelope key (.invalidArgument "暗号化データが空です")
  | keyless (envelope_ne : envelope ≠ []) (key_eq : key = []) :
      Refused envelope key (.invalidArgument "復号鍵が空です")
  | unframed {fault : Fault} (envelope_ne : envelope ≠ []) (key_ne : key ≠ [])
      (unread : parse envelope = .error fault) : Refused envelope key (.envelopeDecode fault.detail)
  | unsupported {e : Envelope} (key_ne : key ≠ []) (read : parse envelope = .ok e)
      (length : supported key = false) : Refused envelope key (unsupportedKey key)
  | unauthentic {e : Envelope} (read : parse envelope = .ok e) (length : supported key = true)
      (denied : Cipher.Gcm.decrypt? (cipher key) e.iv e.ciphertext e.tag = none) :
      Refused envelope key .authenticationFailure

variable {envelope key : Bytes}

/-- What has a header is not empty. -/
theorem ne_nil_of_parse {e : Envelope} (h : parse envelope = .ok e) : envelope ≠ [] := by
  rintro rfl
  exact absurd h nofun

theorem ne_nil_of_supported (h : supported key = true) : key ≠ [] := by
  rintro rfl
  exact absurd h (by decide)

/-- What is refused for a reason fails with it. -/
theorem decrypt_of_refused {e : CryptoError} (h : Refused envelope key e) :
    decrypt envelope key = .error e := by
  unfold decrypt
  cases h with
  | empty envelope_eq =>
      rw [envelope_eq]
      rfl
  | keyless envelope_ne key_eq =>
      simp only [List.isEmpty_iff, envelope_ne, key_eq, if_true, if_false]
      rfl
  | unframed envelope_ne key_ne unread =>
      simp only [List.isEmpty_iff, envelope_ne, key_ne, if_false, unread]
      rfl
  | unsupported key_ne read length =>
      simp only [List.isEmpty_iff, ne_nil_of_parse read, key_ne, if_false, read, length]
      rfl
  | unauthentic read length denied =>
      simp only [List.isEmpty_iff, ne_nil_of_parse read, ne_nil_of_supported length, if_false, read,
        length, Bool.not_true, Bool.false_eq_true, Except.mapError, Bind.bind, Except.bind,
        Pure.pure, Except.pure]
      rw [denied]
      rfl

/-- An envelope opens with a key, or it is refused for some reason. -/
theorem opened_or_refused (envelope key : Bytes) :
    (∃ plaintext, decrypt envelope key = .ok plaintext) ∨ ∃ e, Refused envelope key e := by
  by_cases henvelope : envelope = []
  · exact .inr ⟨_, .empty henvelope⟩
  by_cases hkey : key = []
  · exact .inr ⟨_, .keyless henvelope hkey⟩
  cases hparse : parse envelope with
  | error fault => exact .inr ⟨_, .unframed henvelope hkey hparse⟩
  | ok e =>
      cases hlength : supported key with
      | false => exact .inr ⟨_, .unsupported hkey hparse hlength⟩
      | true =>
          cases hopen : Cipher.Gcm.decrypt? (cipher key) e.iv e.ciphertext e.tag with
          | none => exact .inr ⟨_, .unauthentic hparse hlength hopen⟩
          | some plaintext =>
              exact .inl ⟨plaintext, decrypt_eq_ok_iff.mpr ⟨e, hparse, hlength, hopen⟩⟩

/-- **An envelope fails to open exactly if there is a reason, and with the first one.** -/
theorem decrypt_eq_error_iff {e : CryptoError} :
    decrypt envelope key = .error e ↔ Refused envelope key e := by
  refine ⟨fun hfailed => ?_, decrypt_of_refused⟩
  rcases opened_or_refused envelope key with ⟨plaintext, hopened⟩ | ⟨e', hrefused⟩
  · exact absurd (hfailed.symm.trans hopened) nofun
  · obtain rfl : e = e' := Except.error.inj (hfailed.symm.trans (decrypt_of_refused hrefused))
    exact hrefused

/-- Bytes and a key that no opening could use: the one or the other is empty, or there is an
envelope but no cipher for a key of that length. -/
def Unusable (envelope key : Bytes) : Prop :=
  envelope = [] ∨ key = [] ∨ (∃ e, parse envelope = .ok e) ∧ key.length ∉ [16, 24, 32]

/-- A key that cannot be used has none of the three sizes. -/
theorem supported_eq_false_iff : supported key = false ↔ key.length ∉ [16, 24, 32] := by
  rw [← Bool.not_eq_true, supported_iff]
  simp

/-- An envelope that is unusable with a key is refused as an invalid argument. -/
theorem Unusable.decrypt (h : Unusable envelope key) :
    ∃ detail, Envelope.decrypt envelope key = .error (.invalidArgument detail) := by
  by_cases henvelope : envelope = []
  · exact ⟨_, decrypt_of_refused (.empty henvelope)⟩
  by_cases hkey : key = []
  · exact ⟨_, decrypt_of_refused (.keyless henvelope hkey)⟩
  obtain ⟨⟨e, hread⟩, hlength⟩ := (h.resolve_left henvelope).resolve_left hkey
  exact ⟨_, decrypt_of_refused (.unsupported hkey hread (supported_eq_false_iff.mpr hlength))⟩

end Envelope

namespace Broker

open Text

/-- A reply gives the holder of a pair an envelope and the key under it. -/
def Unwraps (pair : Rsa.KeyPair) (body envelope key : Bytes) : Prop :=
  ∃ swk, TransferReply.read? body = some ⟨some (Base64.encode envelope), some (Base64.encode swk)⟩ ∧
    pair.unwrap swk = .ok key

/-- Why a reply does not open for the holder of a pair. -/
inductive Rejected (pair : Rsa.KeyPair) (body : Bytes) : LoadError → Prop
  | malformed {detail : String} (malformed : Malformed body detail) :
      Rejected pair body (.malformedResponse detail)
  | wrapped {envelope swk : Bytes}
      (read : TransferReply.read? body =
        some ⟨some (Base64.encode envelope), some (Base64.encode swk)⟩)
      (kept : ∀ key, pair.unwrap swk ≠ .ok key) :
      Rejected pair body (.decryption (CryptoError.message .unwrapError))
  | sealed {envelope key : Bytes} {e : CryptoError} (unwraps : Unwraps pair body envelope key)
      (refused : Envelope.Refused envelope key e) : Rejected pair body (.ofCrypto e)

variable {pair : Rsa.KeyPair} {body envelope key : Bytes}

/-- Of a reply the second key is unwrapped, and the first one is decrypted under what that gives. -/
theorem openReply_of_written {swk : Bytes}
    (h : TransferReply.read? body =
      some ⟨some (Base64.encode envelope), some (Base64.encode swk)⟩) :
    openReply pair body = (do
      let key ← (pair.unwrap swk).mapError LoadError.ofCrypto
      (Envelope.decrypt envelope key).mapError LoadError.ofCrypto) := by
  rw [openReply, parseReply_of_written h]
  rfl

/-- A reply that unwraps is opened as its envelope is. -/
theorem Unwraps.openReply (h : Unwraps pair body envelope key) :
    openReply pair body = (Envelope.decrypt envelope key).mapError LoadError.ofCrypto := by
  obtain ⟨swk, hread, hunwrap⟩ := h
  rw [openReply_of_written hread, hunwrap]
  rfl

/-- A rejected body is not opened, and the error is that of the rejection. -/
theorem openReply_of_rejected {e : LoadError} (h : Rejected pair body e) :
    openReply pair body = .error e := by
  cases h with
  | malformed malformed =>
      rw [openReply, parseReply_of_malformed malformed]
      rfl
  | wrapped read kept =>
      rw [openReply_of_written read, Rsa.KeyPair.unwrap_eq_error_iff.mpr kept]
      rfl
  | sealed unwraps refused =>
      rw [unwraps.openReply, Envelope.decrypt_of_refused refused]
      rfl

/-- A reply opens for the holder of a pair, or it is rejected for some reason. -/
theorem opened_or_rejected (pair : Rsa.KeyPair) (body : Bytes) :
    (∃ key, openReply pair body = .ok key) ∨ ∃ e, Rejected pair body e := by
  rcases written_or_malformed body with ⟨envelope, swk, hread⟩ | ⟨detail, hmalformed⟩
  · by_cases hunwrap : ∃ key, pair.unwrap swk = .ok key
    · obtain ⟨key, hunwrap⟩ := hunwrap
      have hunwraps : Unwraps pair body envelope key := ⟨swk, hread, hunwrap⟩
      rcases Envelope.opened_or_refused envelope key with ⟨plaintext, hopened⟩ | ⟨e, hrefused⟩
      · exact .inl ⟨plaintext, by rw [hunwraps.openReply, hopened]; rfl⟩
      · exact .inr ⟨_, .sealed hunwraps hrefused⟩
    · exact .inr ⟨_, .wrapped hread (not_exists.mp hunwrap)⟩
  · exact .inr ⟨_, .malformed hmalformed⟩

/-- **A reply fails to open exactly if it is rejected**, and for the reason that it is rejected
for. -/
theorem openReply_eq_error_iff {e : LoadError} :
    openReply pair body = .error e ↔ Rejected pair body e := by
  refine ⟨fun hfailed => ?_, openReply_of_rejected⟩
  rcases opened_or_rejected pair body with ⟨key, hopened⟩ | ⟨e', hrejected⟩
  · exact absurd (hfailed.symm.trans hopened) nofun
  · obtain rfl : e = e' := Except.error.inj (hfailed.symm.trans (openReply_of_rejected hrejected))
    exact hrejected

/-- A reply that unwraps to what no opening could use. -/
def Unfit (pair : Rsa.KeyPair) (body : Bytes) : Prop :=
  ∃ envelope key, Unwraps pair body envelope key ∧ Envelope.Unusable envelope key

/-- The kinds of failures that are a reply's own. -/
inductive BadReply : LoadError → Prop
  | malformedResponse (detail : String) : BadReply (.malformedResponse detail)
  | decryption (detail : String) : BadReply (.decryption detail)
  | envelopeDecode (detail : String) : BadReply (.envelopeDecode detail)
  | authenticationFailure : BadReply .authenticationFailure

/-- A rejected reply is called an invalid argument if it is unfit, and bad otherwise. -/
theorem Rejected.unfit_or_bad {e : LoadError} (h : Rejected pair body e) :
    (Unfit pair body ∧ ∃ detail, e = .invalidArgument detail) ∨ BadReply e := by
  cases h with
  | malformed malformed => exact .inr (.malformedResponse _)
  | wrapped read kept => exact .inr (.decryption _)
  | @sealed envelope key e unwraps refused =>
      have hunfit : Envelope.Unusable envelope key → Unfit pair body :=
        fun hunusable => ⟨envelope, key, unwraps, hunusable⟩
      cases refused with
      | empty envelope_eq => exact .inl ⟨hunfit (.inl envelope_eq), _, rfl⟩
      | keyless envelope_ne key_eq => exact .inl ⟨hunfit (.inr (.inl key_eq)), _, rfl⟩
      | unframed => exact .inr (.envelopeDecode _)
      | unsupported key_ne read length =>
          have hlength := Envelope.supported_eq_false_iff.mp length
          exact .inl ⟨hunfit (.inr (.inr ⟨⟨_, read⟩, hlength⟩)), _, rfl⟩
      | unauthentic => exact .inr .authenticationFailure

/-- **A reply is called an invalid argument exactly if it is unfit.** -/
theorem openReply_eq_invalidArgument_iff :
    (∃ detail, openReply pair body = .error (.invalidArgument detail)) ↔ Unfit pair body := by
  constructor
  · intro h
    obtain ⟨detail, hfailed⟩ := h
    rcases (openReply_eq_error_iff.mp hfailed).unfit_or_bad with ⟨hunfit, -⟩ | hbad
    · exact hunfit
    · exact absurd hbad nofun
  · intro h
    obtain ⟨envelope, key, hunwraps, hunusable⟩ := h
    obtain ⟨detail, hrefused⟩ := hunusable.decrypt
    exact ⟨detail, by rw [hunwraps.openReply, hrefused]; rfl⟩

end Broker

end AttestedModel
