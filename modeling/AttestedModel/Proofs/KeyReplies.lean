import AttestedModel.Broker.Exchange
import AttestedModel.Proofs.TextCodecs

/-!
# What a reply of a key broker is read as

A reply gives two byte strings, and it does so only if it is a reply document whose
two texts are exactly what these byte strings are written as in base64.  Every other
body is malformed.  What is wrong with it is said in the order in which it is looked
for (`Malformed`): the document, the presence of both keys, the first key, the second.

`parseReply_exact` is both together, so that a body is either of the one kind or of
the other and there is no third end.
-/

namespace AttestedModel.Broker

open Text

/-- The reply that a body is a document of. -/
def TransferReply.read? (body : Bytes) : Option TransferReply :=
  (Json.parse body).bind ofJson?

/-- What is wrong with a body, by the first thing that is. -/
inductive Malformed (body : Bytes) : (detail : String) → Prop
  | unreadable (unread : TransferReply.read? body = none) : Malformed body "JSONのパースに失敗"
  | incomplete {reply : TransferReply} (read : TransferReply.read? body = some reply)
      (missing : reply.wrappedKey = none ∨ reply.wrappedSwk = none) :
      Malformed body "wrapped_key と wrapped_swk の両方が必要です"
  | wrappedKey {key swk : String} (read : TransferReply.read? body = some ⟨some key, some swk⟩)
      (unwritten : ∀ bytes, key ≠ Base64.encode bytes) :
      Malformed body "wrapped_keyのBase64デコードに失敗"
  | wrappedSwk {key : Bytes} {swk : String}
      (read : TransferReply.read? body = some ⟨some (Base64.encode key), some swk⟩)
      (unwritten : ∀ bytes, swk ≠ Base64.encode bytes) :
      Malformed body "wrapped_swkのBase64デコードに失敗"

variable {body key swk : Bytes}

/-- A field gives the bytes that are written as its text. -/
theorem decodeField_encode (field : String) (bytes : Bytes) :
    decodeField field (Base64.encode bytes) = .ok bytes := by
  rw [decodeField, Base64.decode?_encode]

/-- A text that no bytes are written as is a failure of its field. -/
theorem decodeField_of_unwritten {text : String} (h : ∀ bytes, text ≠ Base64.encode bytes)
    (field : String) :
    decodeField field text = .error (.malformedResponse s!"{field}のBase64デコードに失敗") := by
  have hnone : Base64.decode? text = none :=
    Option.eq_none_iff_forall_ne_some.mpr fun bytes hbytes =>
      h bytes (Base64.decode?_eq_some_iff.mp hbytes)
  rw [decodeField, hnone]

/-- A document with two written keys gives them. -/
theorem parseReply_of_written
    (h : TransferReply.read? body = some ⟨some (Base64.encode key), some (Base64.encode swk)⟩) :
    parseReply body = .ok (key, swk) := by
  rw [parseReply, ← TransferReply.read?, h]
  simp only [decodeField_encode]
  rfl

/-- A malformed body fails, and the failure says what is wrong. -/
theorem parseReply_of_malformed {detail : String} (h : Malformed body detail) :
    parseReply body = .error (.malformedResponse detail) := by
  rw [parseReply, ← TransferReply.read?]
  cases h with
  | unreadable unread => rw [unread]
  | @incomplete reply read missing =>
      rw [read]
      obtain ⟨_ | key, _ | swk⟩ := reply
      · rfl
      · rfl
      · rfl
      · exact absurd missing (by simp)
  | wrappedKey read unwritten =>
      rw [read]
      simp only [decodeField_of_unwritten unwritten]
      rfl
  | wrappedSwk read unwritten =>
      rw [read]
      simp only [decodeField_encode, decodeField_of_unwritten unwritten]
      rfl

/-- A body is a document with two written keys, or it is malformed. -/
theorem written_or_malformed (body : Bytes) :
    (∃ key swk, TransferReply.read? body =
      some ⟨some (Base64.encode key), some (Base64.encode swk)⟩) ∨
    ∃ detail, Malformed body detail := by
  cases hread : TransferReply.read? body with
  | none => exact .inr ⟨_, .unreadable hread⟩
  | some reply =>
      obtain ⟨_ | key, _ | swk⟩ := reply
      · exact .inr ⟨_, .incomplete hread (.inl rfl)⟩
      · exact .inr ⟨_, .incomplete hread (.inl rfl)⟩
      · exact .inr ⟨_, .incomplete hread (.inr rfl)⟩
      · rcases em (∃ bytes, key = Base64.encode bytes) with ⟨keyBytes, rfl⟩ | hkey
        · rcases em (∃ bytes, swk = Base64.encode bytes) with ⟨swkBytes, rfl⟩ | hswk
          · exact .inl ⟨keyBytes, swkBytes, rfl⟩
          · exact .inr ⟨_, .wrappedSwk hread (not_exists.mp hswk)⟩
        · exact .inr ⟨_, .wrappedKey hread (not_exists.mp hkey)⟩

/-- **A reply is decoded exactly.**  A body gives two byte strings if and only if it is a reply
document and its two texts are what the byte strings are written as in base64, with their padding.
A body that gives no two byte strings is a malformed response, and the wording says what is wrong
with it. -/
theorem parseReply_exact (body : Bytes) :
    (∀ key swk, parseReply body = .ok (key, swk) ↔
      TransferReply.read? body = some ⟨some (Base64.encode key), some (Base64.encode swk)⟩) ∧
    ((∃ key swk, parseReply body = .ok (key, swk)) ∨
      ∃ detail, parseReply body = .error (.malformedResponse detail) ∧ Malformed body detail) := by
  rcases written_or_malformed body with ⟨key, swk, hread⟩ | ⟨detail, hmalformed⟩
  · have hkeys := parseReply_of_written hread
    refine ⟨fun key' swk' => ⟨fun h => ?_, parseReply_of_written⟩, .inl ⟨key, swk, hkeys⟩⟩
    obtain ⟨rfl, rfl⟩ := Prod.mk.inj (Except.ok.inj (hkeys.symm.trans h))
    exact hread
  · have hfailed := parseReply_of_malformed hmalformed
    refine ⟨fun key swk => ⟨fun h => ?_, parseReply_of_written⟩, .inr ⟨detail, hfailed, hmalformed⟩⟩
    exact absurd (hfailed.symm.trans h) nofun

end AttestedModel.Broker
