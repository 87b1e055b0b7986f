import AttestedModel.Model.Info
import AttestedModel.Proofs.EvidenceDocuments
import AttestedModel.Proofs.KeyExchange

/-!
# Records come back from their texts

A record is written as a document and the document as a text; both steps lose
nothing.  What is asked of a kind of record is that its documents are writable and
read as the record (`Represents`); that it comes back from either text, that no two
records have one text, and that reading what was written changes nothing any more,
all follow from that (`Represents.lossless`).

The main statement is that this holds of all records that are sent, served or
reported (`records_lossless`).
-/

namespace AttestedModel

/-- The documents of the records of a kind are writable, and read as the records. -/
structure Represents {α : Type} (write : α → Json) (read : Json → Option α) (kind : α → Prop) :
    Prop where
  writable : ∀ a, kind a → (write a).Writable
  read_eq : ∀ a, kind a → read (write a) = some a

/-- Texts from which the records of a kind come back. -/
structure Lossless {α : Type} (text : α → String) (read : Json → Option α) (kind : α → Prop) :
    Prop where
  /-- A record is read back from its text. -/
  read_written : ∀ a, kind a →
    (Json.parse (Text.Utf8.encode (text a))).bind read = some a
  /-- No two records have one text. -/
  injective : ∀ a b, kind a → kind b → text a = text b → a = b
  /-- What reads as a record reads as the same after it has been written again. -/
  stable : ∀ bytes a, kind a → (Json.parse bytes).bind read = some a →
    (Json.parse (Text.Utf8.encode (text a))).bind read = (Json.parse bytes).bind read

section Represents

variable {α : Type} {write : α → Json} {read : Json → Option α} {kind : α → Prop}

/-- Where every writable document comes back from its text, so do the records. -/
theorem Represents.lossless (h : Represents write read kind) {text : Json → String}
    (htext : ∀ document, document.Writable →
      Json.parse (Text.Utf8.encode (text document)) = some document) :
    Lossless (fun a => text (write a)) read kind := by
  have hread : ∀ a, kind a →
      (Json.parse (Text.Utf8.encode (text (write a)))).bind read = some a := by
    intro a ha
    rw [htext _ (h.writable a ha), Option.bind_some, h.read_eq a ha]
  refine ⟨hread, ?_, ?_⟩
  · intro a b ha hb hsame
    have hboth : some a = some b := by
      rw [← hread a ha, hsame, hread b hb]
    exact Option.some.inj hboth
  · intro bytes a ha hbytes
    rw [hread a ha, hbytes]

end Represents

namespace Model

open Json (writable_ofOptionalText optionalText?_ofOptionalText)

/-- Metadata is represented by its document. -/
theorem represents_metadata : Represents Metadata.toJson Metadata.ofJson? fun _ => True where
  writable m _ := by
    refine Json.writable_record fun member hmember => ?_
    simp only [List.mem_cons, List.not_mem_nil, or_false] at hmember
    rcases hmember with rfl | rfl | rfl | rfl | rfl | rfl | rfl | rfl | rfl | rfl | rfl
    case inr.inr.inr.inr.inr.inr.inr.inl => exact .bool m.encrypted
    all_goals exact writable_ofOptionalText _
  read_eq m _ := by
    have hfields : m.toJson.fields? Metadata.fields = some [.ofOptionalText m.id,
        .ofOptionalText m.url, .ofOptionalText m.name, .ofOptionalText m.version,
        .ofOptionalText m.framework, .ofOptionalText m.target, .ofOptionalText m.dtype,
        .bool m.encrypted, .ofOptionalText m.kbs, .ofOptionalText m.kbsUrl,
        .ofOptionalText m.keyId] :=
      Json.fields?_record rfl (by decide)
    simp only [Metadata.ofJson?, hfields, Option.bind_eq_bind, Option.bind_some,
      optionalText?_ofOptionalText]
    rfl

/-- Details are represented by their document. -/
theorem represents_details : Represents Details.toJson Details.ofJson? fun _ => True where
  writable d _ := by
    refine Json.writable_record fun member hmember => ?_
    simp only [List.mem_cons, List.not_mem_nil, or_false] at hmember
    rcases hmember with rfl | rfl | rfl | rfl | rfl
    all_goals exact writable_ofOptionalText _
  read_eq d _ := by
    have hfields : d.toJson.fields? Details.fields = some [.ofOptionalText d.name,
        .ofOptionalText d.version, .ofOptionalText d.framework, .ofOptionalText d.target,
        .ofOptionalText d.dtype] :=
      Json.fields?_record rfl (by decide)
    simp only [Details.ofJson?, hfields, Option.bind_eq_bind, Option.bind_some,
      optionalText?_ofOptionalText]
    rfl

/-- The numeral of zero is `0.0`. -/
theorem writable_ofReal_zero : Json.Writable (Json.ofReal .zero) :=
  .number {
    whole_digits := by decide
    whole_ne_nil := by decide
    no_zero_in_front := fun _ => rfl
    fraction_digits := by decide
    exponent_digits := nofun
    exponent_ne_nil := nofun }

/-- Metrics that are all zero are represented by their document. -/
theorem represents_metrics :
    Represents Metrics.toJson Metrics.ofJson? fun metrics => metrics = .zero where
  writable metrics hzero := by
    subst hzero
    refine Json.writable_record fun member hmember => ?_
    simp only [List.mem_cons, List.not_mem_nil, or_false] at hmember
    rcases hmember with rfl | rfl | rfl | rfl | rfl
    all_goals exact writable_ofReal_zero
  read_eq metrics hzero := by
    subst hzero
    have hfields : Metrics.zero.toJson.fields? Metrics.fields = some [.ofReal .zero,
        .ofReal .zero, .ofReal .zero, .ofReal .zero, .ofReal .zero] :=
      Json.fields?_record rfl (by decide)
    have hzero : (Json.ofReal .zero).real? = some .zero := by decide
    simp only [Metrics.ofJson?, hfields, Option.bind_eq_bind, Option.bind_some, hzero]
    rfl

/-- A report is represented by its document if its metrics are zero. -/
theorem represents_info :
    Represents Info.toJson Info.ofJson? fun info => info.metrics = .zero where
  writable info hzero := by
    refine Json.writable_record fun member hmember => ?_
    simp only [List.mem_cons, List.not_mem_nil, or_false] at hmember
    rcases hmember with rfl | rfl | rfl | rfl | rfl
    · exact .string info.id
    · exact .string info.path
    · exact represents_details.writable info.details trivial
    · exact Json.writable_ofNat info.uploadedDate.toNat
    · exact represents_metrics.writable info.metrics hzero
  read_eq info hzero := by
    have hfields : info.toJson.fields? Info.fields = some [.ofText info.id, .ofText info.path,
        info.details.toJson, .ofNat info.uploadedDate.toNat, info.metrics.toJson] :=
      Json.fields?_record rfl (by decide)
    have hdate : (Json.ofNat info.uploadedDate.toNat).natBelow? (Nat.pow 2 64) =
        some info.uploadedDate.toNat :=
      Json.natBelow?_ofNat info.uploadedDate.toNat_lt
    have hdetails := represents_details.read_eq info.details trivial
    have hmetrics := represents_metrics.read_eq info.metrics hzero
    simp only [Info.ofJson?, hfields, Option.bind_eq_bind, Option.bind_some, hdetails, hdate,
      hmetrics, UInt64.ofNat_toNat]
    rfl

end Model

/-- **Records come back from their texts.**  The requests and replies of a key transfer, the
metadata and the details of a model, and mock evidence come back from their texts on one line, with
whatever texts, bytes and numbers they hold; and so does the information about a model that nobody
has measured, both from its text on one line and from the one over many lines. -/
theorem records_lossless :
    Lossless (fun r : Broker.TransferRequest => r.toJson.toCompact)
        Broker.TransferRequest.ofJson? (fun _ => True) ∧
      Lossless (fun r : Broker.TransferReply => r.toJson.toCompact)
        Broker.TransferReply.ofJson? (fun _ => True) ∧
      Lossless (fun m : Model.Metadata => m.toJson.toCompact) Model.Metadata.ofJson?
        (fun _ => True) ∧
      Lossless (fun d : Model.Details => d.toJson.toCompact) Model.Details.ofJson?
        (fun _ => True) ∧
      Lossless (fun d : Evidence.MockDocument => d.toJson.toCompact)
        Evidence.MockDocument.ofJson? (fun _ => True) ∧
      Lossless (fun i : Model.Info => i.toJson.toCompact) Model.Info.ofJson?
        (fun i => i.metrics = .zero) ∧
      Lossless (fun i : Model.Info => i.toJson.toPretty) Model.Info.ofJson?
        (fun i => i.metrics = .zero) := by
  have hrequest : Represents Broker.TransferRequest.toJson Broker.TransferRequest.ofJson?
      fun _ => True :=
    ⟨fun r _ => r.writable_toJson, fun r _ => r.ofJson?_toJson⟩
  have hreply : Represents Broker.TransferReply.toJson Broker.TransferReply.ofJson?
      fun _ => True :=
    ⟨fun r _ => r.writable_toJson, fun r _ => r.ofJson?_toJson⟩
  have hmock : Represents Evidence.MockDocument.toJson Evidence.MockDocument.ofJson?
      fun _ => True :=
    ⟨fun d _ => d.writable_toJson, fun d _ => d.ofJson?_toJson⟩
  have hcompact : ∀ document, document.Writable →
      Json.parse (Text.Utf8.encode document.toCompact) = some document :=
    fun _ h => Json.parse_toCompact h
  have hpretty : ∀ document, document.Writable →
      Json.parse (Text.Utf8.encode document.toPretty) = some document :=
    fun _ h => Json.parse_toPretty h
  exact ⟨hrequest.lossless hcompact, hreply.lossless hcompact,
    Model.represents_metadata.lossless hcompact, Model.represents_details.lossless hcompact,
    hmock.lossless hcompact, Model.represents_info.lossless hcompact,
    Model.represents_info.lossless hpretty⟩

end AttestedModel
