import AttestedModel.Proofs.JsonSoundness
import AttestedModel.Proofs.WireRecords

/-!
# What a server may add or reorder

A record is read from the values that the members of an object give to its fields.
So the order of the members does not matter, members of other names do not, and a
field that may be left out may be null as well: `Change` is one such change, and objects
are `Alike` if a number of them leads from one to the other.  How the texts are spaced
does not matter either, because texts of one document are read alike.

What is asked of a kind of record is that reading one takes nothing from an object but the
values of its fields, which are distinct (`ReadsFields`).  Everything else follows from that once,
for all kinds (`ReadsFields.tolerant`); a field that is there twice is always refused.
-/

namespace AttestedModel.Json

/-- The members of an object, in the order in which they are written. -/
abbrev Members := List (Option String × Json)

variable {fields : List Field} {field : Field} {members members' : Members}

/-- One change to the members of an object that does not matter to a record of these fields.  What
is put in front may be moved elsewhere by another change. -/
inductive Change (fields : List Field) : Members → Members → Prop
  | order {members members' : Members} (perm : members.Perm members') : Change fields members members'
  | foreign {name : String} (unknown : name ∉ fields.map Field.name) (value : Json)
      (members : Members) : Change fields members ((some name, value) :: members)
  | null {field : Field} (known : field ∈ fields) (optional : field.inObject = some .null)
      {members : Members} (absent : ∀ member ∈ members, member.1 ≠ some field.name) :
      Change fields members ((some field.name, .null) :: members)

/-- Members that changes which do not matter lead from one to the other, in either direction. -/
def Alike (fields : List Field) : Members → Members → Prop :=
  Relation.EqvGen (Change fields)

/-- A member with the name of a field occurs twice. -/
def Twice (field : Field) (members : Members) : Prop :=
  2 ≤ (members.filter (·.1 = some field.name)).length

/-- The value that members give to a field. -/
def valueOf (members : Members) (field : Field) : Option Json :=
  match members.filter (·.1 = some field.name) with
  | [] => field.inObject
  | [(_, value)] => some value
  | _ => none

/-- The values of several fields are those of the first and of the rest. -/
theorem namedValues_cons (members : Members) (field : Field) (fields : List Field) :
    namedValues members (field :: fields) =
      (valueOf members field).bind fun value => (namedValues members fields).map (value :: ·) := by
  have hfirst : namedValues members (field :: fields) =
      valueOf members field >>= fun value => namedValues members fields >>= fun values =>
        pure (value :: values) := List.mapM_cons
  rw [hfirst, Option.bind_eq_bind]
  refine congrArg _ (funext fun value => ?_)
  cases namedValues members fields <;> rfl

/-- The values of the fields are those of each of them. -/
theorem namedValues_congr (h : ∀ field ∈ fields, valueOf members field = valueOf members' field) :
    namedValues members fields = namedValues members' fields := by
  induction fields with
  | nil => rfl
  | cons field fields ih =>
      rw [namedValues_cons, namedValues_cons, h field List.mem_cons_self,
        ih fun other hother => h other (List.mem_cons_of_mem field hother)]

/-- There are no values if one of the fields has none. -/
theorem namedValues_eq_none (hfield : field ∈ fields) (h : valueOf members field = none) :
    namedValues members fields = none := by
  induction fields with
  | nil => exact absurd hfield List.not_mem_nil
  | cons first fields ih =>
      rw [namedValues_cons]
      rcases List.mem_cons.mp hfield with rfl | hfield
      · rw [h, Option.bind_none]
      · rw [ih hfield]
        cases valueOf members first <;> rfl

/-- The order of the members does not matter to a field. -/
theorem valueOf_of_perm (h : members.Perm members') (field : Field) :
    valueOf members field = valueOf members' field := by
  have hnamed := h.filter (·.1 = some field.name)
  unfold valueOf
  generalize members.filter (·.1 = some field.name) = named at hnamed
  generalize members'.filter (·.1 = some field.name) = named' at hnamed
  have hlength := hnamed.length_eq
  -- one member in any order is the same member, and more are refused in any order
  match named, named' with
  | [], [] => rfl
  | [member], [member'] => rw [List.perm_singleton.mp hnamed]
  | _ :: _ :: _, _ :: _ :: _ => rfl

/-- A member of another name does not matter to a field. -/
theorem valueOf_cons_of_ne {member : Option String × Json} (h : member.1 ≠ some field.name)
    (members : Members) : valueOf (member :: members) field = valueOf members field := by
  unfold valueOf
  rw [List.filter_cons_of_neg (by simpa using h)]

/-- A field without a member has the value for its absence. -/
theorem valueOf_of_absent (h : ∀ member ∈ members, member.1 ≠ some field.name) :
    valueOf members field = field.inObject := by
  have hnone : members.filter (·.1 = some field.name) = [] :=
    List.filter_eq_nil_iff.mpr fun member hmember => by simpa using h member hmember
  rw [valueOf, hnone]

/-- A field with one member has its value. -/
theorem valueOf_cons_of_absent (h : ∀ member ∈ members, member.1 ≠ some field.name) (value : Json) :
    valueOf ((some field.name, value) :: members) field = some value := by
  have hnone : members.filter (·.1 = some field.name) = [] :=
    List.filter_eq_nil_iff.mpr fun member hmember => by simpa using h member hmember
  rw [valueOf, List.filter_cons_of_pos (by simp), hnone]

/-- A change that does not matter gives every field the same value. -/
theorem Change.valueOf_eq (hdistinct : (fields.map Field.name).Nodup)
    (h : Change fields members members') (hfield : field ∈ fields) :
    valueOf members field = valueOf members' field := by
  cases h with
  | order perm => exact valueOf_of_perm perm field
  | @foreign name unknown value members =>
      have hother : some name ≠ some field.name := by
        intro hname
        exact unknown (List.mem_map.mpr ⟨field, hfield, (Option.some.inj hname).symm⟩)
      rw [valueOf_cons_of_ne hother]
  | @null nullField known optional members absent =>
      by_cases hname : nullField.name = field.name
      · obtain rfl := List.inj_on_of_nodup_map hdistinct known hfield hname
        rw [valueOf_of_absent absent, valueOf_cons_of_absent absent, optional]
      · have hother : some nullField.name ≠ some field.name := fun h => hname (Option.some.inj h)
        rw [valueOf_cons_of_ne hother]

/-- A change that does not matter brings no name that is no text, and takes none away. -/
theorem Change.all_isSome_eq (h : Change fields members members') :
    members.all (·.1.isSome) = members'.all (·.1.isSome) := by
  cases h with
  | order perm => exact perm.all_eq
  | foreign unknown value members => simp
  | null known optional absent => simp

/-- Objects that are alike give the fields the same values. -/
theorem Alike.fields?_eq (hdistinct : (fields.map Field.name).Nodup)
    (h : Alike fields members members') :
    (object members).fields? fields = (object members').fields? fields := by
  induction h with
  | rel members members' change =>
      have hvalues : namedValues members fields = namedValues members' fields :=
        namedValues_congr fun field hfield => change.valueOf_eq hdistinct hfield
      simp only [fields?, change.all_isSome_eq, hvalues]
  | refl members => rfl
  | symm members members' _ ih => exact ih.symm
  | trans members between members' _ _ ih ih' => exact ih.trans ih'

/-- A field that occurs twice leaves no values. -/
theorem fields?_of_twice (hfield : field ∈ fields) (h : Twice field members) :
    (object members).fields? fields = none := by
  have hvalue : valueOf members field = none := by
    unfold Twice at h
    unfold valueOf
    generalize members.filter (·.1 = some field.name) = named at h ⊢
    match named, h with
    | _ :: _ :: _, _ => rfl
  unfold fields?
  dsimp only
  rw [namedValues_eq_none hfield hvalue, ite_self]

/-- Reading a record takes nothing from an object but the values of its fields, and those that are
written give the record. -/
structure ReadsFields {α : Type} (fields : List Field) (write : α → Json)
    (read : Json → Option α) : Prop where
  distinct : (fields.map Field.name).Nodup
  read_eq : ∀ document document', document.fields? fields = document'.fields? fields →
    read document = read document'
  read_eq_none : ∀ document, document.fields? fields = none → read document = none
  read_write : ∀ a, read (write a) = some a

/-- What a server adds to the text of a record, or reorders in it, does not matter. -/
structure Tolerant {α : Type} (fields : List Field) (write : α → Json)
    (read : Json → Option α) : Prop where
  /-- Nothing but a text of a document reads as a record. -/
  reads_texts : ∀ bs a, (parse bs).bind read = some a →
    ∃ document, DocumentText bs document ∧ read document = some a
  /-- Texts of objects that are alike are both refused, or both read as the same record. -/
  read_alike : ∀ bs bs' members members', DocumentText bs (object members) →
    DocumentText bs' (object members') → Alike fields members members' →
      (parse bs).bind read = (parse bs').bind read
  /-- A text where a field occurs twice is refused. -/
  refuses_twice : ∀ bs members, DocumentText bs (object members) →
    ∀ field ∈ fields, Twice field members → (parse bs).bind read = none
  /-- A text of an object that is like the one of a record reads as the record. -/
  reads_written : ∀ a bs members members', write a = object members →
    DocumentText bs (object members') → Alike fields members members' →
      (parse bs).bind read = some a

/-- **Records of every kind are read with tolerance** for order, space and foreign members. -/
theorem ReadsFields.tolerant {α : Type} {write : α → Json} {read : Json → Option α}
    (h : ReadsFields fields write read) : Tolerant fields write read where
  reads_texts bs a hread := by
    obtain ⟨document, hparse, hdocument⟩ := Option.bind_eq_some_iff.mp hread
    exact ⟨document, parse_eq_some_iff.mp hparse, hdocument⟩
  read_alike bs bs' members members' htext htext' halike := by
    rw [parse_of_documentText htext, parse_of_documentText htext', Option.bind_some,
      Option.bind_some]
    exact h.read_eq _ _ (halike.fields?_eq h.distinct)
  refuses_twice bs members htext field hfield htwice := by
    rw [parse_of_documentText htext, Option.bind_some]
    exact h.read_eq_none _ (fields?_of_twice hfield htwice)
  reads_written a bs members members' hwritten htext halike := by
    rw [parse_of_documentText htext, Option.bind_some, ← h.read_write a, hwritten]
    exact (h.read_eq _ _ (halike.fields?_eq h.distinct)).symm

end AttestedModel.Json

namespace AttestedModel

open Json (ReadsFields Tolerant)

/-- Metadata is read from the values of its fields. -/
theorem Model.readsFields_metadata :
    ReadsFields Metadata.fields Metadata.toJson Metadata.ofJson? where
  distinct := by decide
  read_eq document document' h := by simp only [Metadata.ofJson?, h]
  read_eq_none document h := by simp [Metadata.ofJson?, h]
  read_write m := represents_metadata.read_eq m trivial

/-- Details are read from the values of their fields. -/
theorem Model.readsFields_details : ReadsFields Details.fields Details.toJson Details.ofJson? where
  distinct := by decide
  read_eq document document' h := by simp only [Details.ofJson?, h]
  read_eq_none document h := by simp [Details.ofJson?, h]
  read_write d := represents_details.read_eq d trivial

/-- A transfer request is read from the values of its fields. -/
theorem Broker.readsFields_request :
    ReadsFields TransferRequest.fields TransferRequest.toJson TransferRequest.ofJson? where
  distinct := by decide
  read_eq document document' h := by simp only [TransferRequest.ofJson?, h]
  read_eq_none document h := by simp [TransferRequest.ofJson?, h]
  read_write r := r.ofJson?_toJson

/-- A transfer reply is read from the values of its fields. -/
theorem Broker.readsFields_reply :
    ReadsFields TransferReply.fields TransferReply.toJson TransferReply.ofJson? where
  distinct := by decide
  read_eq document document' h := by simp only [TransferReply.ofJson?, h]
  read_eq_none document h := by simp [TransferReply.ofJson?, h]
  read_write r := r.ofJson?_toJson

/-- **What a server adds or reorders does not matter.**  Whatever texts of JSON objects are read as
metadata, as details, as a request or as a reply: if members are put in another order, members of
foreign names are added or taken away, whatever their values are, a field that may be left out
is null instead, and the texts are spaced in another way, both are refused or both are read as the
same record.  Where a field occurs twice, the text is refused; and what is written of a record
reads as the record after all such changes.  Texts that are not of the grammar are refused
anyway. -/
theorem records_tolerant :
    Tolerant Model.Metadata.fields Model.Metadata.toJson Model.Metadata.ofJson? ∧
      Tolerant Model.Details.fields Model.Details.toJson Model.Details.ofJson? ∧
      Tolerant Broker.TransferRequest.fields Broker.TransferRequest.toJson
        Broker.TransferRequest.ofJson? ∧
      Tolerant Broker.TransferReply.fields Broker.TransferReply.toJson
        Broker.TransferReply.ofJson? :=
  ⟨Model.readsFields_metadata.tolerant, Model.readsFields_details.tolerant,
    Broker.readsFields_request.tolerant, Broker.readsFields_reply.tolerant⟩

/-- A reply on one line, and one over many lines with a note in it and a null for the missing key,
are read alike. -/
theorem reply_with_note_read_alike :
    let key := (some "wrapped_key", Json.string (some "a2V5"))
    let note := (some "note", Json.array [.null, .object []])
    (Json.parse (Text.Utf8.encode (Json.object [key]).toCompact)).bind
        Broker.TransferReply.ofJson? =
      (Json.parse (Text.Utf8.encode
        (Json.object [note, (some "wrapped_swk", .null), key]).toPretty)).bind
          Broker.TransferReply.ofJson? := by
  intro key note
  have hkey : (Json.object [key]).Writable := by
    refine .object ?_ ?_ <;> simp [key, Json.Writable.string]
  have hall : (Json.object [note, (some "wrapped_swk", .null), key]).Writable := by
    have hnote : (Json.array [.null, .object []]).Writable :=
      .array (by simp [Json.Writable.null, Json.Writable.object])
    refine .object ?_ ?_ <;> simp [key, note, hnote, Json.Writable.null, Json.Writable.string]
  refine records_tolerant.2.2.2.read_alike _ _ _ _ (Json.documentText_toCompact hkey)
    (Json.documentText_toPretty hall) ?_
  have hknown : Json.Field.defaulted "wrapped_swk" .null ∈ Broker.TransferReply.fields := by
    simp [Broker.TransferReply.fields]
  have hnull : Json.Change Broker.TransferReply.fields [key] [(some "wrapped_swk", .null), key] :=
    .null hknown rfl (by simp [key, Json.Field.defaulted])
  exact .trans _ _ _ (.rel _ _ hnull) (.rel _ _ (.foreign (by decide) _ _))

end AttestedModel
