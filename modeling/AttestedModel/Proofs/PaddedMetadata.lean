import AttestedModel.Proofs.RetrievalOrder

/-!
# Padded metadata

White space around a value is no part of it, and a value of white space alone is none
(`given_eq_iff`).  So metadata that differ in nothing else allow the same plan, and a
retrieval that is given the ones or the others goes on in the same way to the end
(`getInfo_of_padded_metadata`).
-/

namespace AttestedModel

namespace Text

/-- White space in front is trimmed, whatever follows it. -/
theorem trimChars_append_left {front : List Char} (hfront : ∀ c ∈ front, isBlank c)
    (cs : List Char) : trimChars (front ++ cs) = trimChars cs := by
  rw [trimChars, List.dropWhile_append_of_pos hfront]
  rfl

/-- White space at the end is trimmed, whatever comes before it. -/
theorem trimChars_append_right {back : List Char} (hback : ∀ c ∈ back, isBlank c)
    (cs : List Char) : trimChars (cs ++ back) = trimChars cs := by
  have hnothing : back.dropWhile isBlank = [] := List.dropWhile_eq_nil_iff.mpr hback
  have hreverse : ∀ c ∈ back.reverse, isBlank c := fun c hc => hback c (List.mem_reverse.mp hc)
  unfold trimChars
  rw [List.dropWhile_append]
  split
  · rename_i hempty
    rw [hnothing, List.isEmpty_iff.mp hempty]
  · rw [List.reverse_append, List.dropWhile_append_of_pos hreverse]

theorem forall_isBlank_of_blank {text : String} (h : blank text) : ∀ c ∈ text.toList, isBlank c :=
  List.all_eq_true.mp h

/-- White space around a text is trimmed, as the white space of the text itself. -/
theorem trim_padded {front back : String} (hfront : blank front) (hback : blank back)
    (core : String) : trim (front ++ core ++ back) = trim core := by
  rw [trim, trim, String.toList_append, String.toList_append,
    trimChars_append_right (forall_isBlank_of_blank hback),
    trimChars_append_left (forall_isBlank_of_blank hfront)]

/-- A text is what is left of it when it is trimmed, with white space around it. -/
theorem exists_padding (text : String) :
    ∃ front back, blank front ∧ blank back ∧ text = front ++ trim text ++ back := by
  let rest := text.toList.dropWhile isBlank
  refine ⟨.ofList (text.toList.takeWhile isBlank),
    .ofList (rest.reverse.takeWhile isBlank).reverse, ?_, ?_, ?_⟩
  · simp [blank]
  · simp [blank]
  · have hrest : rest = (rest.reverse.dropWhile isBlank).reverse ++
        (rest.reverse.takeWhile isBlank).reverse := by
      rw [← List.reverse_append, List.takeWhile_append_dropWhile, List.reverse_reverse]
    refine String.toList_inj.mp ?_
    simp only [String.toList_append, String.toList_ofList, trim, trimChars]
    rw [List.append_assoc, ← hrest, List.takeWhile_append_dropWhile]

/-- Nothing is left of a text exactly if it is white space. -/
theorem trim_eq_empty_iff {text : String} : trim text = "" ↔ blank text := by
  constructor
  · intro h
    obtain ⟨front, back, hfront, hback, htext⟩ := exists_padding text
    rw [h, String.append_empty] at htext
    rw [htext, blank, String.toList_append, List.all_append, Bool.and_eq_true]
    exact ⟨hfront, hback⟩
  · intro h
    have hnothing := trimChars_append_left (forall_isBlank_of_blank h) []
    rw [List.append_nil] at hnothing
    rw [trim, hnothing]
    rfl

end Text

namespace Model

open AttestedModel.Action

/-- Two values of a field that only white space tells apart: around a text, or as a text where
the other value is none. -/
inductive SameValue : Option String → Option String → Prop
  | absent : SameValue none none
  | padded {front back front' back' : String} (core : String)
      (hfront : Text.blank front) (hback : Text.blank back)
      (hfront' : Text.blank front') (hback' : Text.blank back') :
      SameValue (some (front ++ core ++ back)) (some (front' ++ core ++ back'))
  | blank_here {text : String} (h : Text.blank text) : SameValue (some text) none
  | blank_there {text : String} (h : Text.blank text) : SameValue none (some text)

/-- A text counts as given unless it is white space. -/
theorem given_eq_none_iff {text : String} : given (some text) = none ↔ Text.blank text := by
  simp [given, Text.trim_eq_empty_iff]

/-- What is given of a text is what is left of it, if anything is. -/
theorem getD_given (text : String) : (given (some text)).getD "" = Text.trim text := by
  by_cases h : Text.trim text = ""
  · simp [given, Option.filter_some, h]
  · simp [given, Option.filter_some, h]

/-- **Two values are taken for the same exactly if only white space tells them apart.** -/
theorem given_eq_iff {value value' : Option String} :
    given value = given value' ↔ SameValue value value' := by
  constructor
  · intro h
    cases value with
    | none =>
        cases value' with
        | none => exact .absent
        | some text => exact .blank_there (given_eq_none_iff.mp h.symm)
    | some text =>
        cases value' with
        | none => exact .blank_here (given_eq_none_iff.mp h)
        | some text' =>
            have htrim : Text.trim text = Text.trim text' := by
              rw [← getD_given, ← getD_given, h]
            obtain ⟨front, back, hfront, hback, htext⟩ := Text.exists_padding text
            obtain ⟨front', back', hfront', hback', htext'⟩ := Text.exists_padding text'
            rw [htext, htext', ← htrim]
            exact .padded _ hfront hback hfront' hback'
  · intro h
    cases h with
    | absent => rfl
    | padded core hfront hback hfront' hback' =>
        rw [given, given, Option.map_some, Option.map_some, Text.trim_padded hfront hback,
          Text.trim_padded hfront' hback']
    | blank_here h => exact given_eq_none_iff.mpr h
    | blank_there h => exact (given_eq_none_iff.mpr h).symm

/-- Metadata of which only white space at the ends of five fields tells one from the other. -/
structure Metadata.Padded (m m' : Metadata) : Prop where
  id : SameValue m.id m'.id
  url : SameValue m.url m'.url
  kbs : SameValue m.kbs m'.kbs
  kbsUrl : SameValue m.kbsUrl m'.kbsUrl
  keyId : SameValue m.keyId m'.keyId
  /-- Every other field is the same. -/
  others : m' = { m with
    id := m'.id, url := m'.url, kbs := m'.kbs, kbsUrl := m'.kbsUrl, keyId := m'.keyId }

/-- Metadata that only padding tells apart allow the same plan, or are refused for the same reason.
-/
theorem Metadata.Padded.plan_eq {m m' : Metadata} (h : m.Padded m') :
    Plan.ofMetadata m = Plan.ofMetadata m' := by
  have hlocation : KeyLocation.ofMetadata m = KeyLocation.ofMetadata m' := by
    unfold KeyLocation.ofMetadata required
    rw [given_eq_iff.mpr h.kbs, given_eq_iff.mpr h.kbsUrl, given_eq_iff.mpr h.keyId]
  have hencrypted : m.encrypted = m'.encrypted := (congrArg Metadata.encrypted h.others).symm
  have hdetails : Details.ofMetadata m = Details.ofMetadata m' :=
    (congrArg Details.ofMetadata h.others).symm
  unfold Plan.ofMetadata
  rw [given_eq_iff.mpr h.id, given_eq_iff.mpr h.url, hlocation, hencrypted, hdetails]

variable {σ : Type} {env env' : Environment σ}

/-- A document is fetched in the same way where its request is answered in the same way. -/
theorem fetch_congr {url : String} {headers : List (String × String)}
    (h : Http.send env'.fetch (document url headers) = Http.send env.fetch (document url headers)) :
    fetch env' url headers = fetch env url headers := by
  unfold document at h
  funext refused
  unfold fetch
  dsimp only
  rw [h]

/-- **Padding is invisible, and a blank value is none.**  Let the metadata servers of two runs give
metadata of which only white space at the ends of the values tells the ones from the others, or a
value of white space from none.  Let all else be the same from there on: what the model's address
is answered with, the key broker and the evidence, the faults of the disk, and the session.  Then
both runs are the same to the end: they have the same result, and leave the same files, the same
retrieved model, the same requests and the same world, whatever it has seen of them. -/
theorem getInfo_of_padded_metadata (provider : Provider) (limit : Option Duration)
    {s s' t : Session σ} {m m' : Metadata} (hmetadata : Describes env provider s m t)
    (hmetadata' : Describes env' provider s' m' t) (hpadded : m.Padded m')
    (hmodel : ∀ address, given m.url = some address →
      Http.send env'.fetch (document address []) = Http.send env.fetch (document address []))
    (hpeers : env'.peers = env.peers) (hfaults : env'.faults = env.faults) :
    provider.getInfo env' limit s' = provider.getInfo env limit s := by
  have hdownload : ∀ address, given m.url = some address →
      Provider.download env' address = Provider.download env address :=
    fun address hgiven => congrFun (fetch_congr (hmodel address hgiven)) _
  have hopen : openBody env' provider limit = openBody env provider limit := by
    funext body key
    cases key with
    | some location => simp only [openBody, decrypt, hpeers]
    | none => rfl
  have hdeliver : deliver env' provider = deliver env provider := by
    funext plan plaintext
    simp only [deliver, stage, hfaults]
  have hdone := fetchMetadata_eq_done_iff.mpr hmetadata
  have hdone' := fetchMetadata_eq_done_iff.mpr hmetadata'
  rw [getInfo_eq, getInfo_eq, bind_of_done _ hdone, bind_of_done _ hdone', ← hpadded.plan_eq]
  cases hplan : Plan.ofMetadata m with
  | error e => rfl
  | ok plan =>
      have hurl : given m.url = some plan.url := (Plan.ofMetadata_eq_ok_iff.mp hplan).2.1
      rw [bind_of_done _ (ofExcept_ok plan), bind_of_done _ (ofExcept_ok plan),
        hdownload plan.url hurl, hopen, hdeliver]

/-- The metadata of the sealed model, with white space of all kinds around their values. -/
def paddedMetadata : Metadata :=
  { sampleMetadata with
    id := some "\tm\r\n", url := some "\u3000http://h/m.enc", kbs := some "amber\u2028"
    kbsUrl := some "\u00a0http://k ", keyId := some "i\u0085" }

/-- The padded metadata differs from the other in white space alone. -/
theorem padded_sampleMetadata : sampleMetadata.Padded paddedMetadata where
  id := given_eq_iff.mp (by decide +kernel)
  url := given_eq_iff.mp (by decide +kernel)
  kbs := given_eq_iff.mp (by decide +kernel)
  kbsUrl := given_eq_iff.mp (by decide +kernel)
  keyId := given_eq_iff.mp (by decide +kernel)
  others := rfl

/-- Servers that have metadata at their address and the sealed model at every other one, whenever
they are asked. -/
def serving (m : Metadata) : Environment (List Http.Response) :=
  { granted with fetch := fun request world =>
      (.ok ⟨200, if request.url = scriptedProvider.metadataUrl then
        Text.Utf8.encode m.toJson.toCompact else sealedDocument⟩, world) }

/-- A session before everything. -/
def beforeServing : Session (List Http.Response) :=
  .start [] ⟨[(["d"], .directory)], []⟩

/-- The server describes the model by the metadata that it was given. -/
theorem describes_serving (m : Metadata) :
    Describes (serving m) scriptedProvider beforeServing m
      { beforeServing with events := [.fetched scriptedProvider.metadataRequest] } := by
  have haddress : (Http.address? scriptedProvider.metadataUrl).map Url.toText =
      some scriptedProvider.metadataUrl := by decide +kernel
  obtain ⟨url, hurl, htext⟩ := Option.map_eq_some_iff.mp haddress
  refine ⟨_, ⟨?_, rfl⟩, m.read_written⟩
  simp only [Http.send, hurl, serving, htext, if_true]

/-- The model is at an address of its own, and does not depend on the metadata. -/
theorem send_serving (m : Metadata) :
    Http.send (serving m).fetch (document "http://h/m.enc" []) =
      fun world => (.ok ⟨200, sealedDocument⟩, world) := by
  have haddress : (Http.address? "http://h/m.enc").map Url.toText = some "http://h/m.enc" := by
    decide +kernel
  obtain ⟨url, hurl, htext⟩ := Option.map_eq_some_iff.mp haddress
  have hother : "http://h/m.enc" ≠ scriptedProvider.metadataUrl := by decide +kernel
  funext world
  simp only [Http.send, document, hurl, serving, htext, hother, if_false]

/-- A retrieval of the sealed model does not notice the white space. -/
theorem getInfo_of_padded_sample :
    sampleMetadata.Padded paddedMetadata ∧
      scriptedProvider.getInfo (serving paddedMetadata) none beforeServing =
        scriptedProvider.getInfo (serving sampleMetadata) none beforeServing := by
  refine ⟨padded_sampleMetadata, getInfo_of_padded_metadata scriptedProvider none
    (describes_serving sampleMetadata) (describes_serving paddedMetadata) padded_sampleMetadata
    (fun address hgiven => ?_) rfl rfl⟩
  obtain rfl := Option.some.inj (complete_sampleMetadata.url_given.symm.trans hgiven)
  rw [send_serving, send_serving]

end Model

end AttestedModel
