import AttestedModel.Proofs.Addresses
import AttestedModel.Proofs.RetrievalOrder
import AttestedModel.Proofs.StagedFiles

/-!
# Staged files stay in their directory

The address of a model is text from elsewhere.  Its last segment, without the ending of
encrypted models, gives a name exactly if it names a file of its own
(`fileName_eq_ok_iff`), and a retrieval stages nothing but such names, in the model directory
(`getInfo_staysInside`).  So no address leads a file out of it
(`files_stay_in_model_directory`).
-/

namespace AttestedModel.Model

open AttestedModel.Action

/-- A name that only a file right in a directory has, and that is written in visible characters. -/
structure IsFileName (name : String) : Prop extends Path.IsEntryName name where
  /-- No control character, and nothing past ASCII. -/
  visible : ∀ c ∈ name.toList, 0x20 < c.toNat ∧ c.toNat < 0x7f
  no_space : ∀ c ∈ name.toList, ¬Text.isBlank c

/-- Nothing that stands in a path is white space. -/
theorem not_isBlank_of_isPathChar {c : Char} (h : Url.isPathChar c) : ¬Text.isBlank c := by
  simp only [Url.isPathChar, Bool.and_eq_true, decide_eq_true_eq] at h
  simp only [Text.isBlank, Bool.or_eq_true, Bool.and_eq_true, decide_eq_true_eq]
  omega

/-- A text without white space is as it is when it is trimmed. -/
theorem trimChars_of_no_space {cs : List Char} (h : ∀ c ∈ cs, ¬Text.isBlank c) :
    Text.trimChars cs = cs := by
  have hdrop : ∀ {ds : List Char}, (∀ c ∈ ds, ¬Text.isBlank c) → ds.dropWhile Text.isBlank = ds := by
    intro ds hds
    cases ds with
    | nil => rfl
    | cons d ds => exact List.dropWhile_cons_of_neg (hds d List.mem_cons_self)
  have hback : ∀ c ∈ cs.reverse, ¬Text.isBlank c := fun c hc => h c (List.mem_reverse.mp hc)
  rw [Text.trimChars, hdrop h, hdrop hback, List.reverse_reverse]

/-- What is left of a segment: all before the ending, or all of it if there is no ending. -/
theorem dropEnding_eq_iff {segment left : List Char} :
    dropEnding segment = left ↔ segment = left ++ encryptedEnding ∨
      segment = left ∧ ¬encryptedEnding <:+ left := by
  have hfront : ∀ front : List Char, dropEnding (front ++ encryptedEnding) = front := by
    intro front
    rw [dropEnding, if_pos (List.isSuffixOf_iff_suffix.mpr (List.suffix_append ..))]
    simp
  constructor
  · intro hleft
    by_cases hending : encryptedEnding <:+ segment
    · obtain ⟨front, rfl⟩ := hending
      rw [hfront] at hleft
      exact .inl (hleft ▸ rfl)
    · rw [dropEnding, if_neg (mt List.isSuffixOf_iff_suffix.mp hending)] at hleft
      exact .inr ⟨hleft, hleft ▸ hending⟩
  · intro hsegment
    rcases hsegment with rfl | ⟨rfl, hending⟩
    · exact hfront left
    · rw [dropEnding, if_neg (mt List.isSuffixOf_iff_suffix.mp hending)]

/-- What is left without the ending was there before. -/
theorem dropEnding_subset (segment : List Char) : dropEnding segment ⊆ segment := by
  intro c hc
  rcases dropEnding_eq_iff.mp (Eq.refl (dropEnding segment)) with hsegment | ⟨hsegment, -⟩
  · rw [hsegment]
    exact List.mem_append_left _ hc
  · rw [hsegment]
    exact hc

/-- A clean segment gives the name that is left of it, unless that is no name. -/
theorem fileNameOfSegment?_eq_some_iff {segment : List Char} {name : String}
    (hclean : Url.Clean segment) :
    fileNameOfSegment? segment = some name ↔
      dropEnding segment = name.toList ∧ name ≠ "" ∧ name ≠ "." ∧ name ≠ ".." := by
  have htrim : Text.trimChars (dropEnding segment) = dropEnding segment :=
    trimChars_of_no_space fun c hc =>
      not_isBlank_of_isPathChar (hclean c (dropEnding_subset segment hc))
  rw [fileNameOfSegment?, htrim]
  constructor
  · intro h
    split at h
    · exact absurd h nofun
    · rename_i hname
      obtain rfl := Option.some.inj h
      exact ⟨String.toList_ofList.symm, not_or.mp hname |>.imp_right not_or.mp⟩
  · intro h
    obtain ⟨hleft, hempty, hdot, hdots⟩ := h
    rw [hleft, String.ofList_toList, if_neg (by simp [hempty, hdot, hdots])]

/-- What is left of a clean segment is the name of a file, if it is a name at all. -/
theorem isFileName_of_segment {segment : List Char} {name : String} (hclean : Url.Clean segment)
    (hleft : dropEnding segment = name.toList) (hempty : name ≠ "") (hdot : name ≠ ".")
    (hdots : name ≠ "..") : IsFileName name := by
  have hchar : ∀ c ∈ name.toList, Url.isPathChar c := fun c hc =>
    hclean c (dropEnding_subset segment (hleft ▸ hc))
  refine ⟨⟨hempty, hdot, hdots, fun hslash => absurd (hchar '/' hslash) (by decide)⟩, ?_, ?_⟩
  · intro c hc
    have hc := hchar c hc
    simp only [Url.isPathChar, Bool.and_eq_true, decide_eq_true_eq] at hc
    exact hc.1
  · exact fun c hc => not_isBlank_of_isPathChar (hchar c hc)

/-- An address gives the name that its last segment gives. -/
theorem fileName_eq_ok_iff_segment {text name : String} :
    fileName text = .ok name ↔ ∃ url segment, Url.parse text = .ok url ∧
      url.segments.getLast? = some segment ∧ fileNameOfSegment? segment = some name := by
  have hnothing : fileNameOfSegment? [] = none := by decide
  unfold fileName
  cases Url.parse text with
  | error fault => simp
  | ok url =>
      cases hlast : url.segments.getLast? with
      | none => simp [hlast, hnothing]
      | some segment => cases hname : fileNameOfSegment? segment <;> simp [hlast, hname]

/-- The last segment of an address is clean, and the last piece of its path between slashes. -/
theorem clean_of_getLast? {text : String} {url : Url} {segment : List Char}
    (hparse : Url.parse text = .ok url) (hlast : url.segments.getLast? = some segment) :
    Url.Clean segment ∧ (Text.pieces (· = '/') url.route.chars).getLast? = some segment := by
  have hroute := Url.clean_parse hparse
  unfold Url.segments at hlast
  split at hlast
  · rename_i list hlist
    have hclean := hroute list hlist
    rw [hlist, Url.pieces_chars hclean, List.getLast?_cons, hlast]
    exact ⟨hclean segment (List.mem_of_getLast? hlast), rfl⟩
  · exact absurd hlast nofun

/-- **The name of a model's file** is the last segment of its address without the ending of
encrypted models, wherever that is the name of a file. -/
theorem fileName_eq_ok_iff {text name : String} :
    fileName text = .ok name ↔ IsFileName name ∧ ∃ url, Url.parse text = .ok url ∧
      url.segments ≠ [] ∧
        ((Text.pieces (· = '/') url.route.chars).getLast? = some (name.toList ++ encryptedEnding) ∨
          (Text.pieces (· = '/') url.route.chars).getLast? = some name.toList ∧
            ¬encryptedEnding <:+ name.toList) := by
  rw [fileName_eq_ok_iff_segment]
  constructor
  · intro h
    obtain ⟨url, segment, hparse, hlast, hname⟩ := h
    obtain ⟨hclean, hpiece⟩ := clean_of_getLast? hparse hlast
    obtain ⟨hleft, hempty, hdot, hdots⟩ := (fileNameOfSegment?_eq_some_iff hclean).mp hname
    refine ⟨isFileName_of_segment hclean hleft hempty hdot hdots, url, hparse, ?_, ?_⟩
    · exact fun hnone => by simp [hnone] at hlast
    · rw [hpiece, Option.some.injEq, Option.some.injEq]
      exact dropEnding_eq_iff.mp hleft
  · intro h
    obtain ⟨hname, url, hparse, hsegments, hpiece⟩ := h
    obtain ⟨segment, hlast⟩ := Option.ne_none_iff_exists'.mp (mt List.getLast?_eq_none_iff.mp hsegments)
    obtain ⟨hclean, hpiece'⟩ := clean_of_getLast? hparse hlast
    rw [hpiece', Option.some.injEq, Option.some.injEq] at hpiece
    exact ⟨url, segment, hparse, hlast, (fileNameOfSegment?_eq_some_iff hclean).mpr
      ⟨dropEnding_eq_iff.mpr hpiece, hname.ne_empty, hname.ne_dot, hname.ne_dots⟩⟩

/-- An address that gives no name is refused as metadata that are not valid. -/
theorem fileName_eq_error {text : String} {e : LoadError} (h : fileName text = .error e) :
    ∃ reason, e = .validation reason := by
  unfold fileName at h
  split at h
  · exact ⟨_, (Except.error.inj h).symm⟩
  · split at h
    · exact absurd h nofun
    · exact ⟨_, (Except.error.inj h).symm⟩

variable {σ : Type}

/-- Nothing but an entry of the model directory is staged from one session to the next. -/
structure StaysInside (provider : Provider) (s t : Session σ) : Prop where
  /-- Whatever was tried to be staged has a name of its own in the model directory. -/
  staged : ∀ directory name, .staged directory name ∈ s.since t →
    directory = provider.modelDir ∧ IsFileName name
  /-- The disk is as it was, or one entry of the model directory is another one. -/
  bound : t.disk = s.disk ∨ ∃ here name data,
    s.disk.directory (.ofText provider.modelDir) = .ok here ∧ IsFileName name ∧
      s.disk.Binds (here ++ [name]) data t.disk

/-- The disk after a delivery is the one after its staging. -/
theorem disk_deliver (env : Environment σ) (provider : Provider) (plan : Plan) (plaintext : Bytes)
    (s : Session σ) :
    (deliver env provider plan plaintext s).2.disk =
      (Staging.stage s.disk provider.modelDir plan.fileName plaintext (env.faults s.world).1).disk := by
  have hstage : (stage env provider.modelDir plan.fileName plaintext s).2.disk =
      (Staging.stage s.disk provider.modelDir plan.fileName plaintext
        (env.faults s.world).1).disk := by
    unfold stage
    rw [note_bind, ask_bind]
    exact congrArg Session.disk (ofExcept_snd _ _)
  rcases bind_ends (stage env provider.modelDir plan.fileName plaintext) _ s with
    hend | ⟨path, u, hdone, hrest⟩
  · exact (congrArg Session.disk hend).trans hstage
  · rw [hdone] at hstage
    exact (congrArg (fun run => run.2.disk) hrest).trans hstage

/-- **No retrieval writes anywhere but directly in the model directory**, however it ends. -/
theorem getInfo_staysInside (env : Environment σ) (provider : Provider) (limit : Option Duration)
    (s : Session σ) : StaysInside provider s (provider.getInfo env limit s).2 := by
  have hprogress := getInfo_progress env provider limit s
  cases hprogress.touchesDiskLast with
  | untouched hdisk _ hevents =>
      exact ⟨fun directory name hstaged => absurd hstaged (hevents directory name), .inl hdisk⟩
  | @staged m _ plan _ _ plaintext u _ hplan _ _ _ hdisk hbefore hevents hrun =>
      obtain ⟨-, -, hfileName, -, -⟩ := Plan.ofMetadata_eq_ok_iff.mp hplan
      have hname := (fileName_eq_ok_iff.mp hfileName).1
      constructor
      · intro directory name hstaged
        rw [hevents] at hstaged
        rcases List.mem_append.mp hstaged with hstaged | hstaged
        · exact absurd hstaged (hbefore directory name)
        · obtain ⟨rfl, rfl⟩ := Event.staged.inj (List.mem_singleton.mp hstaged)
          exact ⟨rfl, hname⟩
      · rw [hrun, disk_deliver, hdisk]
        obtain ⟨here, hclear, -, hbinds⟩ | ⟨-, -, hsame⟩ := Staging.placed_or_refused s.disk
          provider.modelDir plan.fileName plaintext (env.faults u.world).1 hname.toIsEntryName
        · exact .inr ⟨here, plan.fileName, plaintext, hclear.leads, hname, hbinds⟩
        · exact .inl hsame

/-- **No address leads out of the model directory.**  An address gives a name exactly if the last
piece of its path between slashes is, without the ending of encrypted models, an entry name of
visible characters, and it gives that; every other address is refused.  Whatever a retrieval meets
with, it stages files of such names in the model directory only, and leaves every other location
as it was. -/
theorem files_stay_in_model_directory :
    (∀ text name, fileName text = .ok name ↔ IsFileName name ∧ ∃ url, Url.parse text = .ok url ∧
      url.segments ≠ [] ∧
        ((Text.pieces (· = '/') url.route.chars).getLast? = some (name.toList ++ encryptedEnding) ∨
          (Text.pieces (· = '/') url.route.chars).getLast? = some name.toList ∧
            ¬encryptedEnding <:+ name.toList)) ∧
    (∀ text e, fileName text = .error e → ∃ reason, e = .validation reason) ∧
    (∀ (σ : Type) (env : Environment σ) (provider : Provider) (limit : Option Duration)
      (s : Session σ), StaysInside provider s (provider.getInfo env limit s).2) :=
  ⟨fun _ _ => fileName_eq_ok_iff, fun _ _ h => fileName_eq_error h,
    fun _ env provider limit s => getInfo_staysInside env provider limit s⟩

/-- An address that climbs with backslashes and escaped dots, and whose query looks like a path,
gives a name all the same. -/
theorem isFileName_of_climbing_address :
    fileName "http://h/a\\..\\%2e%2e/m.pb.enc?x=/../y" = .ok "m.pb" ∧ IsFileName "m.pb" := by
  have hname : fileName "http://h/a\\..\\%2e%2e/m.pb.enc?x=/../y" = .ok "m.pb" :=
    eq_ok_of_toOption (by decide +kernel)
  exact ⟨hname, ((files_stay_in_model_directory.1 _ _).mp hname).1⟩

end AttestedModel.Model
