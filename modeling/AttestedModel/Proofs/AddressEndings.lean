import AttestedModel.Proofs.FileNames

/-!
# What follows the path of an address

The first question mark or number sign of an address ends its path, and nothing behind
it reaches back: the segments are those of what stands before (`segmentsRead_parse_append`),
and so the file of a model has the same name whatever its address is signed or annotated
with (`fileName_of_signed_address`).
-/

namespace AttestedModel

namespace Url

/-- The segments that a text is read to.  What is no address has none. -/
def segmentsRead : Except Fault Url → List (List Char)
  | .ok url => url.segments
  | .error _ => []

/-- Steps that lead to the same segments from every value lead to them from every result. -/
theorem segmentsRead_bind {α : Type} {result : Except Fault α} {f g : α → Except Fault Url}
    (h : ∀ a, segmentsRead (f a) = segmentsRead (g a)) :
    segmentsRead (result >>= f) = segmentsRead (result >>= g) := by
  cases result with
  | error fault => rfl
  | ok a => exact h a

/-- An at sign with nothing around it comes before no segment, if the scheme is not that of
files. -/
theorem segmentsRead_of_lone_sign {kind : Kind} (scheme : List Char) (ending : Ending)
    {cs : List Char} (hkind : kind ≠ .file)
    (hsign : cutCredentials (cs.takeWhile (!kind.isSlash ·)) = (some [], [])) :
    segmentsRead (withAuthority kind scheme ending cs) = [] := by
  unfold withAuthority
  rw [hsign]
  by_cases hend : cs.dropWhile (!kind.isSlash ·) = [] ∧ ending.isNone
  · simp only [hend.1, hend.2]
    cases kind with
    | web => rfl
    | file => exact absurd rfl hkind
    | other => rfl
  · simp only [hend, not_false_eq_true, and_self, if_true]
    rfl

/-- The segments behind an authority are the same whatever follows them.  What follows decides
whether an at sign may stand alone, but then there are none. -/
theorem segmentsRead_withAuthority {kind : Kind} (scheme : List Char) (ending ending' : Ending)
    (cs : List Char) (hkind : kind ≠ .file) :
    segmentsRead (withAuthority kind scheme ending cs) =
      segmentsRead (withAuthority kind scheme ending' cs) := by
  by_cases hsign : cutCredentials (cs.takeWhile (!kind.isSlash ·)) = (some [], [])
  · rw [segmentsRead_of_lone_sign scheme ending hkind hsign,
      segmentsRead_of_lone_sign scheme ending' hkind hsign]
  generalize hcut : cutCredentials (cs.takeWhile (!kind.isSlash ·)) = cut at hsign
  obtain ⟨credentials, rest⟩ := cut
  have hguard : ∀ ending : Ending, ¬(credentials = some [] ∧ rest = [] ∧
      ¬(cs.dropWhile (!kind.isSlash ·) = [] ∧ ending.isNone)) :=
    fun _ h => hsign (by rw [h.1, h.2.1])
  unfold withAuthority
  simp only [hcut, hguard, if_false, throw_bind]
  split
  · rfl
  -- the host and the port are read in one of two ways each
  split
  all_goals
    refine segmentsRead_bind fun host => ?_
    cases (cutPort rest).2 with
    | none => rfl
    | some text => exact segmentsRead_bind fun port => rfl

/-- The segments of a file on a host are the same under every ending. -/
theorem segmentsRead_withFileHost (ending ending' : Ending) (cs : List Char) :
    segmentsRead (withFileHost ending cs) = segmentsRead (withFileHost ending' cs) := by
  unfold withFileHost
  dsimp only
  split
  · rfl
  split
  · rfl
  refine segmentsRead_bind fun host => ?_
  split
  · rfl
  · rfl

/-- The segments of a file are the same under every ending, with a host or without one. -/
theorem segmentsRead_ofFile (ending ending' : Ending) (cs : List Char) :
    segmentsRead (ofFile ending cs) = segmentsRead (ofFile ending' cs) := by
  unfold ofFile
  dsimp only
  split
  · rfl
  split
  · split
    · rfl
    split
    · exact segmentsRead_withFileHost ending ending' _
    · rfl
  · rfl

/-- The segments of an address of any other scheme are the same under every ending. -/
theorem segmentsRead_ofOther (scheme : List Char) (ending ending' : Ending) (cs : List Char) :
    segmentsRead (ofOther scheme ending cs) = segmentsRead (ofOther scheme ending' cs) := by
  unfold ofOther
  dsimp only
  split
  · exact segmentsRead_withAuthority scheme ending ending' _ nofun
  · rfl
  · rfl

/-- What stands before the query and the fragment. -/
def beforeEnding (cs : List Char) : List Char :=
  (cutAt (· = '?') (cutAt (· = '#') cs).1).1

/-- **The segments of an address are those of what stands before its query and its fragment.** -/
theorem segmentsRead_ofChars {cs ds : List Char} (h : beforeEnding cs = beforeEnding ds) :
    segmentsRead (ofChars cs) = segmentsRead (ofChars ds) := by
  unfold beforeEnding at h
  unfold ofChars
  simp only [h]
  cases scheme? (cutAt (· = '?') (cutAt (· = '#') ds).1).1 with
  | none => rfl
  | some parts =>
      obtain ⟨scheme, rest⟩ := parts
      dsimp only
      cases kindOf scheme with
      | web => exact segmentsRead_withAuthority scheme _ _ _ nofun
      | file => exact segmentsRead_ofFile _ _ rest
      | other => exact segmentsRead_ofOther scheme _ _ _

/-- A text is cut behind whatever does not stop it. -/
theorem cutAt_append {stop : Char → Bool} {front : List Char}
    (hfront : ∀ c ∈ front, stop c = false) (behind : List Char) :
    (cutAt stop (front ++ behind)).1 = front ++ (cutAt stop behind).1 := by
  have hkept : ∀ c ∈ front, (!stop c) = true := by simpa using hfront
  exact List.takeWhile_append_of_pos hkept

/-- A text without either character stands before any ending. -/
theorem beforeEnding_append {front : List Char} (hquery : '?' ∉ front) (hfragment : '#' ∉ front)
    (behind : List Char) : beforeEnding (front ++ behind) = front ++ beforeEnding behind := by
  have hnone : ∀ {stop : Char}, stop ∉ front → ∀ c ∈ front, decide (c = stop) = false :=
    fun hstop c hc => decide_eq_false fun heq => hstop (heq ▸ hc)
  rw [beforeEnding, cutAt_append (hnone hfragment), cutAt_append (hnone hquery)]
  rfl

/-- Nothing stands before an ending that comes first. -/
theorem beforeEnding_cons {mark : Char} (hmark : mark = '?' ∨ mark = '#') (behind : List Char) :
    beforeEnding (mark :: behind) = [] := by
  rcases hmark with rfl | rfl
  · rfl
  · rfl

/-- Nothing is dropped from a character on that is not of the kind. -/
theorem dropWhile_append_cons {p : Char → Bool} {c : Char} (hc : p c = false)
    (front behind : List Char) :
    (front ++ c :: behind).dropWhile p = front.dropWhile p ++ c :: behind := by
  have hstays : (c :: behind).dropWhile p = c :: behind := List.dropWhile_cons_of_neg (by simp [hc])
  rw [List.dropWhile_append]
  split
  · rename_i hempty
    rw [List.isEmpty_iff.mp hempty, hstays, List.nil_append]
  · rfl

/-- The margin in front of a text is dropped as it is without what follows, and what follows a
character that is no margin loses its own. -/
theorem dropMargins_append_cons {c : Char} (hc : isMargin c = false) (front behind : List Char) :
    dropMargins (front ++ c :: behind) =
      front.dropWhile isMargin ++ c :: (behind.reverse.dropWhile isMargin).reverse := by
  rw [dropMargins, dropWhile_append_cons hc, List.reverse_append, List.reverse_cons,
    List.append_assoc, List.singleton_append, dropWhile_append_cons hc]
  simp

/-- A text that ends in no margin loses the one in front. -/
theorem dropMargins_of_last {front : List Char}
    (hlast : ∀ c ∈ front.getLast?, isMargin c = false) :
    dropMargins front = front.dropWhile isMargin := by
  rcases List.eq_nil_or_concat front with rfl | ⟨init, c, rfl⟩
  · rfl
  · have hc : isMargin c = false := hlast c (by simp)
    rw [List.concat_eq_append, dropMargins_append_cons hc, dropWhile_append_cons hc]
    rfl

/-- **A query or a fragment leaves the segments of a text as they are**, unless white space stands
where the text ends. -/
theorem segmentsRead_parse_append {text : String} (hquery : '?' ∉ text.toList)
    (hfragment : '#' ∉ text.toList) (hlast : ∀ c ∈ text.toList.getLast?, isMargin c = false)
    {mark : Char} (hmark : mark = '?' ∨ mark = '#') (behind : String) :
    segmentsRead (parse (text ++ String.singleton mark ++ behind)) = segmentsRead (parse text) := by
  have hmargin : isMargin mark = false := by
    rcases hmark with rfl | rfl
    · rfl
    · rfl
  have hsub : text.toList.dropWhile isMargin ⊆ text.toList := (List.dropWhile_suffix _).subset
  have hbefore := beforeEnding_append (mt (@hsub _) hquery) (mt (@hsub _) hfragment)
  refine segmentsRead_ofChars ?_
  have htext : (text ++ String.singleton mark ++ behind).toList =
      text.toList ++ mark :: behind.toList := by
    simp
  have hnothing : beforeEnding [] = [] := rfl
  rw [htext, dropMargins_append_cons hmargin, dropMargins_of_last hlast, hbefore,
    beforeEnding_cons hmark, List.append_nil]
  simpa [hnothing] using (hbefore []).symm

end Url

namespace Model

/-- A text gives the name that the last of its segments gives. -/
theorem fileName_eq_ok_iff_read {text name : String} :
    fileName text = .ok name ↔ ∃ segment,
      (Url.segmentsRead (Url.parse text)).getLast? = some segment ∧
        fileNameOfSegment? segment = some name := by
  rw [fileName_eq_ok_iff_segment]
  cases Url.parse text with
  | error fault => simp [Url.segmentsRead]
  | ok url => simp [Url.segmentsRead]

/-- **What an address is signed or annotated with does not count for its file name.**  Let an
address hold neither a question mark nor a number sign, and end in no space or control character.
Then it gives a file name, and with a query or a fragment of any text behind it the same one; or
all three are refused as metadata that are not valid. -/
theorem fileName_of_signed_address {address : String} (hquery : '?' ∉ address.toList)
    (hfragment : '#' ∉ address.toList)
    (hlast : ∀ c ∈ address.toList.getLast?, Url.isMargin c = false) (signature : String) :
    (∃ name, fileName address = .ok name ∧ fileName (address ++ "?" ++ signature) = .ok name ∧
      fileName (address ++ "#" ++ signature) = .ok name) ∨
    (∃ reason reasonOfQuery reasonOfFragment, fileName address = .error (.validation reason) ∧
      fileName (address ++ "?" ++ signature) = .error (.validation reasonOfQuery) ∧
      fileName (address ++ "#" ++ signature) = .error (.validation reasonOfFragment)) := by
  have hsegments := @Url.segmentsRead_parse_append address hquery hfragment hlast
  have hsame : ∀ mark : Char, mark = '?' ∨ mark = '#' → ∀ name,
      fileName (address ++ String.singleton mark ++ signature) = .ok name ↔
        fileName address = .ok name := by
    intro mark hmark name
    rw [fileName_eq_ok_iff_read, fileName_eq_ok_iff_read, hsegments hmark signature]
  have hask := hsame '?' (.inl rfl)
  have hnumber := hsame '#' (.inr rfl)
  cases hname : fileName address with
  | ok name =>
      exact .inl ⟨name, rfl, (hask name).mpr hname, (hnumber name).mpr hname⟩
  | error e =>
      have hrefused : ∀ {text : String},
          (∀ name, fileName text = .ok name ↔ fileName address = .ok name) →
            ∃ reason, fileName text = .error (.validation reason) := by
        intro text hiff
        cases htext : fileName text with
        | ok name =>
            rw [hname, htext] at hiff
            exact absurd ((hiff name).mp rfl) nofun
        | error e' =>
            obtain ⟨reason, rfl⟩ := fileName_eq_error htext
            exact ⟨reason, rfl⟩
      obtain ⟨reason, hreason⟩ := hrefused fun name => Iff.rfl
      obtain ⟨reasonOfQuery, hquery⟩ := hrefused hask
      obtain ⟨reasonOfFragment, hfragment⟩ := hrefused hnumber
      exact .inr ⟨reason, reasonOfQuery, reasonOfFragment, hname ▸ hreason, hquery, hfragment⟩

/-- The signature of an address may look like a path, an ending of encrypted models and a query. -/
theorem fileName_of_confusing_signature :
    '?' ∉ "https://models.local/a/model.pb.enc".toList ∧
      '#' ∉ "https://models.local/a/model.pb.enc".toList ∧
      fileName "https://models.local/a/model.pb.enc" = .ok "model.pb" ∧
      fileName ("https://models.local/a/model.pb.enc" ++ "?" ++ "sig=/../b@c:1/x.enc?y#z") =
        .ok "model.pb" ∧
      fileName ("https://models.local/a/model.pb.enc" ++ "#" ++ "sig=/../b@c:1/x.enc?y#z") =
        .ok "model.pb" := by
  have hquery : '?' ∉ "https://models.local/a/model.pb.enc".toList := by decide
  have hfragment : '#' ∉ "https://models.local/a/model.pb.enc".toList := by decide
  have hplain : fileName "https://models.local/a/model.pb.enc" = .ok "model.pb" :=
    eq_ok_of_toOption (by decide +kernel)
  have hlast : ∀ c ∈ "https://models.local/a/model.pb.enc".toList.getLast?,
      Url.isMargin c = false := by
    intro c hc
    obtain rfl : 'c' = c := by simpa using hc
    rfl
  refine ⟨hquery, hfragment, hplain, ?_⟩
  rcases fileName_of_signed_address hquery hfragment hlast "sig=/../b@c:1/x.enc?y#z" with
    ⟨name, hname, hask, hnumber⟩ | ⟨reason, -, -, hrefused, -, -⟩
  · obtain rfl := Except.ok.inj (hname.symm.trans hplain)
    exact ⟨hask, hnumber⟩
  · rw [hplain] at hrefused
    exact absurd hrefused nofun

end Model

end AttestedModel
