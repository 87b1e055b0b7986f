import AttestedModel.Proofs.RetrievalOrder

/-!
# The model that is kept

A call of a source either delivers a model, or leaves the disk and the model that is
kept as they were (`Turn.ends`).  So over any sequence of calls the kept model is that of the last
retrieval that was done, and the file which that retrieval reported has it too
(`Current`): this is so before the first call, every call preserves it
(`Current.call`), and by induction it is so after every history
(`kept_of_history`).

The world of each call is its own.  Between two calls anything may happen but to the
kept model and the reported file.
-/

namespace AttestedModel.Model

open AttestedModel.Action

variable {σ : Type} {env : Environment σ} {provider : Provider} {limit : Option Duration}
variable {s t : Session σ}

/-- A server describes a model in one way from one session. -/
theorem Describes.unique {m m' : Metadata} {u : Session σ} (h : Describes env provider s m t)
    (h' : Describes env provider s m' u) : m = m' ∧ t = u :=
  done_unique (fetchMetadata_eq_done_iff.mpr h) (fetchMetadata_eq_done_iff.mpr h')

/-- An address is answered in one way from one session. -/
theorem Answers.unique {url : String} {headers : List (String × String)} {body body' : Bytes}
    {u : Session σ} (h : Answers env url headers s body t)
    (h' : Answers env url headers s body' u) : body = body' ∧ t = u :=
  have hfetch {body t} (h : Answers env url headers s body t) :
      fetch env url headers (fun _ => "") s = (.done body, t) := fetch_eq_done_iff.mpr h
  done_unique (hfetch h) (hfetch h')

/-- A body opens to one plaintext from one session. -/
theorem Opens.unique {body plaintext plaintext' : Bytes} {key : Option KeyLocation}
    {u : Session σ} (h : Opens env provider limit body s plaintext t key)
    (h' : Opens env provider limit body s plaintext' u key) : plaintext = plaintext' ∧ t = u :=
  done_unique (openBody_eq_done_iff.mpr h) (openBody_eq_done_iff.mpr h')

/-- A retrieval gets to a plaintext: the metadata is there and can be followed, and the model is
there and opens to it. -/
def Obtains (env : Environment σ) (provider : Provider) (limit : Option Duration)
    (s : Session σ) (plaintext : Bytes) : Prop :=
  ∃ m s₁ plan body s₂ s₃, Describes env provider s m s₁ ∧ Plan.ofMetadata m = .ok plan ∧
    Answers env plan.url [] s₁ body s₂ ∧ Opens env provider limit body s₂ plaintext s₃ plan.key

/-- A retrieval gets to one plaintext from one session. -/
theorem Obtains.unique {plaintext plaintext' : Bytes} (h : Obtains env provider limit s plaintext)
    (h' : Obtains env provider limit s plaintext') : plaintext = plaintext' := by
  obtain ⟨m, s₁, plan, body, s₂, s₃, hdescribed, hplan, hbody, hopened⟩ := h
  obtain ⟨m', s₁', plan', body', s₂', s₃', hdescribed', hplan', hbody', hopened'⟩ := h'
  obtain ⟨rfl, rfl⟩ := hdescribed.unique hdescribed'
  obtain rfl : plan = plan' := Except.ok.inj (hplan.symm.trans hplan')
  obtain ⟨rfl, rfl⟩ := hbody.unique hbody'
  exact (hopened.unique hopened').1

/-- The plaintext of a retrieval that is done is kept, and stands in the file that is reported. -/
theorem obtains_of_getInfo {info : Info} (h : provider.getInfo env limit s = (.done info, t)) :
    ∃ plaintext, Obtains env provider limit s plaintext ∧ t.retrieved = some plaintext ∧
      t.disk.read info.path = .ok plaintext := by
  obtain ⟨m, s₁, plan, body, s₂, plaintext, s₃, path, s₄, hdescribed, hplan, hbody, hopened,
    hstaged, rfl, rfl⟩ := getInfo_eq_done_iff.mp h
  exact ⟨plaintext, ⟨m, s₁, plan, body, s₂, s₃, hdescribed, hplan, hbody, hopened⟩, rfl,
    hstaged.read.2⟩

/-- What is kept is given, and nothing happens. -/
theorem getData_of_kept {data : Bytes} (h : s.retrieved = some data) :
    provider.getData env limit s = (.done data, s) := by
  have hretrieved : (Provider.retrieved : Action σ _) s = (.done (some data), s) := by
    rw [Provider.retrieved, h]
  unfold Provider.getData
  rw [bind_of_done _ hretrieved]
  rfl

/-- Where nothing is kept, a retrieval is made: if it is done, its plaintext is given, and in any
other case the call ends as the retrieval does. -/
theorem getData_of_empty (h : s.retrieved = none) :
    (∃ info t data, provider.getInfo env limit s = (.done info, t) ∧ t.retrieved = some data ∧
      provider.getData env limit s = (.done data, t)) ∨
    (∃ e t, provider.getInfo env limit s = (.failed e, t) ∧
      provider.getData env limit s = (.failed e, t)) ∨
    ∃ t, provider.getInfo env limit s = (.never, t) ∧
      provider.getData env limit s = (.never, t) := by
  have hempty : (Provider.retrieved : Action σ _) s = (.done none, s) := by
    rw [Provider.retrieved, h]
  unfold Provider.getData
  rw [bind_of_done _ hempty]
  simp only [discard_bind]
  cases hrun : provider.getInfo env limit s with
  | mk outcome t =>
      cases outcome with
      | done info =>
          -- what is read again is what the retrieval has kept
          obtain ⟨data, -, hkept, -⟩ := obtains_of_getInfo hrun
          have hagain : (Provider.retrieved : Action σ _) t = (.done (some data), t) := by
            rw [Provider.retrieved, hkept]
          refine .inl ⟨info, t, data, rfl, hkept, ?_⟩
          rw [bind_of_done _ hrun, bind_of_done _ hagain]
          rfl
      | failed e =>
          refine .inr (.inl ⟨e, t, rfl, ?_⟩)
          simp only [bind, hrun]
      | never =>
          refine .inr (.inr ⟨t, rfl, ?_⟩)
          simp only [bind, hrun]

/-- Data are given only as they are kept after the call. -/
theorem kept_of_getData {data : Bytes} (h : provider.getData env limit s = (.done data, t)) :
    t.retrieved = some data := by
  cases hkept : s.retrieved with
  | some earlier =>
      rw [getData_of_kept hkept] at h
      obtain ⟨hdata, rfl⟩ := Prod.mk.inj h
      rw [hkept, Outcome.done.inj hdata]
  | none =>
      rcases getData_of_empty hkept with ⟨info, u, data', -, hkept', hrun⟩ | ⟨e, u, -, hrun⟩ |
        ⟨u, -, hrun⟩
      · obtain ⟨rfl, rfl⟩ := done_unique hrun h
        exact hkept'
      · exact absurd (hrun.symm.trans h) nofun
      · exact absurd (hrun.symm.trans h) nofun

/-- A call for data fails only because it makes a retrieval, and that fails. -/
theorem getInfo_of_getData_failed {e : LoadError}
    (h : provider.getData env limit s = (.failed e, t)) :
    s.retrieved = none ∧ provider.getInfo env limit s = (.failed e, t) := by
  cases hkept : s.retrieved with
  | some earlier =>
      rw [getData_of_kept hkept] at h
      exact absurd h nofun
  | none =>
      refine ⟨rfl, ?_⟩
      rcases getData_of_empty hkept with ⟨info, u, data', -, -, hrun⟩ | ⟨e', u, hinfo, hrun⟩ |
        ⟨u, -, hrun⟩
      · exact absurd (hrun.symm.trans h) nofun
      · obtain ⟨rfl, rfl⟩ : e' = e ∧ u = t := by simpa using hrun.symm.trans h
        exact hinfo
      · exact absurd (hrun.symm.trans h) nofun

/-- What a source is asked for. -/
inductive Asked
  | info
  | data

/-- A call: what is asked for, the world that takes part in it, and where it begins. -/
structure Turn (σ : Type) where
  env : Environment σ
  limit : Option Duration
  asked : Asked
  before : Session σ

namespace Turn

variable (provider : Provider) (turn : Turn σ)

/-- The session that a call leaves. -/
def after : Session σ :=
  match turn.asked with
  | .info => (provider.getInfo turn.env turn.limit turn.before).2
  | .data => (provider.getData turn.env turn.limit turn.before).2

/-- A call makes a retrieval unless it asks for data that are kept. -/
def Retrieves : Prop :=
  turn.asked = .info ∨ turn.before.retrieved = none

/-- A call makes a retrieval, and that is done. -/
def Succeeds : Prop :=
  turn.Retrieves ∧
    ∃ info, (provider.getInfo turn.env turn.limit turn.before).1 = .done info

/-- A call makes a retrieval that gets to a plaintext, is done, and reports a path. -/
def Delivers (path : String) (plaintext : Bytes) : Prop :=
  turn.Retrieves ∧ Obtains turn.env provider turn.limit turn.before plaintext ∧
    ∃ info, (provider.getInfo turn.env turn.limit turn.before).1 = .done info ∧ info.path = path

variable {provider turn}

/-- A turn that delivers a model succeeds. -/
theorem Delivers.succeeds {path : String} {plaintext : Bytes}
    (h : turn.Delivers provider path plaintext) : turn.Succeeds provider := by
  obtain ⟨hretrieves, -, info, hdone, -⟩ := h
  exact ⟨hretrieves, info, hdone⟩

/-- A call that makes a retrieval leaves what that leaves. -/
theorem after_of_retrieves (h : turn.Retrieves) :
    turn.after provider = (provider.getInfo turn.env turn.limit turn.before).2 := by
  unfold after
  cases hasked : turn.asked with
  | info => rfl
  | data =>
      have hempty : turn.before.retrieved = none := h.resolve_left (by rw [hasked]; exact nofun)
      rcases getData_of_empty hempty with ⟨info, t, data, hrun, -, hdata⟩ | ⟨e, t, hrun, hdata⟩ |
        ⟨t, hrun, hdata⟩
      all_goals rw [hrun, hdata]

/-- A call that makes no retrieval leaves everything as it is. -/
theorem after_of_not_retrieves (h : ¬ turn.Retrieves) : turn.after provider = turn.before := by
  obtain ⟨hasked, hkept⟩ := not_or.mp h
  obtain ⟨data, hkept⟩ := Option.ne_none_iff_exists'.mp hkept
  unfold after
  cases hdata : turn.asked with
  | info => exact absurd hdata hasked
  | data => rw [getData_of_kept hkept]

/-- How a call ends. -/
inductive Ends (provider : Provider) (turn : Turn σ) : Prop
  /-- A model was delivered: it is kept, and stands in the file. -/
  | delivered {path : String} {plaintext : Bytes} (h : turn.Delivers provider path plaintext)
      (hkept : (turn.after provider).retrieved = some plaintext)
      (hread : (turn.after provider).disk.read path = .ok plaintext)
  /-- None was, and the store is as it was before. -/
  | unchanged (h : ¬ turn.Succeeds provider)
      (hstore : (turn.after provider).store = turn.before.store)

/-- **A call delivers a model, or it leaves the store alone.** -/
theorem ends (provider : Provider) (turn : Turn σ) : turn.Ends provider := by
  by_cases hsucceeds : turn.Succeeds provider
  · obtain ⟨hretrieves, info, hdone⟩ := hsucceeds
    have hrun : provider.getInfo turn.env turn.limit turn.before =
        (.done info, turn.after provider) :=
      Prod.ext hdone (after_of_retrieves hretrieves).symm
    obtain ⟨plaintext, hobtains, hkept, hread⟩ := obtains_of_getInfo hrun
    exact .delivered ⟨hretrieves, hobtains, info, hdone, rfl⟩ hkept hread
  · refine .unchanged hsucceeds ?_
    by_cases hretrieves : turn.Retrieves
    · rw [after_of_retrieves hretrieves]
      refine (getInfo_keepsUnlessDone turn.env provider turn.limit turn.before).resolve_left ?_
      exact fun hdone => hsucceeds ⟨hretrieves, hdone⟩
    · rw [after_of_not_retrieves hretrieves]

/-- A call delivers one model at one path. -/
theorem Delivers.unique {path path' : String} {plaintext plaintext' : Bytes}
    (h : turn.Delivers provider path plaintext) (h' : turn.Delivers provider path' plaintext') :
    path = path' ∧ plaintext = plaintext' := by
  obtain ⟨-, hobtains, info, hdone, rfl⟩ := h
  obtain ⟨-, hobtains', info', hdone', rfl⟩ := h'
  obtain rfl : info = info' := Outcome.done.inj (hdone.symm.trans hdone')
  exact ⟨rfl, hobtains.unique hobtains'⟩

end Turn

/-- The last of the calls, the latest first, whose retrieval was done reported a path and got to
a plaintext. -/
inductive LastDelivery (provider : Provider) (path : String) (plaintext : Bytes) :
    List (Turn σ) → Prop
  | now {turn : Turn σ} {earlier : List (Turn σ)} (h : turn.Delivers provider path plaintext) :
      LastDelivery provider path plaintext (turn :: earlier)
  | before {turn : Turn σ} {earlier : List (Turn σ)} (h : ¬ turn.Succeeds provider)
      (hearlier : LastDelivery provider path plaintext earlier) :
      LastDelivery provider path plaintext (turn :: earlier)

/-- Between two calls nobody writes where the last delivery is: neither to the kept model nor to
the file.  Everything else may be another. -/
structure Between (provider : Provider) (turns : List (Turn σ)) (s s' : Session σ) : Prop where
  retrieved_eq : s'.retrieved = s.retrieved
  read_eq : ∀ path plaintext, LastDelivery provider path plaintext turns →
    s'.disk.read path = s.disk.read path

/-- The calls that were made of a source one after another, the latest first, and the session that
the last one left. -/
inductive History (provider : Provider) : List (Turn σ) → Session σ → Prop
  | start {s : Session σ} (h : s.retrieved = none) : History provider [] s
  | call {turns : List (Turn σ)} {s : Session σ} {turn : Turn σ} (h : History provider turns s)
      (hbetween : Between provider turns s turn.before) :
      History provider (turn :: turns) (turn.after provider)

/-- There is a last delivery exactly if some retrieval was done. -/
theorem exists_lastDelivery_iff {turns : List (Turn σ)} :
    (∃ plaintext path, LastDelivery provider path plaintext turns) ↔
      ∃ turn ∈ turns, turn.Succeeds provider := by
  induction turns with
  | nil =>
      constructor
      · rintro ⟨plaintext, path, hlast⟩
        exact absurd hlast nofun
      · rintro ⟨turn, hmem, -⟩
        exact absurd hmem List.not_mem_nil
  | cons turn earlier ih =>
      constructor
      · rintro ⟨plaintext, path, hlast⟩
        cases hlast with
        | now h => exact ⟨turn, List.mem_cons_self, h.succeeds⟩
        | before h hearlier =>
            obtain ⟨turn', hmem, hsucceeds⟩ := ih.mp ⟨plaintext, path, hearlier⟩
            exact ⟨turn', List.mem_cons_of_mem _ hmem, hsucceeds⟩
      · rintro ⟨turn', hmem, hsucceeds⟩
        cases turn.ends provider with
        | delivered h hkept hread => exact ⟨_, _, .now h⟩
        | unchanged h hstore =>
            -- so it was an earlier one
            obtain rfl | hmem := List.mem_cons.mp hmem
            · exact absurd hsucceeds h
            · obtain ⟨plaintext, path, hlast⟩ := ih.mpr ⟨turn', hmem, hsucceeds⟩
              exact ⟨plaintext, path, .before h hlast⟩

/-- A session has the last delivery: it is what is kept, and it stands in its file. -/
structure Current (provider : Provider) (turns : List (Turn σ)) (s : Session σ) : Prop where
  kept_iff : ∀ plaintext,
    s.retrieved = some plaintext ↔ ∃ path, LastDelivery provider path plaintext turns
  read : ∀ path plaintext, LastDelivery provider path plaintext turns →
    s.disk.read path = .ok plaintext

/-- Before the first call, what is kept is current: there is nothing. -/
theorem current_start (h : s.retrieved = none) : Current provider [] s where
  kept_iff plaintext := by
    rw [h]
    exact ⟨nofun, fun ⟨_, hlast⟩ => absurd hlast nofun⟩
  read _ _ hlast := absurd hlast nofun

/-- What is current before a call stays so until the next one. -/
theorem Current.between {turns : List (Turn σ)} {s' : Session σ} (h : Current provider turns s)
    (hbetween : Between provider turns s s') : Current provider turns s' where
  kept_iff plaintext := by
    rw [hbetween.retrieved_eq]
    exact h.kept_iff plaintext
  read path plaintext hlast := by
    rw [hbetween.read_eq path plaintext hlast]
    exact h.read path plaintext hlast

/-- **A call leaves what is kept current**, whatever the world does in the call. -/
theorem Current.call {turns : List (Turn σ)} {turn : Turn σ}
    (h : Current provider turns turn.before) :
    Current provider (turn :: turns) (turn.after provider) := by
  cases turn.ends provider with
  | @delivered path plaintext hdelivers hkept hread =>
      -- any last delivery is this one
      have honly {path' plaintext'}
          (hlast : LastDelivery provider path' plaintext' (turn :: turns)) :
          path = path' ∧ plaintext = plaintext' := by
        cases hlast with
        | now hdelivers' => exact hdelivers.unique hdelivers'
        | before hnot hearlier => exact absurd hdelivers.succeeds hnot
      refine ⟨fun plaintext' => ?_, fun path' plaintext' hlast => ?_⟩
      · rw [hkept]
        constructor
        · intro hsame
          exact ⟨path, Option.some.inj hsame ▸ .now hdelivers⟩
        · rintro ⟨path', hlast⟩
          rw [(honly hlast).2]
      · obtain ⟨rfl, rfl⟩ := honly hlast
        exact hread
  | unchanged hnot hstore =>
      -- any last delivery is the one before
      have hsame {path plaintext} : LastDelivery provider path plaintext (turn :: turns) ↔
          LastDelivery provider path plaintext turns := by
        constructor
        · intro hlast
          cases hlast with
          | now hdelivers => exact absurd hdelivers.succeeds hnot
          | before hnot hearlier => exact hearlier
        · exact .before hnot
      obtain ⟨hdisk, hretrieved⟩ := Session.store_eq_iff.mp hstore
      refine ⟨fun plaintext => ?_, fun path plaintext hlast => ?_⟩
      · simp only [hretrieved, hsame]
        exact h.kept_iff plaintext
      · rw [hdisk]
        exact h.read path plaintext (hsame.mp hlast)

/-- After every history the session has the last delivery. -/
theorem History.current {turns : List (Turn σ)} (h : History provider turns s) :
    Current provider turns s := by
  induction h with
  | start hnone => exact current_start hnone
  | call h hbetween ih => exact (ih.between hbetween).call

/-- **The kept model follows the last delivery.**

After every sequence of calls of one source, whatever the world has done in each of them, a
model is kept exactly if some retrieval was done; it is the plaintext that the last one of these got
to, and the path that it reported still reads as that.

Of the next call for data, in any world: if a retrieval was done before, it gives the last
delivery, and nothing else happens.  And of any call for data: what it gives is what is kept after
it, and if it fails, then it has made a retrieval, which failed in the same way; so it never fails
for want of kept data. -/
theorem kept_of_history {turns : List (Turn σ)} (h : History provider turns s) :
    (s.retrieved.isSome ↔ ∃ turn ∈ turns, turn.Succeeds provider) ∧
    (∀ plaintext, s.retrieved = some plaintext ↔
      ∃ path, LastDelivery provider path plaintext turns) ∧
    (∀ path plaintext, LastDelivery provider path plaintext turns →
      s.disk.read path = .ok plaintext) ∧
    (∀ env limit s', Between provider turns s s' → (∃ turn ∈ turns, turn.Succeeds provider) →
      ∃ path plaintext, LastDelivery provider path plaintext turns ∧
        provider.getData env limit s' = (.done plaintext, s')) ∧
    (∀ env limit (s' t : Session σ) data, provider.getData env limit s' = (.done data, t) →
      t.retrieved = some data) ∧
    (∀ env limit (s' t : Session σ) e, provider.getData env limit s' = (.failed e, t) →
      s'.retrieved = none ∧ provider.getInfo env limit s' = (.failed e, t)) := by
  have hcurrent := h.current
  refine ⟨?_, hcurrent.kept_iff, hcurrent.read, ?_, ?_, ?_⟩
  · rw [← exists_lastDelivery_iff, Option.isSome_iff_exists]
    exact exists_congr hcurrent.kept_iff
  · intro env limit s' hbetween hsucceeds
    obtain ⟨plaintext, path, hlast⟩ := exists_lastDelivery_iff.mpr hsucceeds
    have hkept := ((hcurrent.between hbetween).kept_iff plaintext).mpr ⟨path, hlast⟩
    exact ⟨path, plaintext, hlast, getData_of_kept hkept⟩
  · intro env limit s' t data hdone
    exact kept_of_getData hdone
  · intro env limit s' t e hfailed
    exact getInfo_of_getData_failed hfailed

/-- A call for data, when the servers are about to give a model in plain. -/
def callForData : Turn (List Http.Response) where
  env := scripted .none
  limit := none
  asked := .data
  before := beforePlainRetrieval plainMetadata

/-- A call after that, when the servers give nothing any more. -/
def callInVain : Turn (List Http.Response) where
  env := scripted .none
  limit := none
  asked := .info
  before := callForData.after scriptedProvider

/-- The path that a retrieval reports. -/
def reportedPath : Outcome Info → Option String
  | .done info => some info.path
  | _ => none

/-- The call for data retrieves the model, and uses up what the servers give. -/
theorem run_callForData :
    let run := scriptedProvider.getInfo (scripted .none) none (beforePlainRetrieval plainMetadata)
    (reportedPath run.1, run.2.retrieved, run.2.world) = (some "/d/m", some [1, 2, 3], []) := by
  decide +kernel

/-- The call of the sample delivers its three bytes. -/
theorem delivers_callForData : callForData.Delivers scriptedProvider "/d/m" [1, 2, 3] := by
  have hends := run_callForData
  unfold Turn.Delivers callForData
  cases hrun : scriptedProvider.getInfo (scripted .none) none
      (beforePlainRetrieval plainMetadata) with
  | mk outcome t =>
      rw [hrun] at hends
      obtain ⟨hpath, hrest⟩ := Prod.mk.inj hends
      obtain ⟨hkept, -⟩ := Prod.mk.inj hrest
      cases outcome with
      | done info =>
          obtain ⟨plaintext, hobtains, hkept', -⟩ := obtains_of_getInfo hrun
          obtain rfl : plaintext = [1, 2, 3] := Option.some.inj (hkept'.symm.trans hkept)
          exact ⟨.inr rfl, hobtains, info, rfl, Option.some.inj hpath⟩
      | failed e => exact absurd hpath nofun
      | never => exact absurd hpath nofun

/-- Where the servers give nothing, no retrieval is done. -/
theorem not_done_of_no_answer {s t : Session (List Http.Response)} (h : s.world = [])
    {faults : Staging.Faults} {info : Info} :
    scriptedProvider.getInfo (scripted faults) none s ≠ (.done info, t) := by
  intro hdone
  obtain ⟨m, s₁, -, -, -, -, -, -, -, ⟨document, hanswer, -⟩, -⟩ := getInfo_eq_done_iff.mp hdone
  have hsend := hanswer.1
  unfold Http.send at hsend
  rw [h] at hsend
  split at hsend
  · exact absurd hsend nofun
  · exact absurd hsend nofun

/-- A model that has been delivered is still kept, and still in its file, after a retrieval that
was in vain. -/
theorem kept_after_call_in_vain :
    let s := callInVain.after scriptedProvider
    History scriptedProvider [callInVain, callForData] s ∧ s.retrieved = some [1, 2, 3] ∧
      s.disk.read "/d/m" = .ok [1, 2, 3] := by
  intro s
  have hhistory : History scriptedProvider [callInVain, callForData] s :=
    .call (.call (.start rfl) ⟨rfl, fun _ _ _ => rfl⟩) ⟨rfl, fun _ _ _ => rfl⟩
  have hvain : ¬ callInVain.Succeeds scriptedProvider := by
    have hempty : (callForData.after scriptedProvider).world = [] := by
      rw [Turn.after_of_retrieves delivers_callForData.1]
      exact (Prod.mk.inj (Prod.mk.inj run_callForData).2).2
    rintro ⟨-, info, hdone⟩
    exact not_done_of_no_answer hempty (Prod.ext hdone rfl)
  have hlast : LastDelivery scriptedProvider "/d/m" [1, 2, 3] [callInVain, callForData] :=
    .before hvain (.now delivers_callForData)
  obtain ⟨-, hkept, hread, -⟩ := kept_of_history hhistory
  exact ⟨hhistory, (hkept _).mpr ⟨_, hlast⟩, hread _ _ hlast⟩

end AttestedModel.Model
