import AttestedModel.Proofs.ReportEntries
import AttestedModel.Proofs.TextCodecs

/-!
# Quotes from an entry that others write too

An entry of the kernel is shared: other processes may write into it at any moment.
Every write, by whom it may be, replaces what is to be quoted and advances the
counter by one, and the quote is of what stands there when it is read.  A quote that
is accepted is one of our own data, and one is accepted if nobody wrote between the
two readings of the counter (`collect_commits_when_shared`).

The proof follows a run for which the kernel does not fail (`Smooth`) from operation
to operation, and keeps account of what others wrote before each of them.
-/

namespace AttestedModel

namespace Evidence

/-- What happens to the entry: a step of our own, or a write of somebody else. -/
inductive Access
  | own (step : Step) (succeeded : Bool)
  | foreign (content : Bytes)
deriving DecidableEq, Repr

/-- A reading of the counter. -/
def reading (name : String) : Access :=
  .own (.read name .generation) true

/-- What happened between the first reading of the counter and the next. -/
def betweenReadings (name : String) (history : List Access) : List Access :=
  ((history.dropWhile (· ≠ reading name)).drop 1).takeWhile (· ≠ reading name)

/-- What lies between the first two readings is what was put there. -/
theorem betweenReadings_eq {name : String} {early middle late : List Access}
    (hearly : reading name ∉ early) (hmiddle : reading name ∉ middle) :
    betweenReadings name (early ++ reading name :: (middle ++ reading name :: late)) = middle := by
  have hskip : ∀ {accesses : List Access}, reading name ∉ accesses →
      ∀ access ∈ accesses, decide (access ≠ reading name) := fun hnone access haccess =>
    decide_eq_true fun heq => hnone (heq ▸ haccess)
  rw [betweenReadings, List.dropWhile_append_of_pos (hskip hearly),
    List.dropWhile_cons_of_neg (by simp), List.drop_succ_cons, List.drop_zero,
    List.takeWhile_append_of_pos (hskip hmiddle), List.takeWhile_cons_of_neg (by simp),
    List.append_nil]

/-- An entry: what is to be quoted, how often it was written, and all that happened to it. -/
structure SharedEntry where
  inblob : Bytes
  generation : Nat
  history : List Access
deriving DecidableEq, Repr

namespace SharedEntry

/-- A write replaces what is to be quoted and advances the counter. -/
def overwrite (entry : SharedEntry) (content : Bytes) : SharedEntry :=
  { entry with inblob := content, generation := entry.generation + 1 }

def log (entry : SharedEntry) (access : Access) : SharedEntry :=
  { entry with history := entry.history ++ [access] }

/-- The writes of others, one after the other. -/
def disturb (entry : SharedEntry) (contents : List Bytes) : SharedEntry :=
  contents.foldl (fun entry content => (entry.overwrite content).log (.foreign content)) entry

/-- Others leave their writes in the history, in their order. -/
@[simp] theorem history_disturb (entry : SharedEntry) (contents : List Bytes) :
    (entry.disturb contents).history = entry.history ++ contents.map .foreign := by
  induction contents generalizing entry with
  | nil => simp [disturb]
  | cons content contents ih =>
      rw [disturb, List.foldl_cons, ← disturb, ih]
      simp [log, overwrite]

/-- Others advance the counter once with each write. -/
@[simp] theorem generation_disturb (entry : SharedEntry) (contents : List Bytes) :
    (entry.disturb contents).generation = entry.generation + contents.length := by
  induction contents generalizing entry with
  | nil => rfl
  | cons content contents ih =>
      rw [disturb, List.foldl_cons, ← disturb, ih, List.length_cons]
      simp only [log, overwrite]
      omega

end SharedEntry

/-- What is around the entry: its provider, what a quote of a content is, what others write and
which operations fail.  The latter two may depend on all that happened before. -/
structure Surroundings where
  provider : String
  quote : Bytes → Bytes
  writes : List Access → List Bytes
  fault? : List Access → Option OsError

namespace Surroundings

variable (surroundings : Surroundings)

/-- One operation on the entry, before which others may write. -/
def serve (found : Prop) [Decidable found] (step : Bool → Step)
    (serving : SharedEntry → α × SharedEntry) (entry : SharedEntry) :
    Except OsError α × SharedEntry :=
  let entry := entry.disturb (surroundings.writes entry.history)
  let fault? := if found then surroundings.fault? entry.history else some .noSuchFile
  match fault? with
  | some error => (.error error, entry.log (.own (step false) false))
  | none => (.ok (serving entry).1, (serving entry).2.log (.own (step true) true))

/-- What a readable attribute holds. -/
def content (entry : SharedEntry) : Attribute → Bytes
  | .provider => Text.Utf8.encode (surroundings.provider ++ "\n")
  | .generation => Text.Utf8.encode (toString entry.generation ++ "\n")
  | .outblob => surroundings.quote entry.inblob

/-- The kernel that keeps the entry under this name. -/
def kernel (name : String) : Kernel SharedEntry where
  make path := surroundings.serve (path = name) (fun _ => .make path) fun entry => ((), entry)
  read path part := surroundings.serve (path = name) (fun _ => .read path part) fun entry =>
    (surroundings.content entry part, entry)
  write path content := surroundings.serve (path = name) (.write path content) fun entry =>
    ((), entry.overwrite content)
  remove path := surroundings.serve (path = name) (fun _ => .remove path) fun entry => ((), entry)

/-- Others write, and the operation fails or is served. -/
theorem serve_cases (found : Prop) [Decidable found] (mark : Bool → Step)
    (serving : SharedEntry → α × SharedEntry) (entry : SharedEntry) :
    ∃ others,
      (∃ error, surroundings.serve found mark serving entry =
        (.error error, (entry.disturb others).log (.own (mark false) false))) ∨
      surroundings.serve found mark serving entry = (.ok (serving (entry.disturb others)).1,
        (serving (entry.disturb others)).2.log (.own (mark true) true)) := by
  refine ⟨surroundings.writes entry.history, ?_⟩
  unfold serve
  dsimp only
  split
  · exact .inl ⟨_, rfl⟩
  · exact .inr rfl

/-- The shared kernel serves a read of the entry from what lies there. -/
theorem kernel_read (name path : String) (part : Attribute) :
    (surroundings.kernel name).read path part =
      surroundings.serve (path = name) (fun _ => .read path part) fun entry =>
        (surroundings.content entry part, entry) := rfl

/-- The shared kernel serves a write to the entry by overwriting it. -/
theorem kernel_write (name path : String) (content : Bytes) :
    (surroundings.kernel name).write path content =
      surroundings.serve (path = name) (.write path content) fun entry =>
        ((), entry.overwrite content) := rfl

/-- A check lets a use through or fails. -/
theorem run_unless {refused : Prop} [Decidable refused] {failure : Failure} {use : Use σ α}
    {trace : Trace σ} :
    (if refused then do throw failure; use else use : Use σ α).run trace =
      if refused then (.error failure, trace) else use.run trace := by
  split <;> rfl

/-- Nothing on the way refuses: every operation succeeded, the provider is that of a guest, and the
counter is in range. -/
structure Calm (entry : SharedEntry) : Prop where
  succeeded : ∀ step, .own step false ∉ entry.history
  provider : surroundings.provider = guestProvider
  bounded : entry.generation < 2 ^ 64

/-- A run that succeeds, or in which nothing refuses. -/
def Smooth (run : Except Failure α × Trace SharedEntry) : Prop :=
  run.1.isOk ∨ surroundings.Calm run.2.state

variable {surroundings}

/-- In a smooth run an operation is served, and the run goes on from there. -/
theorem Smooth.serve_bind {β : Type} {found : Prop} [Decidable found] {mark : Bool → Step}
    {serving : SharedEntry → α × SharedEntry} {step : Except OsError α → Step} {describe : String}
    {next : α → Use SharedEntry β} {trace : Trace SharedEntry}
    {run : Except Failure β × Trace SharedEntry} (h : surroundings.Smooth run)
    (hrun : (ask step (surroundings.serve found mark serving) describe >>= next).run trace = run) :
    ∃ others steps, (next (serving (trace.state.disturb others)).1).run
      ⟨(serving (trace.state.disturb others)).2.log (.own (mark true) true), steps⟩ = run := by
  rw [run_bind, run_ask] at hrun
  obtain ⟨others, ⟨error, hserve⟩ | hserve⟩ :=
    surroundings.serve_cases found mark serving trace.state
  · rw [hserve] at hrun
    subst hrun
    rcases h with hok | hcalm
    · cases hok
    · exact absurd (List.mem_append_right _ List.mem_cons_self) (hcalm.succeeded (mark false))
  · rw [hserve] at hrun
    exact ⟨others, _, hrun⟩

/-- In a smooth run a reading of the counter gives it. -/
theorem Smooth.readGeneration_bind {β : Type} {name : String} {next : Nat → Use SharedEntry β}
    {trace : Trace SharedEntry} {run : Except Failure β × Trace SharedEntry}
    (h : surroundings.Smooth run)
    (hrun : (readGeneration (surroundings.kernel name) name >>= next).run trace = run) :
    ∃ others steps, (next (trace.state.disturb others).generation).run
      ⟨(trace.state.disturb others).log (.own (.read name .generation) true), steps⟩ = run := by
  unfold readGeneration at hrun
  rw [bind_assoc, kernel_read] at hrun
  obtain ⟨others, steps, hrun⟩ := h.serve_bind hrun
  refine ⟨others, ?_⟩
  generalize trace.state.disturb others = entry at hrun ⊢
  have hcounter : Text.Integer.natural (Nat.pow 2 64 - 1)
      (Text.trim (Text.Utf8.decodeLossy (surroundings.content entry .generation))) =
      if entry.generation ≤ Nat.pow 2 64 - 1 then .ok entry.generation else .error .tooLarge := by
    rw [content, Text.Utf8.decodeLossy_encode, Text.trim_toString_line,
      Text.Integer.natural_toString]
  dsimp only at hrun
  rw [hcounter] at hrun
  by_cases hbound : entry.generation ≤ Nat.pow 2 64 - 1
  · rw [if_pos hbound] at hrun
    exact ⟨steps, hrun⟩
  · -- a counter out of range is refused
    rw [if_neg hbound] at hrun
    subst hrun
    rcases h with hok | hcalm
    · cases hok
    · have hlt : entry.generation < 2 ^ 64 := hcalm.bounded
      have hpow : Nat.pow 2 64 = 2 ^ 64 := rfl
      omega

/-- In a smooth run the provider is accepted. -/
theorem Smooth.guest {content : Bytes} {failure : Failure} {next : Use SharedEntry α}
    {trace : Trace SharedEntry} {run : Except Failure α × Trace SharedEntry}
    (h : surroundings.Smooth run)
    (hcontent : content = Text.Utf8.encode (surroundings.provider ++ "\n"))
    (hrun : (if Text.trim (Text.Utf8.decodeLossy content) ≠ guestProvider then
      do throw failure; next else next : Use SharedEntry α).run trace = run) :
    next.run trace = run := by
  rw [run_unless] at hrun
  by_cases hguest : Text.trim (Text.Utf8.decodeLossy content) = guestProvider
  · rw [if_neg (not_not_intro hguest)] at hrun
    exact hrun
  · rw [if_pos hguest] at hrun
    subst hrun
    rcases h with hok | hcalm
    · cases hok
    · refine absurd ?_ hguest
      rw [hcontent, Text.Utf8.decodeLossy_encode, hcalm.provider]
      decide

/-- What happens between the readings of the counter: our write and our reading of the quote, and
the writes of others before, between and after them. -/
def meanwhile (name : String) (data : Bytes) (first second third : List Bytes) : List Access :=
  first.map .foreign ++ .own (.write name data true) true ::
    (second.map .foreign ++ .own (.read name .outblob) true :: third.map .foreign)

/-- Nobody reads the counter between our own two readings. -/
theorem reading_notMem_meanwhile (name : String) (data : Bytes) (first second third : List Bytes) :
    reading name ∉ meanwhile name data first second third := by
  simp [reading, meanwhile]

/-- Nobody else wrote if the account is empty. -/
theorem foreign_notMem_meanwhile_iff {name : String} {data : Bytes}
    {first second third : List Bytes} :
    (∀ content, .foreign content ∉ meanwhile name data first second third) ↔
      first = [] ∧ second = [] ∧ third = [] := by
  simp [meanwhile, List.eq_nil_iff_forall_not_mem, forall_and]

/-- The checks behind the last operation leave the trace alone, and tell when there is a quote. -/
theorem run_checks {before after : Nat} {quote : Bytes} {crash conflict nothing : Failure}
    {trace : Trace σ} {run : Except Failure Bytes × Trace σ}
    (hrun : (if before + 1 = Nat.pow 2 64 then (.error crash, trace)
      else if after ≠ before + 1 then (.error conflict, trace)
      else if quote.isEmpty then (.error nothing, trace) else (.ok quote, trace)) = run) :
    run.2 = trace ∧ ∀ q, run.1 = .ok q ↔
      before + 1 ≠ Nat.pow 2 64 ∧ after = before + 1 ∧ q ≠ [] ∧ q = quote := by
  subst hrun
  by_cases hcrash : before + 1 = Nat.pow 2 64
  · simp [hcrash]
  · by_cases hconflict : after = before + 1
    · by_cases hnothing : quote = []
      · simp [hcrash, hconflict, hnothing]
      · rw [if_neg hcrash, if_neg (not_not_intro hconflict), if_neg (by simpa using hnothing)]
        refine ⟨rfl, fun q => ⟨?_, ?_⟩⟩
        · rintro ⟨⟩
          exact ⟨hcrash, hconflict, hnothing, rfl⟩
        · rintro ⟨-, -, -, rfl⟩
          rfl
    · simp [hcrash, hconflict]

/-- In a smooth run there are two readings of the counter.  A quote is given exactly if nobody else
wrote in between and there is one. -/
theorem Smooth.taken {name : String} {data : Bytes} {trace : Trace SharedEntry}
    {run : Except Failure Bytes × Trace SharedEntry} (h : surroundings.Smooth run)
    (hrun : (takeQuote (surroundings.kernel name) name data).run trace = run) :
    ∃ early first second third before,
      reading name ∉ early ∧
      run.2.state.history = trace.state.history ++ early ++ reading name ::
        (meanwhile name data first second third ++ [reading name]) ∧
      run.2.state.generation = before + first.length + 1 + second.length + third.length ∧
      ∀ quote, run.1 = .ok quote ↔ (first = [] ∧ second = [] ∧ third = []) ∧
        before + 1 ≠ 2 ^ 64 ∧ quote ≠ [] ∧ quote = surroundings.quote data := by
  unfold Evidence.takeQuote at hrun
  rw [kernel_read, kernel_read, kernel_write] at hrun
  obtain ⟨earliest, _, hrun⟩ := h.serve_bind hrun
  replace hrun := h.guest rfl hrun
  obtain ⟨earlier, _, hrun⟩ := h.readGeneration_bind hrun
  obtain ⟨first, _, hrun⟩ := h.serve_bind hrun
  obtain ⟨second, _, hrun⟩ := h.serve_bind hrun
  obtain ⟨third, _, hrun⟩ := h.readGeneration_bind hrun
  dsimp only at hrun
  rw [run_unless, run_unless, run_unless] at hrun
  obtain ⟨htrace, hresult⟩ := run_checks hrun
  refine ⟨earliest.map .foreign ++ .own (.read name .provider) true :: earlier.map .foreign,
    first, second, third, trace.state.generation + earliest.length + earlier.length, ?_, ?_, ?_,
    fun quote => (hresult quote).trans ?_⟩
  · simp [reading]
  · rw [htrace]
    simp [SharedEntry.log, SharedEntry.overwrite, meanwhile, reading]
  · rw [htrace]
    simp [SharedEntry.log, SharedEntry.overwrite]
  · have hcounter : ∀ a b c n : Nat, n + a + 1 + b + c = n + 1 ↔ a = 0 ∧ b = 0 ∧ c = 0 := by
      omega
    simp only [SharedEntry.log, SharedEntry.overwrite, SharedEntry.generation_disturb, content,
      hcounter, List.length_eq_zero_iff]
    constructor
    · rintro ⟨hcrash, ⟨rfl, rfl, rfl⟩, hsome, rfl⟩
      exact ⟨⟨rfl, rfl, rfl⟩, hcrash, hsome, rfl⟩
    · rintro ⟨⟨rfl, rfl, rfl⟩, hcrash, hsome, rfl⟩
      exact ⟨hcrash, ⟨rfl, rfl, rfl⟩, hsome, rfl⟩

end Surroundings

/-- What a smooth run leaves when its entry is removed.  A quote is given exactly if nobody else
wrote between the two readings, the counter can be advanced and there is one. -/
theorem Surroundings.Smooth.left {surroundings : Surroundings} {name : String} {data : Bytes}
    {made : Trace SharedEntry} {run : Except Failure Bytes × Trace SharedEntry}
    (h : surroundings.Smooth run)
    (hrun : (takeQuote (surroundings.kernel name) name data).run made = run)
    (hmade : reading name ∉ made.state.history) (others : List Bytes) (succeeded : Bool) :
    let left := (run.2.state.disturb others).log (.own (.remove name) succeeded)
    left.history.count (reading name) = 2 ∧
    ∃ before < left.generation, ∀ quote, run.1 = .ok quote ↔
      (∀ content, .foreign content ∉ betweenReadings name left.history) ∧
        before + 1 ≠ 2 ^ 64 ∧ quote ≠ [] ∧ quote = surroundings.quote data := by
  intro left
  obtain ⟨early, first, second, third, before, hearly, hhistory, hgeneration, hresult⟩ :=
    h.taken hrun
  have hmiddle := reading_notMem_meanwhile name data first second third
  have hbefore : reading name ∉ made.state.history ++ early := by
    simp [hmade, hearly]
  have hleft : left.history = (made.state.history ++ early) ++ reading name ::
      (meanwhile name data first second third ++ reading name ::
        (others.map .foreign ++ [.own (.remove name) succeeded])) := by
    simp [left, SharedEntry.log, hhistory]
  have hlate : reading name ∉ others.map .foreign ++ [.own (.remove name) succeeded] := by
    simp [reading]
  have hgrown : before < left.generation := by
    have hless : before < run.2.state.generation := by omega
    simp only [left, SharedEntry.log, SharedEntry.generation_disturb]
    omega
  refine ⟨?_, before, hgrown, fun quote => ?_⟩
  · rw [hleft, List.count_append, List.count_eq_zero_of_not_mem hbefore, List.count_cons_self,
      List.count_append, List.count_eq_zero_of_not_mem hmiddle, List.count_cons_self,
      List.count_eq_zero_of_not_mem hlate]
  · rw [hleft, betweenReadings_eq hbefore hmiddle, foreign_notMem_meanwhile_iff]
    exact hresult quote

/-- Either no entry could be made, or one was made, a quote is taken from it, and others may write
once more before it is removed. -/
theorem collect_cases (surroundings : Surroundings) (suffix binding : Bytes)
    (start : SharedEntry) :
    let name := entryName suffix
    let run := collect (surroundings.kernel name) suffix binding start
    (¬ run.1.isOk ∧ .own (.make name) false ∈ run.2.state.history) ∨
    ∃ earliest steps others succeeded,
      let made := (start.disturb earliest).log (.own (.make name) true)
      let taken :=
        (takeQuote (surroundings.kernel name) name (reportData binding)).run ⟨made, steps⟩
      run.1 = taken.1 ∧
      run.2.state = (taken.2.state.disturb others).log (.own (.remove name) succeeded) := by
  intro name run
  obtain ⟨earliest, hmake⟩ := surroundings.serve_cases (name = name)
    (fun _ => .make name) (fun entry => ((), entry)) start
  rcases hmake with ⟨error, hmake⟩ | hmake
  · left
    have hkernel : (surroundings.kernel name).make name start =
        (.error error, (start.disturb earliest).log (.own (.make name) false)) := hmake
    obtain ⟨hfailed, hleft⟩ := @collect_of_not_made _ _ suffix binding start error
      (congrArg Prod.fst hkernel)
    refine ⟨hfailed, ?_⟩
    rw [hleft, hkernel]
    exact List.mem_append_right _ List.mem_cons_self
  · right
    have hkernel : (surroundings.kernel name).make name start =
        (.ok (), (start.disturb earliest).log (.own (.make name) true)) := hmake
    have hrun : run = _ := collect_of_made (congrArg Prod.fst hkernel)
    rw [hkernel] at hrun
    generalize htaken : (takeQuote (surroundings.kernel name) name (reportData binding)).run
      ⟨(start.disturb earliest).log (.own (.make name) true), [.make name]⟩ = taken at hrun
    obtain ⟨others, hremove⟩ := surroundings.serve_cases (name = name)
      (fun _ => .remove name) (fun entry => ((), entry)) taken.2.state
    have hleft : ∃ succeeded, ((surroundings.kernel name).remove name taken.2.state).2 =
        (taken.2.state.disturb others).log (.own (.remove name) succeeded) := by
      rcases hremove with ⟨error, hremove⟩ | hremove
      · exact ⟨false, congrArg Prod.snd hremove⟩
      · exact ⟨true, congrArg Prod.snd hremove⟩
    obtain ⟨succeeded, hleft⟩ := hleft
    have hresult : run.1 = taken.1 := by rw [hrun]
    have hstate :
        run.2.state = (taken.2.state.disturb others).log (.own (.remove name) succeeded) := by
      rw [hrun]
      exact hleft
    refine ⟨earliest, [.make name], others, succeeded, ?_⟩
    dsimp only
    rw [htaken]
    exact ⟨hresult, hstate⟩

/-- **A quote that is returned is of our own data, whatever others write.**  The entry is shared as
the kernel shares it, and others write any number of times before any of our operations.  If there
is a quote, it is the quote of the digest of the binding, and nobody else wrote between the two
readings of the counter.  If nobody else wrote between them, every operation succeeded, the
provider is that of a guest, the quote is not empty and the counter stays in range, the quote is
returned. -/
theorem collect_commits_when_shared (surroundings : Surroundings) (suffix binding inblob : Bytes)
    (generation : Nat) :
    let name := entryName suffix
    let run := collect (surroundings.kernel name) suffix binding ⟨inblob, generation, []⟩
    let history := run.2.state.history
    let undisturbed := ∀ content, .foreign content ∉ betweenReadings name history
    let ours := surroundings.quote (Digest.sha512 binding)
    (∀ quote, run.1 = .ok quote →
      quote = ours ∧ history.count (reading name) = 2 ∧ undisturbed) ∧
    (undisturbed → (∀ step, .own step false ∉ history) → surroundings.provider = guestProvider →
      ours ≠ [] → run.2.state.generation < 2 ^ 64 - 1 → run.1 = .ok ours) := by
  intro name run history undisturbed ours
  rcases collect_cases surroundings suffix binding ⟨inblob, generation, []⟩ with
    ⟨hrefused, hfailed⟩ | ⟨earliest, steps, others, succeeded, hresult, hstate⟩
  · refine ⟨fun quote hquote => ?_, fun _ hsucceeded => ?_⟩
    · exact absurd (congrArg Except.isOk hquote) hrefused
    · exact absurd hfailed (hsucceeded _)
  · generalize htaken : ExceptT.run (takeQuote _ _ _) _ = taken at hresult hstate
    have hleft := fun h : surroundings.Smooth taken =>
      h.left htaken (by simp [reading, SharedEntry.log]) others succeeded
    rw [← hstate] at hleft
    refine ⟨fun quote hquote => ?_, fun hcalm hsucceeded hguest hsome hbound => ?_⟩
    · have hok : taken.1 = .ok quote := hresult.symm.trans hquote
      obtain ⟨hcount, before, -, hgiven⟩ := hleft (.inl (by rw [hok]; rfl))
      obtain ⟨hcalm, -, -, rfl⟩ := (hgiven quote).mp hok
      exact ⟨rfl, hcount, hcalm⟩
    · have hgrown : taken.2.state.generation ≤ run.2.state.generation := by
        rw [hstate]
        simp [SharedEntry.log]
      have hkept : taken.2.state.history ⊆ history := by
        have hhistory : history = _ := congrArg SharedEntry.history hstate
        rw [hhistory]
        simp [SharedEntry.log]
      have htook : surroundings.Calm taken.2.state :=
        ⟨fun step hfailed => hsucceeded step (hkept hfailed), hguest, by omega⟩
      obtain ⟨-, before, hbefore, hgiven⟩ := hleft (.inr htook)
      have hadvanced : before + 1 ≠ 2 ^ 64 := by
        have hless : before < run.2.state.generation := hbefore
        omega
      exact hresult.trans ((hgiven ours).mpr ⟨hcalm, hadvanced, hsome, rfl⟩)

/-- Others write before each of our operations, up to the first reading of the counter and again
from the second one on. -/
def busySurroundings : Surroundings where
  provider := guestProvider
  quote content := Text.Utf8.encode "QUOTE" ++ content
  writes history := if history.count (reading (entryName [])) = 1 then [] else [[1], [2, 3]]
  fault? _ := none

/-- Writes of others before the first reading of the counter and behind the second do no harm. -/
theorem collect_of_busySurroundings :
    let run := collect (busySurroundings.kernel (entryName [])) [] [5] ⟨[], 0, []⟩
    (∀ content, .foreign content ∉ betweenReadings (entryName []) run.2.state.history) ∧
    (∀ step, .own step false ∉ run.2.state.history) ∧
    busySurroundings.provider = guestProvider ∧
    busySurroundings.quote (Digest.sha512 [5]) ≠ [] ∧ run.2.state.generation < 2 ^ 64 - 1 ∧
    run.1 = .ok (busySurroundings.quote (Digest.sha512 [5])) := by
  intro run
  have howned : (betweenReadings (entryName []) run.2.state.history).all
      fun access => access matches .own _ _ := by
    decide +kernel
  have hundisturbed : ∀ content,
      .foreign content ∉ betweenReadings (entryName []) run.2.state.history :=
    fun content hforeign => nomatch List.all_eq_true.mp howned _ hforeign
  have hserved : run.2.state.history.all fun access => !(access matches .own _ false) := by
    decide +kernel
  have hsucceeded : ∀ step, .own step false ∉ run.2.state.history :=
    fun step hfailed => nomatch List.all_eq_true.mp hserved _ hfailed
  have hsome : busySurroundings.quote (Digest.sha512 [5]) ≠ [] := by
    simp [busySurroundings, Text.Utf8.encode]
  have hbound : run.2.state.generation < 2 ^ 64 - 1 := by decide +kernel
  exact ⟨hundisturbed, hsucceeded, rfl, hsome, hbound,
    (collect_commits_when_shared busySurroundings [] [5] [] 0).2 hundisturbed hsucceeded rfl hsome
      hbound⟩

end Evidence

end AttestedModel
