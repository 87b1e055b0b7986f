import Mathlib.Data.List.Forall2
import AttestedModel.Evidence.Report

/-!
# What is done with a report entry

A call for a quote makes an entry, works through a fixed list of operations on it
until one fails or gives something that is refused, and removes the entry.  This
holds whatever the kernel answers (`collect_removes_entry`).  What is written is the
SHA-512 digest of what the quote is bound to (`collect_commits`).

What is done between making and removing is said by a small machine beside the
program (`performed`), which knows nothing of results and texts of errors.  That the
program follows it (`Follows`) passes from the rest of a chain to the chain, one
operation at a time.
-/

namespace AttestedModel.Evidence

section Uses

variable {σ α β : Type}

/-- A use goes on after a use that succeeds. -/
theorem run_bind (use : Use σ α) (next : α → Use σ β) (trace : Trace σ) :
    (use >>= next).run trace = match use.run trace with
      | (.ok a, trace) => (next a).run trace
      | (.error failure, trace) => (.error failure, trace) := by
  show (ExceptT.bindCont next (use.run trace).1) (use.run trace).2 = _
  cases use.run trace with
  | mk result trace => cases result <;> rfl

/-- One step is noted, and its answer is that of the kernel. -/
theorem run_ask (step : Except OsError α → Step) (action : σ → Except OsError α × σ)
    (describe : String) (trace : Trace σ) :
    let answer := action trace.state
    (ask step action describe).run trace =
      (answer.1.mapError fun e => unavailable s!"{describe}: {e.message}",
        { state := answer.2, steps := trace.steps ++ [step answer.1] }) := by
  have hget : (get : Use σ (Trace σ)).run trace = (.ok trace, trace) := rfl
  unfold ask
  rw [run_bind, hget]
  dsimp only
  rcases action trace.state with ⟨_ | _, state⟩ <;> rfl

end Uses

/-- What is done with an entry that is there. -/
inductive Operation
  | read (part : Attribute)
  | write
deriving DecidableEq, Repr

/-- The operations between making an entry and removing it, in their order. -/
def plan : List Operation :=
  [.read .provider, .read .generation, .write, .read .outblob, .read .generation]

/-- The counter that the content of the attribute writes. -/
def counter (content : Bytes) : Except Text.Integer.Fault Nat :=
  Text.Integer.natural (Nat.pow 2 64 - 1) (Text.trim (Text.Utf8.decodeLossy content))

namespace Operation

/-- What is read is accepted as it stands, if it is looked at where it is read: the provider must be
that of a guest, and the counter a number.  A quote is looked at only when everything is done. -/
def accepts : Operation → Bytes → Bool
  | read .provider, content => Text.trim (Text.Utf8.decodeLossy content) = guestProvider
  | read .generation, content => (counter content).isOk
  | read .outblob, _ => true
  | write, _ => true

variable {σ : Type} (kernel : Kernel σ) (entry : String) (data : Bytes)

/-- How the kernel answers an operation.  A write that is accepted gives nothing. -/
def perform : Operation → σ → Except OsError Bytes × σ
  | read part, state => kernel.read entry part state
  | write, state =>
    ((kernel.write entry data state).1.map fun _ => [], (kernel.write entry data state).2)

/-- The step that an operation is, by the answer of the kernel. -/
def step (answer : Except OsError Bytes) : Operation → Step
  | read part => .read entry part
  | write => .write entry data answer.isOk

/-- An operation does not fail, and what it gives is accepted. -/
def passes (operation : Operation) (state : σ) : Bool :=
  match (operation.perform kernel entry data state).1 with
  | .ok content => operation.accepts content
  | .error _ => false

end Operation

variable {σ α : Type}

/-- The steps from a state on: one for each operation up to the first that does not pass, that one
included. -/
def performed (kernel : Kernel σ) (entry : String) (data : Bytes) : List Operation → σ → List Step
  | [], _ => []
  | operation :: operations, state =>
    let (answer, after) := operation.perform kernel entry data state
    operation.step entry data answer ::
      if operation.passes kernel entry data state then
        performed kernel entry data operations after
      else []

/-- The steps are those of the first operations, all of them on the entry. -/
theorem forall₂_performed (kernel : Kernel σ) (entry : String) (data : Bytes)
    (operations : List Operation) (state : σ) :
    let steps := performed kernel entry data operations state
    List.Forall₂ (fun operation step => ∃ answer, step = operation.step entry data answer)
      (operations.take steps.length) steps := by
  induction operations generalizing state with
  | nil => exact .nil
  | cons operation operations ih =>
      simp only [performed]
      split
      · exact .cons ⟨_, rfl⟩ (ih _)
      · exact .cons ⟨_, rfl⟩ .nil

/-- Every step that is performed is one of an operation on the entry. -/
theorem exists_of_mem_performed {kernel : Kernel σ} {entry : String} {data : Bytes}
    {operations : List Operation} {state : σ} {step : Step}
    (h : step ∈ performed kernel entry data operations state) :
    ∃ operation : Operation, ∃ answer, step = operation.step entry data answer := by
  have hall := forall₂_performed kernel entry data operations state
  generalize performed kernel entry data operations state = steps at h hall
  obtain ⟨i, hi, rfl⟩ := List.getElem_of_mem h
  have hoperation : i < (operations.take steps.length).length := by
    rw [hall.length_eq]
    exact hi
  exact ⟨_, hall.get hoperation hi⟩

/-- From a state on all operations pass, one after the other. -/
def passed (kernel : Kernel σ) (entry : String) (data : Bytes) : List Operation → σ → Bool
  | [], _ => true
  | operation :: operations, state =>
    operation.passes kernel entry data state &&
      passed kernel entry data operations (operation.perform kernel entry data state).2

/-- If all operations pass, each of them has been performed and has succeeded. -/
theorem step_mem_performed {kernel : Kernel σ} {entry : String} {data : Bytes}
    {operations : List Operation} {state : σ}
    (hpassed : passed kernel entry data operations state) :
    ∀ operation ∈ operations, ∃ content,
      operation.step entry data (.ok content) ∈ performed kernel entry data operations state := by
  induction operations generalizing state with
  | nil => exact nofun
  | cons operation operations ih =>
      simp only [passed, Bool.and_eq_true] at hpassed
      obtain ⟨hfirst, hrest⟩ := hpassed
      intro other hother
      simp only [performed, if_pos hfirst]
      rcases List.mem_cons.mp hother with rfl | hother
      · simp only [Operation.passes] at hfirst
        cases hanswer : (other.perform kernel entry data state).1 with
        | ok content => exact ⟨content, List.mem_cons_self⟩
        | error e => simp [hanswer] at hfirst
      · obtain ⟨content, hmem⟩ := ih hrest other hother
        exact ⟨content, List.mem_cons_of_mem _ hmem⟩

/-- Reading the counter is asking for its attribute.  What is read is refused with a report, or the
number that it writes is passed on. -/
theorem readGeneration_bind_eq (kernel : Kernel σ) (entry : String) (next : Nat → Use σ α) :
    ∃ (describe : String) (behind : Bytes → Use σ α),
      (readGeneration kernel entry >>= next =
        ask (fun _ => .read entry .generation) (kernel.read entry .generation) describe >>= behind) ∧
      (∀ content, (Operation.read .generation).accepts content →
        ∃ n, counter content = .ok n ∧ behind content = next n) ∧
      ∀ content, ¬ (Operation.read .generation).accepts content →
        ∃ detail, behind content = throw (unavailable detail) := by
  refine ⟨_, _, bind_assoc .., fun content haccepted => ?_, fun content hrefused => ?_⟩
  · simp only [Operation.accepts, counter] at haccepted ⊢
    split
    · rename_i n hn
      exact ⟨n, hn, pure_bind ..⟩
    · rename_i fault hfault
      simp [hfault, Except.isOk, Except.toBool] at haccepted
  · simp only [Operation.accepts, counter] at hrefused
    split
    · rename_i n hn
      simp [hn, Except.isOk, Except.toBool] at hrefused
    · exact ⟨_, rfl⟩

/-- A use of the kernel that adds the steps of these operations, until one does not pass, and that
succeeds only if all of them pass. -/
def Follows (kernel : Kernel σ) (entry : String) (data : Bytes) (operations : List Operation)
    (use : Use σ α) : Prop :=
  ∀ trace,
    (use.run trace).2.steps = trace.steps ++ performed kernel entry data operations trace.state ∧
    ((use.run trace).1.isOk → passed kernel entry data operations trace.state)

variable {kernel : Kernel σ} {entry : String} {data : Bytes} {operations : List Operation}

/-- A result takes no operation. -/
theorem follows_pure (a : α) : Follows kernel entry data [] (pure a : Use σ α) :=
  fun _ => ⟨(List.append_nil _).symm, fun _ => rfl⟩

/-- A failure takes no operation. -/
theorem follows_throw (failure : Failure) :
    Follows kernel entry data [] (throw failure : Use σ α) :=
  fun _ => ⟨(List.append_nil _).symm, fun _ => rfl⟩

/-- A use that fails at once. -/
def Fails (use : Use σ α) : Prop :=
  ∃ failure, ∀ trace, use.run trace = (.error failure, trace)

theorem fails_throw (failure : Failure) : Fails (throw failure : Use σ α) :=
  ⟨failure, fun _ => rfl⟩

/-- An operation that passes leads to the rest, and one that does not to the end. -/
theorem Follows.ask_bind {β : Type} {step : Except OsError β → Step}
    {action : σ → Except OsError β × σ} {describe : String} {next : β → Use σ α}
    (operation : Operation) (read : β → Bytes)
    (hperform : ∀ state, operation.perform kernel entry data state =
      ((action state).1.map read, (action state).2))
    (hstep : ∀ answer, step answer = operation.step entry data (answer.map read))
    (hpassed : ∀ b, operation.accepts (read b) → Follows kernel entry data operations (next b))
    (hrefused : ∀ b, ¬ operation.accepts (read b) → Fails (next b)) :
    Follows kernel entry data (operation :: operations) (ask step action describe >>= next) := by
  intro trace
  rw [run_bind, run_ask, performed, passed, Operation.passes, hperform, hstep]
  cases hanswer : action trace.state with
  | mk answer state =>
      cases answer with
      | error e => exact ⟨rfl, nofun⟩
      | ok b =>
          by_cases haccepted : operation.accepts (read b)
          · obtain ⟨hsteps, hok⟩ := hpassed b haccepted ⟨state, trace.steps ++ [step (.ok b)]⟩
            rw [hstep] at hsteps hok
            simp only [Except.map, haccepted, if_true, Bool.true_and]
            exact ⟨hsteps.trans (List.append_assoc ..), hok⟩
          · obtain ⟨failure, hfails⟩ := hrefused b haccepted
            simp only [Except.map, Except.mapError, haccepted, hfails]
            exact ⟨rfl, nofun⟩

/-- A read is the next operation if the rest follows what is accepted and fails on what is not. -/
theorem Follows.read_bind {part : Attribute} {describe : String} {next : Bytes → Use σ α}
    (hpassed : ∀ content, (Operation.read part).accepts content →
      Follows kernel entry data operations (next content))
    (hrefused : ∀ content, ¬ (Operation.read part).accepts content → Fails (next content)) :
    Follows kernel entry data (.read part :: operations)
      (ask (fun _ => .read entry part) (kernel.read entry part) describe >>= next) := by
  have hmap : ∀ answer : Except OsError Bytes, answer.map id = answer := by
    intro answer
    cases answer <;> rfl
  refine .ask_bind (.read part) id (fun state => ?_) (fun _ => rfl) hpassed hrefused
  rw [hmap]
  rfl

/-- A write is the next operation if the rest follows it. -/
theorem Follows.write_bind {describe : String} {next : Unit → Use σ α}
    (hnext : Follows kernel entry data operations (next ())) :
    Follows kernel entry data (.write :: operations)
      (ask (fun answer => .write entry data answer.isOk) (kernel.write entry data) describe >>=
        next) := by
  refine .ask_bind .write (fun _ => []) (fun state => rfl) (fun answer => ?_) (fun _ _ => hnext)
    fun _ hrefused => absurd rfl hrefused
  cases answer <;> rfl

/-- A check behind the last operation may fail. -/
theorem Follows.unless {use : Use σ α} (h : Follows kernel entry data [] use) {refused : Prop}
    [Decidable refused] (failure : Failure) :
    Follows kernel entry data [] (if refused then do throw failure; use else use) := by
  split
  · exact follows_throw failure
  · exact h

/-- Reading the counter is the next operation if the rest follows for every counter. -/
theorem Follows.readGeneration_bind {next : Nat → Use σ α}
    (hnext : ∀ n, Follows kernel entry data operations (next n)) :
    Follows kernel entry data (.read .generation :: operations)
      (readGeneration kernel entry >>= next) := by
  obtain ⟨describe, behind, heq, hpassed, hrefused⟩ := readGeneration_bind_eq kernel entry next
  rw [heq]
  refine .read_bind (fun content haccepted => ?_) fun content hnone => ?_
  · obtain ⟨n, -, hbehind⟩ := hpassed content haccepted
    rw [hbehind]
    exact hnext n
  · obtain ⟨detail, hbehind⟩ := hrefused content hnone
    rw [hbehind]
    exact fails_throw _

/-- Taking a quote follows the plan. -/
theorem follows_takeQuote (kernel : Kernel σ) (entry : String) (data : Bytes) :
    Follows kernel entry data plan (takeQuote kernel entry data) := by
  refine .read_bind (fun content haccepted => ?_) fun content hrefused => ?_
  · rw [if_neg (by simpa [Operation.accepts] using haccepted)]
    refine .readGeneration_bind fun before => .write_bind (.read_bind (fun quote _ => ?_) ?_)
    · refine .readGeneration_bind fun after => .unless (.unless (.unless ?_ _) _) _
      exact follows_pure quote
    · exact fun _ hrefused => absurd rfl hrefused
  · rw [if_pos (by simpa [Operation.accepts] using hrefused)]
    exact fails_throw _

section Calls

variable {suffix binding : Bytes} {state : σ}

/-- Without an entry a call makes one step and fails. -/
theorem collect_of_not_made {error : OsError}
    (h : (kernel.make (entryName suffix) state).1 = .error error) :
    let entry := entryName suffix
    let run := collect kernel suffix binding state
    ¬ run.1.isOk ∧ run.2 = ⟨(kernel.make entry state).2, [.make entry]⟩ := by
  simp only [collect]
  rw [run_ask, h]
  exact ⟨nofun, rfl⟩

/-- With an entry a call takes a quote from it, removes it, and gives what was taken. -/
theorem collect_of_made (h : (kernel.make (entryName suffix) state).1 = .ok ()) :
    let entry := entryName suffix
    let taken := (takeQuote kernel entry (reportData binding)).run
      ⟨(kernel.make entry state).2, [.make entry]⟩
    collect kernel suffix binding state =
      (taken.1, ⟨(kernel.remove entry taken.2.state).2, taken.2.steps ++ [.remove entry]⟩) := by
  simp only [collect]
  rw [run_ask, h]
  rfl

end Calls

/-- **Every entry that is made is removed, and no other.**  If no entry can be made, that is all.
If one is made, the operations of the plan follow, on that entry, up to the first that fails or
gives something that is refused, and then the entry is removed, which is the last step.  This is so
on every way out, also where the call crashes.  Whether the removal fails does not matter for what
the call gives. -/
theorem collect_removes_entry (kernel : Kernel σ) (suffix binding : Bytes) (state : σ) :
    let entry := entryName suffix
    let data := reportData binding
    let run := collect kernel suffix binding state
    let steps := performed kernel entry data plan (kernel.make entry state).2
    (∀ error, (kernel.make entry state).1 = .error error → run.2.steps = [.make entry]) ∧
    ((kernel.make entry state).1 = .ok () →
      run.2.steps = .make entry :: (steps ++ [.remove entry]) ∧
      List.Forall₂ (fun operation step => ∃ answer, step = operation.step entry data answer)
        (plan.take steps.length) steps) ∧
    ∀ remove, (collect { kernel with remove } suffix binding state).1 = run.1 := by
  intro entry data run steps
  refine ⟨fun error hfailed => ?_, fun hmade => ⟨?_, forall₂_performed ..⟩, fun remove => ?_⟩
  · exact congrArg Trace.steps (collect_of_not_made hfailed).2
  · have hrun : run = _ := collect_of_made hmade
    have htaken := follows_takeQuote kernel entry data ⟨(kernel.make entry state).2, [.make entry]⟩
    rw [hrun]
    dsimp only
    rw [htaken.1]
    rfl
  · -- the entry is removed when the result stands
    simp only [run, collect]
    rw [run_ask]
    cases (kernel.make (entryName suffix) state).1 with
    | error e => rfl
    | ok _ => rfl

/-- What is written into an entry is the data. -/
def Step.Writes (data : Bytes) (step : Step) : Prop :=
  ∀ entry content accepted, step = .write entry content accepted → content = data

/-- **A quote of the kernel commits to the digest of its binding.**  Nothing but the digest is
written, into whatever entry, and if there is a quote, the digest has been accepted. -/
theorem collect_commits (kernel : Kernel σ) (suffix binding : Bytes) (state : σ) :
    let run := collect kernel suffix binding state
    (∀ step ∈ run.2.steps, step.Writes (Digest.sha512 binding)) ∧
      ∀ quote, run.1 = .ok quote →
        .write (entryName suffix) (Digest.sha512 binding) true ∈ run.2.steps := by
  intro run
  cases hmade : (kernel.make (entryName suffix) state).1 with
  | error e =>
      obtain ⟨hfailed, hsteps⟩ := @collect_of_not_made _ _ _ binding _ _ hmade
      refine ⟨fun step hstep => ?_, fun quote hquote => ?_⟩
      · rw [hsteps] at hstep
        obtain rfl := List.mem_singleton.mp hstep
        exact nofun
      · exact absurd (congrArg Except.isOk hquote) hfailed
  | ok _ =>
      have hrun : run = _ := collect_of_made hmade
      obtain ⟨hsteps, hpassed⟩ := follows_takeQuote kernel (entryName suffix) (reportData binding)
        ⟨(kernel.make (entryName suffix) state).2, [.make (entryName suffix)]⟩
      rw [hrun]
      dsimp only
      rw [hsteps]
      refine ⟨fun step hstep => ?_, fun quote hquote => ?_⟩
      · rcases List.mem_append.mp hstep with hstep | hstep
        · rcases List.mem_append.mp hstep with hstep | hstep
          · obtain rfl := List.mem_singleton.mp hstep
            exact nofun
          · obtain ⟨operation, answer, rfl⟩ := exists_of_mem_performed hstep
            cases operation with
            | read part => exact nofun
            | write =>
                rintro _ _ _ ⟨⟩
                rfl
        · obtain rfl := List.mem_singleton.mp hstep
          exact nofun
      · obtain ⟨content, hwritten⟩ := step_mem_performed (hpassed (congrArg Except.isOk hquote))
          .write (by decide)
        exact List.mem_append_left _ (List.mem_append_right _ hwritten)

end AttestedModel.Evidence
