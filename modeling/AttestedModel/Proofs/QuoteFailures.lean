import AttestedModel.Proofs.ReportEntries

/-!
# When there is no quote

A call for a quote gives one that is not empty, or it reports why there is none, or
it crashes.  It crashes only at the very end: everything has been read and accepted,
and the counter was the greatest number that it holds when it was read first, so that
there is no next one to compare the second reading with (`collect_crashes_iff`).

What a call gives is followed along the operations of its plan, as its steps are in
`Follows`.  An operation that does not pass is reported; behind one that passes the
rest of the chain goes on from the state that the kernel is left in (`Gives`).
-/

namespace AttestedModel.Evidence

variable {σ α β : Type}

/-- The greatest number that a counter holds. -/
def greatestCounter : Nat := Nat.pow 2 64 - 1

/-- A report is no crash. -/
theorem unavailable_ne_crashed (detail : String) :
    (.error (unavailable detail) : Except Failure α) ≠ .error .crashed := by
  simp [unavailable]

/-- A use that reports at once that there is no evidence. -/
def Reports (use : Use σ α) : Prop :=
  ∃ detail, ∀ trace, use.run trace = (.error (unavailable detail), trace)

/-- A use that fails for lack of evidence reports it. -/
theorem reports_throw (detail : String) : Reports (throw (unavailable detail) : Use σ α) :=
  ⟨detail, fun _ => rfl⟩

/-- A use of the kernel in a state that gives a result of a kind if all of these operations pass,
and reports that there is no evidence if one does not. -/
def Gives (kernel : Kernel σ) (entry : String) (data : Bytes) (operations : List Operation)
    (state : σ) (kind : Except Failure α → Prop) (use : Use σ α) : Prop :=
  ∀ steps,
    (passed kernel entry data operations state → kind (use.run ⟨state, steps⟩).1) ∧
    (¬ passed kernel entry data operations state →
      ∃ detail, (use.run ⟨state, steps⟩).1 = .error (unavailable detail))

variable {kernel : Kernel σ} {entry : String} {data : Bytes} {operations : List Operation}
  {state : σ} {kind : Except Failure α → Prop}

/-- Behind the last operation, a result of the kind is given. -/
theorem gives_pure {a : α} (h : kind (.ok a)) :
    Gives kernel entry data [] state kind (pure a : Use σ α) :=
  fun _ => ⟨fun _ => h, fun hrefused => absurd rfl hrefused⟩

/-- A check behind the last operation decides between two results. -/
theorem Gives.unless {use : Use σ α} {refused : Prop} [Decidable refused] {failure : Failure}
    (hrefused : refused → kind (.error failure))
    (huse : ¬ refused → Gives kernel entry data [] state kind use) :
    Gives kernel entry data [] state kind (if refused then do throw failure; use else use) := by
  split
  · exact fun _ => ⟨fun _ => hrefused ‹_›, fun hnone => absurd rfl hnone⟩
  · exact huse ‹_›

/-- An operation that passes leads to the rest, and one that does not to a report. -/
theorem Gives.ask_bind {step : Except OsError β → Step} {action : σ → Except OsError β × σ}
    {describe : String} {next : β → Use σ α} (operation : Operation) (read : β → Bytes)
    (hperform : operation.perform kernel entry data state =
      ((action state).1.map read, (action state).2))
    (hpassed : ∀ b after, action state = (.ok b, after) → operation.accepts (read b) →
      Gives kernel entry data operations after kind (next b))
    (hrefused : ∀ b, ¬ operation.accepts (read b) → Reports (next b)) :
    Gives kernel entry data (operation :: operations) state kind
      (ask step action describe >>= next) := by
  intro steps
  rw [run_bind, run_ask, passed, Operation.passes, hperform]
  cases hanswer : action state with
  | mk answer after =>
      cases answer with
      | error e => exact ⟨fun hall => absurd hall Bool.false_ne_true, fun _ => ⟨_, rfl⟩⟩
      | ok b =>
          by_cases haccepted : operation.accepts (read b)
          · simp only [Except.map, haccepted, Bool.true_and]
            exact hpassed b after hanswer haccepted _
          · obtain ⟨detail, hreports⟩ := hrefused b haccepted
            simp only [Except.map, Except.mapError, haccepted, hreports]
            exact ⟨fun hall => absurd hall Bool.false_ne_true, fun _ => ⟨detail, rfl⟩⟩

/-- A read that is refused leads to a report, and one that is accepted to the rest. -/
theorem Gives.read_bind {part : Attribute} {describe : String} {next : Bytes → Use σ α}
    (hpassed : ∀ content after, kernel.read entry part state = (.ok content, after) →
      (Operation.read part).accepts content →
      Gives kernel entry data operations after kind (next content))
    (hrefused : ∀ content, ¬ (Operation.read part).accepts content → Reports (next content)) :
    Gives kernel entry data (.read part :: operations) state kind
      (ask (fun _ => .read entry part) (kernel.read entry part) describe >>= next) := by
  refine .ask_bind (.read part) id ?_ hpassed hrefused
  rw [Except.map_id]
  rfl

/-- A write that is done leads to the rest, whatever it leaves behind. -/
theorem Gives.write_bind {describe : String} {next : Unit → Use σ α}
    (hnext : ∀ after, Gives kernel entry data operations after kind (next ())) :
    Gives kernel entry data (.write :: operations) state kind
      (ask (fun answer => .write entry data answer.isOk) (kernel.write entry data) describe >>=
        next) :=
  .ask_bind .write (fun _ => []) rfl (fun _ after _ _ => hnext after)
    fun _ hrefused => absurd rfl hrefused

/-- The counter is handed on where it can be read, and reported where it cannot. -/
theorem Gives.readGeneration_bind {next : Nat → Use σ α}
    (hnext : ∀ content n after, kernel.read entry .generation state = (.ok content, after) →
      counter content = .ok n → Gives kernel entry data operations after kind (next n)) :
    Gives kernel entry data (.read .generation :: operations) state kind
      (readGeneration kernel entry >>= next) := by
  obtain ⟨describe, behind, heq, hpassed, hrefused⟩ := readGeneration_bind_eq kernel entry next
  rw [heq]
  refine .read_bind (fun content after hread haccepted => ?_) fun content hnone => ?_
  · obtain ⟨n, hn, hbehind⟩ := hpassed content haccepted
    rw [hbehind]
    exact hnext content n after hread hn
  · obtain ⟨detail, hbehind⟩ := hrefused content hnone
    rw [hbehind]
    exact reports_throw detail

/-- What the kernel gives for the counter of an entry when it is read first. -/
def firstReading (kernel : Kernel σ) (entry : String) (state : σ) : Except OsError Bytes :=
  (kernel.read entry .generation (kernel.read entry .provider state).2).1

/-- What becomes of a call for which everything has been read, by the first number of the
counter. -/
inductive Verdict (before : Nat) : Except Failure Bytes → Prop
  | crashed (full : before = greatestCounter) : Verdict before (.error .crashed)
  | refused (room : before ≠ greatestCounter) (detail : String) :
      Verdict before (.error (unavailable detail))
  | given (room : before ≠ greatestCounter) {quote : Bytes} (some : quote ≠ []) :
      Verdict before (.ok quote)

/-- Only the greatest counter crashes the use. -/
theorem Verdict.crashed_iff {before : Nat} {result : Except Failure Bytes}
    (h : Verdict before result) : result = .error .crashed ↔ before = greatestCounter := by
  cases h with
  | crashed full => exact iff_of_true rfl full
  | refused room detail => exact iff_of_false (unavailable_ne_crashed detail) room
  | given room some => exact iff_of_false nofun room

/-- There is a quote, a report or a crash, and nothing else. -/
theorem Verdict.ends {before : Nat} {result : Except Failure Bytes} (h : Verdict before result) :
    (∃ quote, quote ≠ [] ∧ result = .ok quote) ∨
      (∃ detail, result = .error (unavailable detail)) ∨ result = .error .crashed := by
  cases h with
  | crashed full => exact .inr (.inr rfl)
  | refused room detail => exact .inr (.inl ⟨detail, rfl⟩)
  | @given room quote some => exact .inl ⟨quote, some, rfl⟩

/-- If all operations of the plan pass, the first number of the counter decides. -/
theorem gives_takeQuote (kernel : Kernel σ) (entry : String) (data : Bytes) (state : σ) :
    Gives kernel entry data plan state
      (fun result => ∃ content before, firstReading kernel entry state = .ok content ∧
        counter content = .ok before ∧ Verdict before result)
      (takeQuote kernel entry data) := by
  refine .read_bind (fun provider reading hprovider haccepted => ?_) fun provider hrefused => ?_
  · rw [if_neg (by simpa [Operation.accepts] using haccepted)]
    refine .readGeneration_bind fun content before _ hread hbefore => .write_bind fun _ =>
      .read_bind (fun quote _ _ _ => ?_) fun _ hrefused => absurd rfl hrefused
    have hfirst : firstReading kernel entry state = .ok content := by
      rw [firstReading, hprovider, hread]
    have hfull : before + 1 = Nat.pow 2 64 ↔ before = greatestCounter := by
      have hpositive : 0 < Nat.pow 2 64 := by decide
      rw [greatestCounter]
      omega
    -- the number behind the first one is needed before the two readings are compared
    refine .readGeneration_bind fun _ after _ _ _ => .unless (fun hcrash => ?_) fun hroom =>
      .unless (fun _ => ?_) fun _ => .unless (fun _ => ?_) fun hsome => gives_pure ?_
    · exact ⟨content, before, hfirst, hbefore, .crashed (hfull.mp hcrash)⟩
    · exact ⟨content, before, hfirst, hbefore, .refused (mt hfull.mpr hroom) _⟩
    · exact ⟨content, before, hfirst, hbefore, .refused (mt hfull.mpr hroom) _⟩
    · exact ⟨content, before, hfirst, hbefore, .given (mt hfull.mpr hroom) (by simpa using hsome)⟩
  · rw [if_pos (by simpa [Operation.accepts] using hrefused)]
    exact reports_throw _

/-- **When a call for a quote crashes.**  It does so exactly if an entry is made, all operations of
the plan pass, and the counter is the greatest one when it is read first.  In every other case there
is a quote that is not empty, or the evidence is reported as unavailable. -/
theorem collect_crashes_iff (kernel : Kernel σ) (suffix binding : Bytes) (state : σ) :
    let entry := entryName suffix
    let made := kernel.make entry state
    let result := (collect kernel suffix binding state).1
    (result = .error .crashed ↔
      made.1 = .ok () ∧ passed kernel entry (reportData binding) plan made.2 ∧
        ∃ content, firstReading kernel entry made.2 = .ok content ∧
          counter content = .ok greatestCounter) ∧
    ((∃ quote, quote ≠ [] ∧ result = .ok quote) ∨
      (∃ detail, result = .error (unavailable detail)) ∨ result = .error .crashed) := by
  intro entry made result
  cases hmade : made.1 with
  | error e =>
      have hresult : ∃ detail, result = .error (unavailable detail) := by
        simp only [result, collect]
        rw [run_ask, show (kernel.make (entryName suffix) state).1 = _ from hmade]
        exact ⟨_, rfl⟩
      obtain ⟨detail, hresult⟩ := hresult
      rw [hresult]
      exact ⟨iff_of_false (unavailable_ne_crashed detail) (by simp), .inr (.inl ⟨detail, rfl⟩)⟩
  | ok _ =>
      have hrun : result = ((takeQuote kernel entry (reportData binding)).run
          ⟨made.2, [.make entry]⟩).1 := by
        have hcollect : collect kernel suffix binding state = _ := collect_of_made hmade
        simp only [result, hcollect]
        rfl
      obtain ⟨hpassed, hrefused⟩ :=
        gives_takeQuote kernel entry (reportData binding) made.2 [.make entry]
      rw [← hrun] at hpassed hrefused
      by_cases hall : passed kernel entry (reportData binding) plan made.2
      · obtain ⟨content, before, hfirst, hbefore, hverdict⟩ := hpassed hall
        have hcounter : (∃ content, firstReading kernel entry made.2 = .ok content ∧
            counter content = .ok greatestCounter) ↔ before = greatestCounter := by
          simp [hfirst, hbefore]
        rw [hcounter]
        refine ⟨⟨fun hcrashed => ⟨rfl, hall, ?_⟩, fun h => ?_⟩, hverdict.ends⟩
        · exact hverdict.crashed_iff.mp hcrashed
        · exact hverdict.crashed_iff.mpr h.2.2
      · obtain ⟨detail, hresult⟩ := hrefused hall
        rw [hresult]
        exact ⟨iff_of_false (unavailable_ne_crashed detail) fun h => hall h.2.1,
          .inr (.inl ⟨detail, rfl⟩)⟩

/-- A kernel whose counter stays at the greatest number. -/
def fullKernel : Kernel Unit where
  make _ world := (.ok (), world)
  read _ part world := (.ok (Text.Utf8.encode (match part with
    | .provider => guestProvider ++ "\n"
    | .generation => toString greatestCounter ++ "\n"
    | .outblob => "QUOTE")), world)
  write _ _ world := (.ok (), world)
  remove _ world := (.ok (), world)

/-- There is neither a quote nor a report for a counter that is the greatest number. -/
theorem collect_fullKernel_crashes :
    let result := (collect fullKernel [0, 1, 2, 3, 4, 5, 6, 7] (Text.Utf8.encode "cHVia2V5") ()).1
    result = .error .crashed ∧
      ¬ ((∃ quote, quote ≠ [] ∧ result = .ok quote) ∨
        ∃ detail, result = .error (unavailable detail)) := by
  intro result
  have hcrashed : result = .error .crashed := by decide +kernel
  rw [hcrashed]
  exact ⟨rfl, by simp [unavailable]⟩

end AttestedModel.Evidence
