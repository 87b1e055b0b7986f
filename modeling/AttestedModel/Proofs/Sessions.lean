import AttestedModel.Session

/-!
# Actions taken apart

An action that runs one step after the other is done exactly if each of its
steps is (`bind_eq_done_iff`).

An action that `Keeps` the store leaves the disk and the retrieved model alone,
however it ends and however the world answers.  Time, cancellations, deadlines
and events are no part of the store, so every primitive of a session keeps it,
and so does what is built from them.
-/

namespace AttestedModel.Action

variable {σ α β : Type} {s t : Session σ}

@[simp] theorem pure_apply (a : α) : (pure a : Action σ α) s = (.done a, s) :=
  rfl

/-- Behind a step that is done the chain goes on with its result. -/
theorem bind_of_done {action : Action σ α} {a : α} (next : α → Action σ β)
    (h : action s = (.done a, t)) : (action >>= next) s = next a t := by
  simp only [bind, h]

/-- A chain is done exactly if its first step is, and the rest from there. -/
theorem bind_eq_done_iff {action : Action σ α} {next : α → Action σ β} {b : β} :
    (action >>= next) s = (.done b, t) ↔
      ∃ a u, action s = (.done a, u) ∧ next a u = (.done b, t) := by
  cases hrun : action s with
  | mk outcome u =>
      cases outcome <;> simp [bind, hrun, and_assoc]

/-- A chain is the same however its steps are put together. -/
theorem bind_assoc {γ : Type} (action : Action σ α) (next : α → Action σ β)
    (last : β → Action σ γ) :
    (action >>= next) >>= last = action >>= fun a => next a >>= last := by
  funext s
  cases hrun : action s with
  | mk outcome t => cases outcome <;> simp only [bind, hrun]

/-- An action in a session is done in one way only. -/
theorem done_unique {action : Action σ α} {a b : α} {u : Session σ}
    (h : action s = (.done a, t)) (h' : action s = (.done b, u)) : a = b ∧ t = u := by
  rw [h] at h'
  exact ⟨Outcome.done.inj (Prod.mk.inj h').1, (Prod.mk.inj h').2⟩

/-- A chain ends where its first step ends, unless that is done: then the rest goes on there. -/
theorem bind_ends (action : Action σ α) (next : α → Action σ β) (s : Session σ) :
    ((action >>= next) s).2 = (action s).2 ∨
      ∃ a t, action s = (.done a, t) ∧ (action >>= next) s = next a t := by
  cases hrun : action s with
  | mk outcome t =>
      cases outcome with
      | done a => exact .inr ⟨a, t, rfl, bind_of_done next hrun⟩
      | failed e => exact .inl (by simp only [bind, hrun])
      | never => exact .inl (by simp only [bind, hrun])

/-- A chain whose rest leaves every session as it is ends where its first step ends. -/
theorem bind_snd_of_rest {action : Action σ α} {next : α → Action σ β}
    (h : ∀ a u, (next a u).2 = u) (s : Session σ) :
    ((action >>= next) s).2 = (action s).2 := by
  rcases bind_ends action next s with hend | ⟨a, t, hdone, hrest⟩
  · exact hend
  · rw [hrest, hdone, h a t]

/-- Nothing but the result of a step is discarded. -/
theorem discard_bind (action : Action σ α) (next : Unit → Action σ β) (s : Session σ) :
    (discard action >>= next) s = (action >>= fun _ => next ()) s := by
  cases hrun : action s with
  | mk outcome t =>
      cases outcome <;> simp only [discard, Functor.discard, Functor.mapConst, bind,
        Function.comp, Function.const, hrun]

/-- Noting an event cannot fail. -/
theorem note_bind (event : Event) (next : Unit → Action σ β) :
    (note event >>= next) s = next () { s with events := s.events ++ [event] } :=
  rfl

/-- Asking the world cannot fail; what it answers may be a failure of its own. -/
theorem ask_bind (answer : σ → α × σ) (next : α → Action σ β) :
    (ask answer >>= next) s = next (answer s.world).1 { s with world := (answer s.world).2 } :=
  rfl

theorem now_bind (next : Nat → Action σ β) : (now >>= next) s = next s.now s :=
  rfl

@[simp] theorem ofExcept_ok (a : α) : ofExcept (.ok a) s = (.done a, s) :=
  rfl

@[simp] theorem ofExcept_error (e : LoadError) :
    (ofExcept (.error e) : Action σ α) s = (.failed e, s) :=
  rfl

/-- To look at a result changes nothing. -/
theorem ofExcept_snd (result : Except LoadError α) (s : Session σ) :
    (ofExcept result s).2 = s := by
  cases result <;> rfl

/-- An action that ends as a result says is done if the result is there, and changes nothing. -/
theorem ofExcept_eq_done_iff {result : Except LoadError α} {a : α} :
    ofExcept result s = (.done a, t) ↔ result = .ok a ∧ t = s := by
  cases result with
  | error e => simp
  | ok b => simp [eq_comm]

end AttestedModel.Action

namespace AttestedModel

/-- What outlasts a call: the disk and the retrieved model. -/
def Session.store {σ : Type} (s : Session σ) : Disk × Option Bytes :=
  (s.disk, s.retrieved)

/-- The store is the disk and what is kept. -/
theorem Session.store_eq_iff {σ : Type} {s t : Session σ} :
    s.store = t.store ↔ s.disk = t.disk ∧ s.retrieved = t.retrieved :=
  Prod.ext_iff

namespace Action

variable {σ α β : Type}

/-- An action leaves the store alone, however it ends. -/
def Keeps (action : Action σ α) : Prop :=
  ∀ s, (action s).2.store = s.store

theorem keeps_pure (a : α) : Keeps (pure a : Action σ α) :=
  fun _ => rfl

/-- **A chain leaves the store alone if its steps do.** -/
theorem Keeps.bind {action : Action σ α} {next : α → Action σ β} (h : action.Keeps)
    (hnext : ∀ a, (next a).Keeps) : (action >>= next).Keeps := by
  intro s
  have hfirst := h s
  cases hrun : action s with
  | mk outcome t =>
      rw [hrun] at hfirst
      cases outcome with
      | done a => simpa only [Bind.bind, hrun] using (hnext a t).trans hfirst
      | failed e => simpa only [Bind.bind, hrun] using hfirst
      | never => simpa only [Bind.bind, hrun] using hfirst

theorem keeps_fail (e : LoadError) : Keeps (fail e : Action σ α) :=
  fun _ => rfl

/-- Ending as a result says touches no store. -/
theorem keeps_ofExcept (result : Except LoadError α) : Keeps (ofExcept result : Action σ α) := by
  cases result with
  | error e => exact keeps_fail e
  | ok a => exact keeps_pure a

theorem keeps_note (event : Event) : Keeps (note event : Action σ Unit) :=
  fun _ => rfl

theorem keeps_ask (answer : σ → α × σ) : Keeps (ask answer) :=
  fun _ => rfl

theorem keeps_now : Keeps (now : Action σ Nat) :=
  fun _ => rfl

theorem keeps_cancel : Keeps (cancel : Action σ Unit) :=
  fun _ => rfl

/-- A look at the cancellation touches no store. -/
theorem keeps_failIfCancelled : Keeps (failIfCancelled : Action σ Unit) := by
  intro s
  unfold failIfCancelled
  split <;> rfl

/-- A look at the deadline touches no store. -/
theorem keeps_failIfExpired : Keeps (failIfExpired : Action σ Unit) := by
  intro s
  unfold failIfExpired
  split <;> rfl

/-- A wait touches no store, however it ends. -/
theorem keeps_waitUntil (time : Option Nat) : Keeps (waitUntil time : Action σ Unit) := by
  intro s
  unfold waitUntil
  dsimp only
  split <;> rfl

/-- A limit of time touches no store. -/
theorem Keeps.within {action : Action σ α} (h : action.Keeps) (limit : Option Duration) :
    (within limit action).Keeps :=
  fun s => h { s with deadline := limit.map (s.now + ·.milliseconds) }

/-- An action leaves the store alone unless it is done. -/
def KeepsUnlessDone (action : Action σ α) : Prop :=
  ∀ s, (∃ a, (action s).1 = .done a) ∨ (action s).2.store = s.store

/-- A chain that only its last step lets touch the store touches it only if it is done. -/
theorem Keeps.bind_unlessDone {action : Action σ α} {next : α → Action σ β} (h : action.Keeps)
    (hnext : ∀ a, (next a).KeepsUnlessDone) : (action >>= next).KeepsUnlessDone := by
  intro s
  have hfirst := h s
  cases hrun : action s with
  | mk outcome t =>
      rw [hrun] at hfirst
      simp only [Bind.bind, hrun]
      cases outcome with
      | done a => exact (hnext a t).imp_right fun hrest => hrest.trans hfirst
      | failed e => exact .inr hfirst
      | never => exact .inr hfirst

/-- Steps that are always done may follow one that leaves the store alone unless it is done. -/
theorem KeepsUnlessDone.bind_done {action : Action σ α} {next : α → Action σ β}
    (h : action.KeepsUnlessDone) (hnext : ∀ a s, ∃ b, (next a s).1 = .done b) :
    (action >>= next).KeepsUnlessDone := by
  intro s
  have hfirst := h s
  cases hrun : action s with
  | mk outcome t =>
      rw [hrun] at hfirst
      simp only [Bind.bind, hrun]
      cases outcome with
      | done a => exact .inl (hnext a t)
      | failed e => exact hfirst.imp_left nofun
      | never => exact hfirst.imp_left nofun

end Action

end AttestedModel
