import AttestedModel.Proofs.Sessions

/-!
# Clocks and events

No action turns the clock back or takes an event away.  What an action adds to the
events is kept apart (`Session.since`), and each request to a key broker among it
bears a time between the begin and the end of the action (`Action.Extends`).

Like keeping the store, all this is a property of every primitive and passes from
the steps of a chain to the chain (`Adds.bind`).
-/

namespace AttestedModel

variable {σ α β : Type}

/-- The events of a session since an earlier one. -/
def Session.since (s t : Session σ) : List Event :=
  t.events.drop s.events.length

theorem Session.since_self (s : Session σ) : s.since s = [] :=
  List.drop_length

/-- What was added is what has happened since. -/
theorem Session.since_of_append {s t : Session σ} {new : List Event}
    (h : t.events = s.events ++ new) : s.since t = new := by
  rw [since, h, List.drop_left]

/-- The call has been cancelled by now. -/
def Session.Cancelled (s : Session σ) : Prop :=
  s.cancelledAt.any (· ≤ s.now)

/-- A moment that may be set has come. -/
theorem any_le_iff {time : Option Nat} {now : Nat} :
    time.any (· ≤ now) ↔ ∃ moment, time = some moment ∧ moment ≤ now := by
  cases time <;> simp

/-- A call has been cancelled by now if its moment has come. -/
theorem Session.cancelled_iff {s : Session σ} :
    s.Cancelled ↔ ∃ moment, s.cancelledAt = some moment ∧ moment ≤ s.now :=
  any_le_iff

/-- What has not been cancelled yet is cancelled later, if at all. -/
theorem Session.lt_of_not_cancelled {s : Session σ} (h : ¬ s.Cancelled) {moment : Nat}
    (hmoment : s.cancelledAt = some moment) : s.now < moment :=
  Nat.lt_of_not_le fun hpast => h (cancelled_iff.mpr ⟨moment, hmoment, hpast⟩)

/-- The requests to key brokers among events, each with the time at which it was sent. -/
def transfers (events : List Event) : List (Nat × Http.Request) :=
  events.filterMap fun
    | .transferred time request => some (time, request)
    | _ => none

@[simp] theorem transfers_nil : transfers [] = [] :=
  rfl

/-- Requests come in the order of the events. -/
@[simp] theorem transfers_append (before after : List Event) :
    transfers (before ++ after) = transfers before ++ transfers after :=
  List.filterMap_append

namespace Action

/-- From one session to another time has passed, if at all, forwards, the deadline is the same,
and these events were added, all of a kind. -/
structure Extends (allowed : Event → Prop) (s t : Session σ) (new : List Event) : Prop where
  events_eq : t.events = s.events ++ new
  now_le : s.now ≤ t.now
  deadline_eq : t.deadline = s.deadline
  allowed : ∀ event ∈ new, allowed event
  stamped : ∀ sent ∈ transfers new, s.now ≤ sent.1 ∧ sent.1 ≤ t.now

/-- An action that adds only events of a kind, however it ends and however the world answers. -/
def Adds (allowed : Event → Prop) (action : Action σ α) : Prop :=
  ∀ s, ∃ new, Extends allowed s (action s).2 new

variable {allowed : Event → Prop} {s t u : Session σ} {new more : List Event}

theorem Extends.refl (s : Session σ) : Extends allowed s s [] where
  events_eq := (List.append_nil _).symm
  now_le := Nat.le_refl _
  deadline_eq := rfl
  allowed := nofun
  stamped := nofun

/-- One stretch of time behind another is a stretch of time, with the events of both. -/
theorem Extends.trans (h : Extends allowed s t new) (h' : Extends allowed t u more) :
    Extends allowed s u (new ++ more) where
  events_eq := by rw [h'.events_eq, h.events_eq, List.append_assoc]
  now_le := Nat.le_trans h.now_le h'.now_le
  deadline_eq := h'.deadline_eq.trans h.deadline_eq
  allowed := by
    intro event hevent
    exact (List.mem_append.mp hevent).elim (h.allowed event) (h'.allowed event)
  stamped := by
    intro sent hsent
    rw [transfers_append, List.mem_append] at hsent
    rcases hsent with hsent | hsent
    · exact ⟨(h.stamped sent hsent).1, Nat.le_trans (h.stamped sent hsent).2 h'.now_le⟩
    · exact ⟨Nat.le_trans h.now_le (h'.stamped sent hsent).1, (h'.stamped sent hsent).2⟩

/-- What an action adds stands behind what was there. -/
theorem Adds.events_eq {action : Action σ α} (h : Adds allowed action) (s : Session σ) :
    (action s).2.events = s.events ++ s.since (action s).2 := by
  obtain ⟨new, hnew⟩ := h s
  rw [Session.since_of_append hnew.events_eq, hnew.events_eq]

/-- What an action adds is of its kind. -/
theorem Adds.allowed_since {action : Action σ α} (h : Adds allowed action) (s : Session σ) :
    ∀ event ∈ s.since (action s).2, allowed event := by
  obtain ⟨new, hnew⟩ := h s
  rw [Session.since_of_append hnew.events_eq]
  exact hnew.allowed

/-- A step that leaves clock, deadline and events alone adds nothing. -/
theorem extends_of_eq (hevents : t.events = s.events) (hnow : t.now = s.now)
    (hdeadline : t.deadline = s.deadline) : Extends allowed s t [] where
  events_eq := by rw [hevents, List.append_nil]
  now_le := Nat.le_of_eq hnow.symm
  deadline_eq := hdeadline
  allowed := nofun
  stamped := nofun

/-- Events of a narrower kind are of the wider one. -/
theorem Adds.mono {allowed' : Event → Prop} {action : Action σ α} (h : Adds allowed action)
    (himp : ∀ event, allowed event → allowed' event) : Adds allowed' action := by
  intro s
  obtain ⟨new, hnew⟩ := h s
  exact ⟨new, { hnew with allowed := fun event hevent => himp event (hnew.allowed event hevent) }⟩

theorem adds_pure (a : α) : Adds allowed (pure a : Action σ α) :=
  fun s => ⟨[], .refl s⟩

/-- **A chain adds what its steps add.** -/
theorem Adds.bind {action : Action σ α} {next : α → Action σ β} (h : Adds allowed action)
    (hnext : ∀ a, Adds allowed (next a)) : Adds allowed (action >>= next) := by
  intro s
  obtain ⟨new, hfirst⟩ := h s
  cases hrun : action s with
  | mk outcome t =>
      rw [hrun] at hfirst
      simp only [Bind.bind, hrun]
      cases outcome with
      | done a =>
          obtain ⟨more, hrest⟩ := hnext a t
          exact ⟨new ++ more, hfirst.trans hrest⟩
      | failed e => exact ⟨new, hfirst⟩
      | never => exact ⟨new, hfirst⟩

theorem adds_fail (e : LoadError) : Adds allowed (fail e : Action σ α) :=
  fun s => ⟨[], .refl s⟩

theorem adds_ofExcept (result : Except LoadError α) :
    Adds allowed (ofExcept result : Action σ α) := by
  cases result with
  | error e => exact adds_fail e
  | ok a => exact adds_pure a

/-- An event that is no transfer bears no time. -/
theorem adds_note {event : Event} (h : allowed event) (hother : transfers [event] = []) :
    Adds allowed (note event : Action σ Unit) := by
  refine fun s => ⟨[event], rfl, Nat.le_refl _, rfl, ?_, ?_⟩
  · intro other hmem
    rwa [List.mem_singleton.mp hmem]
  · rw [hother]
    exact nofun

/-- The world answers without an event. -/
theorem adds_ask (answer : σ → α × σ) : Adds allowed (ask answer) :=
  fun _ => ⟨[], extends_of_eq rfl rfl rfl⟩

theorem adds_now : Adds allowed (now : Action σ Nat) :=
  fun s => ⟨[], .refl s⟩

/-- A cancellation is no event. -/
theorem adds_cancel : Adds allowed (cancel : Action σ Unit) :=
  fun _ => ⟨[], extends_of_eq rfl rfl rfl⟩

/-- A look at the cancellation adds nothing, however it ends. -/
theorem adds_failIfCancelled : Adds allowed (failIfCancelled : Action σ Unit) := by
  intro s
  unfold failIfCancelled
  split <;> exact ⟨[], .refl s⟩

/-- A look at the deadline adds nothing, however it ends. -/
theorem adds_failIfExpired : Adds allowed (failIfExpired : Action σ Unit) := by
  intro s
  unfold failIfExpired
  split <;> exact ⟨[], .refl s⟩

/-- How a wait ends at a moment, or that it does not. -/
def endAt (s : Session σ) : Option Moment → Outcome Unit × Session σ
  | some (now, outcome) => (outcome, { s with now })
  | none => (.never, s)

/-- The moment at which a wait that is there now ends in a way, if a time for that is set. -/
def momentOf (outcome : Outcome Unit) (now : Nat) (time : Option Nat) : Option Moment :=
  time.map fun time => (max time now, outcome)

/-- A wait ends at the earliest of three moments: a cancellation, its own end and the deadline. -/
theorem waitUntil_eq (time : Option Nat) (s : Session σ) :
    waitUntil time s = endAt s
      (earlier (momentOf (.failed .cancelled) s.now s.cancelledAt)
        (earlier (momentOf (.done ()) s.now time)
          (momentOf (.failed .timeout) s.now s.deadline))) :=
  rfl

@[simp] theorem earlier_none_left (b : Option Moment) : earlier none b = b := by
  cases b <;> rfl

@[simp] theorem earlier_none_right (a : Option Moment) : earlier a none = a := by
  cases a <;> rfl

/-- Of two moments that exist, the second one has to be earlier to count. -/
theorem earlier_some (a b : Moment) :
    earlier (some a) (some b) = if a.1 ≤ b.1 then some a else some b :=
  rfl

/-- The first of three moments does not depend on which two are compared first. -/
theorem earlier_assoc (a b c : Option Moment) :
    earlier (earlier a b) c = earlier a (earlier b c) := by
  rcases a with _ | a
  · simp
  rcases b with _ | b
  · simp
  rcases c with _ | c
  · simp
  by_cases hab : a.1 ≤ b.1 <;> by_cases hbc : b.1 ≤ c.1
  · simp [earlier_some, hab, hbc, Nat.le_trans hab hbc]
  · simp [earlier_some, hab, hbc]
  · simp [earlier_some, hab, hbc]
  · have hac : ¬ a.1 ≤ c.1 := by omega
    simp [earlier_some, hab, hbc, hac]

/-- The first of two moments comes first unless the second one is before it. -/
theorem earlier_some_left (a : Moment) (b : Option Moment) :
    (∃ m, b = some m ∧ m.1 < a.1 ∧ earlier (some a) b = b) ∨
      (∀ m, b = some m → a.1 ≤ m.1) ∧ earlier (some a) b = some a := by
  rcases b with _ | b
  · exact .inr ⟨nofun, rfl⟩
  · rw [earlier_some]
    split
    · exact .inr ⟨fun m hm => Option.some.inj hm ▸ ‹_›, rfl⟩
    · exact .inl ⟨b, rfl, Nat.lt_of_not_le ‹_›, rfl⟩

/-- The second of two moments comes first only if it is before the first one. -/
theorem earlier_some_right (a : Option Moment) (b : Moment) :
    (∃ m, a = some m ∧ m.1 ≤ b.1 ∧ earlier a (some b) = a) ∨
      (∀ m, a = some m → b.1 < m.1) ∧ earlier a (some b) = some b := by
  rcases a with _ | a
  · exact .inr ⟨nofun, rfl⟩
  · rw [earlier_some]
    split
    · exact .inl ⟨a, rfl, ‹_›, rfl⟩
    · exact .inr ⟨fun m hm => Option.some.inj hm ▸ Nat.lt_of_not_le ‹_›, rfl⟩

/-- The earlier of two moments is one of them. -/
theorem earlier_eq_or (a b : Option Moment) : earlier a b = a ∨ earlier a b = b := by
  rcases a with _ | a <;> rcases b with _ | b
  · exact .inl rfl
  · exact .inr rfl
  · exact .inl rfl
  · simp only [earlier]
    split
    · exact .inl rfl
    · exact .inr rfl

/-- Whatever holds of two moments, of each if it is there, holds of the earlier one. -/
theorem earlier_of_both {P : Moment → Prop} {a b : Option Moment} (ha : ∀ m, a = some m → P m)
    (hb : ∀ m, b = some m → P m) : ∀ m, earlier a b = some m → P m := by
  intro m hm
  rcases earlier_eq_or a b with heq | heq
  · exact ha m (heq.symm.trans hm)
  · exact hb m (heq.symm.trans hm)

@[simp] theorem momentOf_none (outcome : Outcome Unit) (now : Nat) :
    momentOf outcome now none = none :=
  rfl

/-- A moment that is not past is the time itself. -/
theorem momentOf_of_le {now time : Nat} (h : now ≤ time) (outcome : Outcome Unit) :
    momentOf outcome now (some time) = some (time, outcome) := by
  simp [momentOf, h]

/-- No moment is before now: what is past happens at once. -/
theorem le_of_momentOf {outcome : Outcome Unit} {now : Nat} {time : Option Nat} :
    ∀ m, momentOf outcome now time = some m → now ≤ m.1 := by
  intro m hm
  obtain ⟨time, -, rfl⟩ := Option.map_eq_some_iff.mp hm
  exact Nat.le_max_right ..

/-- A wait lets time pass, and adds nothing. -/
theorem adds_waitUntil (time : Option Nat) :
    Adds allowed (waitUntil time : Action σ Unit) := by
  intro s
  rw [waitUntil_eq]
  have hlate := earlier_of_both (P := fun m => s.now ≤ m.1)
    (@le_of_momentOf (.failed .cancelled) s.now s.cancelledAt)
    (earlier_of_both (@le_of_momentOf (.done ()) s.now time)
      (@le_of_momentOf (.failed .timeout) s.now s.deadline))
  generalize earlier _ _ = moment at hlate ⊢
  refine ⟨[], ?_⟩
  cases moment with
  | none => exact .refl s
  | some m =>
      exact {
        events_eq := (List.append_nil _).symm
        now_le := hlate m rfl
        deadline_eq := rfl
        allowed := nofun
        stamped := nofun }

/-- A limit adds nothing: the deadline is set before the first event and taken back behind the
last. -/
theorem Adds.within {action : Action σ α} (h : Adds allowed action) (limit : Option Duration) :
    Adds allowed (within limit action) := by
  intro s
  obtain ⟨new, hnew⟩ := h { s with deadline := limit.map (s.now + ·.milliseconds) }
  exact ⟨new, hnew.events_eq, hnew.now_le, rfl, hnew.allowed, hnew.stamped⟩

end Action

end AttestedModel
