import CheckpointSink.Proofs.Settlement.Orderly

/-!
Timelines at which nothing is left to be done before time moves on, and what the passing of time
makes of them: the resolvers whose time has come are used, and their batches are settled.
-/

namespace CheckpointSink.Settlement

namespace Ledger

theorem queued_of_idle {ledger : Ledger} (idle : ∀ worker, ledger.queue worker = []) :
    ledger.queued = [] := by
  apply List.eq_nil_iff_forall_not_mem.mpr
  intro given member
  obtain ⟨state, known, inQueue⟩ := mem_queued.mp member
  obtain ⟨worker, found⟩ := List.mem_iff_getElem?.mp known
  have empty := idle worker
  rw [queue_of_found found] at empty
  rw [empty] at inQueue
  cases inQueue

/-- Where all that was delivered has settled, the undelivered batches are the ones counted. -/
theorem pending_of_idle {ledger : Ledger} (booked : ledger.Booked) (resting : ledger.Resting)
    (open_ : ∀ batch ∈ ledger.batches, batch.delivered = none)
    (idle : ∀ worker, ledger.queue worker = []) : ledger.pending = ledger.undelivered.length := by
  obtain ⟨history, run⟩ := booked.run
  have all : ledger.batches.filter (fun batch => batch.delivered.isNone) = ledger.batches :=
    List.filter_eq_self.mpr fun batch member => by simp [open_ batch member]
  rw [run.accounted.pending_eq, outstanding, queued_of_idle idle, resting.discarded, undelivered, all]
  simp [ids]

end Ledger

namespace Timeline

section

variable {timeline : Timeline} {moving : List Nat}

theorem Orderly.queue_of_idle (orderly : Orderly moving timeline) (idle : timeline.ready = [])
    (worker : Nat) : timeline.ledger.queue worker = [] := by
  by_contra busy
  have member := orderly.works worker busy
  rw [idle] at member
  cases member

theorem Orderly.delivered_of_idle (orderly : Orderly moving timeline) (idle : timeline.ready = [])
    (batch : Batch) (member : batch ∈ timeline.ledger.batches) : batch.delivered = none := by
  by_contra given
  have woken := orderly.forwards batch member given
  rw [idle] at woken
  cases woken

theorem Orderly.custody_of_idle (orderly : Orderly [] timeline) (idle : timeline.ready = []) :
    timeline.ledger.undelivered.Perm (timeline.resolvers ++ timeline.delayed.map Prod.fst) := by
  have custody := orderly.custody
  rw [delivering, idle] at custody
  simpa using custody

theorem Orderly.pending_of_idle (orderly : Orderly moving timeline) (idle : timeline.ready = []) :
    timeline.pending = timeline.ledger.undelivered.length :=
  Ledger.pending_of_idle orderly.booked orderly.resting (orderly.delivered_of_idle idle)
    (orderly.queue_of_idle idle)

end

/-- A timeline on which nothing happens until time moves on. -/
structure Settled (timeline : Timeline) : Prop where
  orderly : Orderly [] timeline
  idle : timeline.ready = []
  ahead : ∀ timer ∈ timeline.timers, timeline.nowMs < timer.deadlineMs

/-- What stays as it was while time passes, and the resolvers that are used meanwhile. -/
structure Passed (before after : Timeline) : Prop where
  advanced : before.nowMs ≤ after.nowMs
  resolvers : after.resolvers = before.resolvers
  delayed : after.delayed = before.delayed.filter fun given => after.nowMs < given.2
  next : after.ledger.next = before.ledger.next
  staffed : before.ledger.Staffed after.ledger

theorem Passed.trans {first second third : Timeline} (earlier : Passed first second)
    (later : Passed second third) : Passed first third where
  advanced := earlier.advanced.trans later.advanced
  resolvers := later.resolvers.trans earlier.resolvers
  delayed := by
    rw [later.delayed, earlier.delayed, List.filter_filter]
    apply List.filter_congr
    intro given _
    have advanced := later.advanced
    by_cases left : third.nowMs < given.2
    · have earlierLeft : second.nowMs < given.2 := by omega
      simp [left, earlierLeft]
    · simp [left]
  next := later.next.trans earlier.next
  staffed := earlier.staffed.trans later.staffed

theorem mem_delayed {timeline : Timeline} {given : Nat × Nat} (member : given ∈ timeline.delayed) :
    ∃ timer ∈ timeline.timers, timer.deadlineMs = given.2 := by
  obtain ⟨timer, known, brings⟩ := List.mem_filterMap.mp member
  obtain ⟨batch, -, rfl⟩ := Option.map_eq_some_iff.mp brings
  exact ⟨timer, known, rfl⟩

theorem Kept.passed {before after : Timeline} (kept : Kept before after)
    (ahead : ∀ timer ∈ before.timers, before.nowMs < timer.deadlineMs) : Passed before after where
  advanced := kept.nowMs.ge
  resolvers := kept.resolvers
  delayed := by
    rw [kept.delayed, kept.nowMs]
    refine (List.filter_eq_self.mpr fun given member => ?_).symm
    obtain ⟨timer, known, same⟩ := mem_delayed member
    simpa [← same] using ahead timer known
  next := kept.next
  staffed := kept.staffed

theorem Passed.refl {timeline : Timeline}
    (ahead : ∀ timer ∈ timeline.timers, timeline.nowMs < timer.deadlineMs) :
    Passed timeline timeline :=
  (Kept.refl timeline).passed ahead

/-- The deliveries of the timers that are kept, if they are kept by their deadlines. -/
theorem filterMap_filter_deadline (timers : List Timer) (keep : Nat → Bool) :
    (timers.filter fun timer => keep timer.deadlineMs).filterMap Timer.delivery? =
      (timers.filterMap Timer.delivery?).filter fun given => keep given.2 := by
  induction timers with
  | nil => rfl
  | cons timer rest ih =>
    cases brings : timer.task.delivery? <;> by_cases kept : keep timer.deadlineMs = true <;>
      simp [Timer.delivery?, brings, kept, ih]

theorem settled_empty : Settled empty where
  orderly :=
    { booked := .empty
      resting := .empty
      forwards := fun _ member => absurd member List.not_mem_nil
      works := fun _ busy => absurd rfl busy
      custody := .refl _
      waits := fun _ member => absurd member List.not_mem_nil }
  idle := rfl
  ahead _ member := absurd member List.not_mem_nil

namespace Settled

variable {timeline : Timeline}

theorem custody (settled : Settled timeline) : timeline.ledger.undelivered.Perm
    (timeline.resolvers ++ timeline.delayed.map Prod.fst) :=
  settled.orderly.custody_of_idle settled.idle

/-- The count is the number of resolvers that can still be used or will be. -/
theorem pending (settled : Settled timeline) :
    timeline.pending = timeline.resolvers.length + timeline.delayed.length := by
  have lengths := settled.custody.length_eq
  simp only [List.length_append, List.length_map] at lengths
  rw [settled.orderly.pending_of_idle settled.idle]
  exact_mod_cast lengths

end Settled

/-! Timers -/

/-- What can run at a deadline, before any of it has. -/
def arrive (timeline : Timeline) (deadlineMs : Nat) : Timeline :=
  let due := timeline.timers.filter fun timer => timer.deadlineMs = deadlineMs
  let later := timeline.timers.filter fun timer => timer.deadlineMs ≠ deadlineMs
  { timeline with timers := later, nowMs := deadlineMs }.wakeAll (due.map Timer.task)

theorem arrive_eq (timeline : Timeline) (deadlineMs : Nat) :
    timeline.arrive deadlineMs = { timeline with
      timers := timeline.timers.filter fun timer => timer.deadlineMs ≠ deadlineMs
      nowMs := deadlineMs
      ready := (timeline.arrive deadlineMs).ready } :=
  wakeAll_eq _ _

theorem delayed_arrive (timeline : Timeline) (deadlineMs : Nat) :
    (timeline.arrive deadlineMs).delayed =
      timeline.delayed.filter fun given => decide (given.2 ≠ deadlineMs) := by
  rw [arrive_eq]
  exact filterMap_filter_deadline timeline.timers fun time => decide (time ≠ deadlineMs)

/-- The resolvers that are used at a deadline are those whose time it is. -/
theorem delivering_due (timeline : Timeline) (deadlineMs : Nat) :
    ((timeline.timers.filter fun timer => timer.deadlineMs = deadlineMs).map
      Timer.task).filterMap Task.delivery? =
        (timeline.delayed.filter fun given => decide (given.2 = deadlineMs)).map Prod.fst := by
  rw [delayed, ← filterMap_filter_deadline timeline.timers fun time => decide (time = deadlineMs),
    List.filterMap_map, List.map_filterMap]
  congr 1
  funext timer
  simp only [Function.comp_apply, Timer.delivery?, Option.map_map]
  cases timer.task.delivery? <;> rfl

/-- The resolvers that are used later are used at the deadline or after it. -/
theorem Orderly.custody_arrive {timeline : Timeline} (orderly : Orderly [] timeline)
    (idle : timeline.ready = []) (deadlineMs : Nat) : timeline.ledger.undelivered.Perm
      (timeline.resolvers ++ ((timeline.arrive deadlineMs).delayed.map Prod.fst ++
        (timeline.delayed.filter fun given => decide (given.2 = deadlineMs)).map Prod.fst)) := by
  have custody := orderly.custody
  rw [delivering, idle] at custody
  simp only [List.nil_append, List.filterMap_nil, List.append_nil] at custody
  apply custody.trans
  apply List.Perm.append_left
  rw [delayed_arrive, ← List.map_append]
  have halves := List.filter_append_perm (fun given : Nat × Nat => decide (given.2 ≠ deadlineMs))
    timeline.delayed
  simp only [ne_eq, decide_not, Bool.not_not] at halves ⊢
  exact (halves.map Prod.fst).symm

/-- No resolver is used twice at a deadline. -/
theorem Orderly.nodup_due {timeline : Timeline} (orderly : Orderly [] timeline)
    (idle : timeline.ready = []) (deadlineMs : Nat) : (((timeline.timers.filter fun timer =>
      timer.deadlineMs = deadlineMs).map Timer.task).filterMap Task.delivery?).Nodup := by
  have distinct := (orderly.custody_arrive idle deadlineMs).nodup_iff.mp orderly.distinct
  rw [delivering_due]
  exact (List.nodup_append.mp (List.nodup_append.mp distinct).2.1).2.1

theorem Orderly.delivering_arrive {timeline : Timeline} (orderly : Orderly [] timeline)
    (idle : timeline.ready = []) (deadlineMs : Nat) : (timeline.arrive deadlineMs).delivering =
      (timeline.delayed.filter fun given => decide (given.2 = deadlineMs)).map Prod.fst := by
  -- No resolver is used twice at the deadline, so the waking of its timers loses none.
  have woken := delivering_wakeAll
    { timeline with
      timers := timeline.timers.filter fun timer => timer.deadlineMs ≠ deadlineMs
      nowMs := deadlineMs }
    ((timeline.timers.filter fun timer => timer.deadlineMs = deadlineMs).map Timer.task)
    (by
      rw [delivering, idle]
      exact orderly.nodup_due idle deadlineMs)
  apply woken.trans
  rw [delivering_due, delivering, idle]
  rfl

theorem Orderly.arrive {timeline : Timeline} (orderly : Orderly [] timeline)
    (idle : timeline.ready = []) (deadlineMs : Nat) : Orderly [] (timeline.arrive deadlineMs) := by
  have parts := orderly.custody_arrive idle deadlineMs
  rw [← orderly.delivering_arrive idle deadlineMs] at parts
  have shape := timeline.arrive_eq deadlineMs
  have same : (timeline.arrive deadlineMs).ledger = timeline.ledger := by rw [shape]
  have resolvers : (timeline.arrive deadlineMs).resolvers = timeline.resolvers := by rw [shape]
  have waits : (timeline.arrive deadlineMs).waits = timeline.waits := by rw [shape]
  refine ⟨same ▸ orderly.booked, same ▸ orderly.resting, ?_, ?_, ?_, waits ▸ orderly.waits⟩
  · intro batch member given
    rw [same] at member
    exact absurd (orderly.delivered_of_idle idle batch member) given
  · intro worker busy
    rw [same] at busy
    exact absurd (orderly.queue_of_idle idle worker) busy
  · rw [same, resolvers]
    exact parts

theorem fire_eq (timeline : Timeline) (deadlineMs : Nat) :
    timeline.fire deadlineMs = (timeline.arrive deadlineMs).runReady := rfl

/-- The earliest timers fire, and what they lead to happens. -/
theorem Orderly.fire {timeline : Timeline} (orderly : Orderly [] timeline)
    (idle : timeline.ready = []) {deadlineMs : Nat} (since : timeline.nowMs ≤ deadlineMs)
    (earliest : ∀ timer ∈ timeline.timers, deadlineMs ≤ timer.deadlineMs) :
    Settled (timeline.fire deadlineMs) ∧ (timeline.fire deadlineMs).nowMs = deadlineMs ∧
      Passed timeline (timeline.fire deadlineMs) := by
  obtain ⟨after, still, kept⟩ := (orderly.arrive idle deadlineMs).runReady
  rw [← fire_eq] at after still kept
  have shape := timeline.arrive_eq deadlineMs
  have arrived : (timeline.arrive deadlineMs).nowMs = deadlineMs := by rw [shape]
  have nowMs := kept.nowMs.trans arrived
  refine ⟨⟨after, still, ?_⟩, nowMs, ?_⟩
  · intro timer member
    rw [nowMs]
    rcases kept.timers timer member with old | new
    · rw [shape] at old
      obtain ⟨known, different⟩ := List.mem_filter.mp old
      have later := earliest timer known
      have other : timer.deadlineMs ≠ deadlineMs := by simpa using different
      omega
    · rwa [arrived] at new
  · refine ⟨by omega, kept.resolvers.trans (by rw [shape]), ?_, kept.next.trans (by rw [shape]), ?_⟩
    · rw [kept.delayed, delayed_arrive, nowMs]
      apply List.filter_congr
      intro given member
      obtain ⟨timer, known, same⟩ := mem_delayed member
      have later := earliest timer known
      have order : given.2 ≠ deadlineMs ↔ deadlineMs < given.2 := by omega
      simp [order]
    · have staffed := kept.staffed
      rwa [shape] at staffed

theorem nextDeadline?_none {timeline : Timeline} {untilMs : Nat}
    (none_due : timeline.nextDeadline? untilMs = none) :
    ∀ timer ∈ timeline.timers, untilMs < timer.deadlineMs := by
  rw [nextDeadline?, earliest, List.min?_eq_none_iff, List.filter_eq_nil_iff] at none_due
  intro timer member
  simpa using none_due timer.deadlineMs (List.mem_map_of_mem member)

theorem nextDeadline?_some {timeline : Timeline} {untilMs deadlineMs : Nat}
    (due : timeline.nextDeadline? untilMs = some deadlineMs) :
    deadlineMs ≤ untilMs ∧ (∃ timer ∈ timeline.timers, timer.deadlineMs = deadlineMs) ∧
      ∀ timer ∈ timeline.timers, deadlineMs ≤ timer.deadlineMs := by
  obtain ⟨member, least⟩ := List.min?_eq_some_iff.mp due
  obtain ⟨known, before⟩ := List.mem_filter.mp member
  have before : deadlineMs ≤ untilMs := by simpa using before
  refine ⟨before, List.mem_map.mp known, ?_⟩
  intro timer member
  by_cases soon : timer.deadlineMs ≤ untilMs
  · exact least _ (List.mem_filter.mpr ⟨List.mem_map_of_mem member, by simpa using soon⟩)
  · omega

/-- Time goes from deadline to deadline up to its end. No two deadlines are equal, so the time left
is fuel enough. -/
theorem Orderly.fireUntil {timeline : Timeline} (orderly : Orderly [] timeline)
    (idle : timeline.ready = []) (fuel untilMs lower : Nat) (since : timeline.nowMs ≤ untilMs)
    (start : timeline.nowMs ≤ lower) (earliest : ∀ timer ∈ timeline.timers, lower ≤ timer.deadlineMs)
    (enough : untilMs < lower + fuel) :
    Settled (timeline.fireUntil fuel untilMs) ∧ (timeline.fireUntil fuel untilMs).nowMs = untilMs ∧
      Passed timeline (timeline.fireUntil fuel untilMs) := by
  have arrived {timeline : Timeline} (orderly : Orderly [] timeline) (idle : timeline.ready = [])
      (since : timeline.nowMs ≤ untilMs)
      (ahead : ∀ timer ∈ timeline.timers, untilMs < timer.deadlineMs) :
      Settled { timeline with nowMs := untilMs } ∧ untilMs = untilMs ∧
        Passed timeline { timeline with nowMs := untilMs } := by
    refine ⟨⟨⟨orderly.booked, orderly.resting, orderly.forwards, orderly.works, orderly.custody,
      orderly.waits⟩, idle, ahead⟩, rfl, since, rfl, ?_, rfl, .of_workers rfl⟩
    refine (List.filter_eq_self.mpr fun given member => ?_).symm
    obtain ⟨timer, known, same⟩ := mem_delayed member
    simpa [← same] using ahead timer known
  induction fuel generalizing timeline lower with
  | zero =>
    refine arrived orderly idle since fun timer member => ?_
    have later := earliest timer member
    omega
  | succ fuel ih =>
    unfold Timeline.fireUntil
    cases due : timeline.nextDeadline? untilMs with
    | none => exact arrived orderly idle since (nextDeadline?_none due)
    | some deadlineMs =>
      obtain ⟨before, ⟨first, known, same⟩, least⟩ := nextDeadline?_some due
      have later := earliest first known
      obtain ⟨settled, nowMs, passed⟩ := orderly.fire idle (by omega) least
      obtain ⟨rest, restNow, restPassed⟩ := ih settled.orderly settled.idle
        (deadlineMs + 1) (by omega) (by omega)
        (fun timer member => nowMs ▸ settled.ahead timer member) (by omega)
      exact ⟨rest, restNow, passed.trans restPassed⟩

/-- Whatever time passes, everything whose time has come is settled at its end. -/
theorem Settled.pass {timeline : Timeline} (settled : Settled timeline) (delayMs : Nat) :
    Settled (timeline.pass delayMs) ∧
      (timeline.pass delayMs).nowMs = timeline.nowMs + delayMs ∧
        Passed timeline (timeline.pass delayMs) :=
  settled.orderly.fireUntil settled.idle _ _ (timeline.nowMs + 1) (Nat.le_add_right _ _)
    (Nat.le_succ _) settled.ahead (by omega)

end Timeline
end CheckpointSink.Settlement
