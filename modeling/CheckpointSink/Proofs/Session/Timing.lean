import CheckpointSink.Proofs.Session.Routing
import Mathlib.Order.Bounds.Defs

/-!
When a checkpoint ends on the clock, and with what, given the times at which the outstanding batches
are resolved. Time between two polls is no more than thirty years, however long the interval.
-/

namespace CheckpointSink

open CheckpointSink.Settlement

variable {ε : Type}

namespace Settlement.Timeline

variable {timeline : Timeline}

/-- The timeline at a poll, as far as no poll before it has ended the wait. -/
theorem Settled.atPoll (settled : Settled timeline) (barrier : Barrier) (elapsedMs poll : Nat) :
    Settled (count.atPoll barrier elapsedMs poll timeline) ∧
      (count.atPoll barrier elapsedMs poll timeline).nowMs =
        timeline.nowMs + poll * barrier.stepMs ∧
      Passed timeline (count.atPoll barrier elapsedMs poll timeline) := by
  induction poll generalizing timeline elapsedMs with
  | zero =>
    exact ⟨settled, by simp [PolledCount.atPoll], .refl settled.ahead⟩
  | succ poll ih =>
    have reported := settled.enter (barrier.report elapsedMs timeline.pending)
    have entered := (Kept.enter timeline (barrier.report elapsedMs timeline.pending)).passed
      settled.ahead
    obtain ⟨later, nowMs, passed⟩ := reported.pass barrier.stepMs
    obtain ⟨after, since, rest⟩ := ih later (elapsedMs + barrier.stepMs)
    refine ⟨after, since.trans ?_, (entered.trans passed).trans rest⟩
    rw [nowMs, Nat.succ_mul]
    show timeline.nowMs + barrier.stepMs + poll * barrier.stepMs = _
    omega

theorem Settled.runReady_eq (settled : Settled timeline) : timeline.runReady = timeline := by
  rw [runReady, settled.idle]
  rfl

end Settlement.Timeline

namespace Custody

/-- When the outstanding batches are resolved, if ever. -/
def times (custody : Custody) : List (Option Nat) :=
  custody.held.map (fun _ => none) ++ custody.delayed.map fun given => some given.2

/-- All outstanding batches are resolved before a time. -/
def ResolvedBefore (custody : Custody) (instantMs : Nat) : Prop :=
  ∀ time ∈ custody.times, ∃ resolvedMs, time = some resolvedMs ∧ resolvedMs < instantMs

/-- The number of outstanding batches that are resolved after a time, or never. -/
def openAfter (custody : Custody) (instantMs : Nat) : Nat :=
  custody.times.countP fun time => time.all (instantMs < ·)

theorem unresolved_elapse (custody : Custody) (nowMs : Nat) :
    (custody.elapse nowMs).unresolved = custody.openAfter nowMs := by
  simp only [unresolved, elapse, openAfter, times, List.countP_append, List.countP_map]
  congr 1
  · rw [List.countP_eq_length.mpr]
    exact fun _ _ => rfl
  · rw [List.countP_eq_length_filter]
    rfl

theorem openAfter_elapse (custody : Custody) {earlierMs laterMs : Nat} (order : earlierMs ≤ laterMs) :
    (custody.elapse earlierMs).openAfter laterMs = custody.openAfter laterMs := by
  rw [← unresolved_elapse, ← unresolved_elapse]
  simp only [unresolved, elapse, List.filter_filter]
  congr 2
  apply List.filter_congr
  intro given _
  by_cases left : laterMs < given.2
  · have before : earlierMs < given.2 := by omega
    simp [left, before]
  · simp [left]

/-- As long as no batch is resolved at the very time, those not resolved before it are resolved after
it or never. -/
theorem openAfter_eq_zero {custody : Custody} {instantMs : Nat}
    (apart : ∀ time ∈ custody.times, time ≠ some instantMs) :
    custody.openAfter instantMs = 0 ↔ custody.ResolvedBefore instantMs := by
  rw [openAfter, List.countP_eq_zero]
  refine forall₂_congr fun time member => ?_
  cases time with
  | none => simp
  | some resolvedMs =>
    have different : resolvedMs ≠ instantMs := fun same => apart _ member (congrArg some same)
    have order : ¬instantMs < resolvedMs ↔ resolvedMs < instantMs := by omega
    simp [order]

end Custody

namespace Session

variable {session : Session ε} {custody : Custody}

/-! A whole script -/

theorem Steady.after (steady : Steady session) (seen : Seen custody session)
    (script : List (SessionStep ε)) : Steady (session.after script) ∧
      Seen (custody.watchThrough script (session.run script)) (session.after script) ∧
        (session.after script).sink.settings = session.sink.settings := by
  induction script generalizing session custody with
  | nil => exact ⟨steady, seen, rfl⟩
  | cons given rest ih =>
    obtain ⟨later, known⟩ := steady.step seen given
    obtain ⟨after, seenAfter, settings⟩ := ih later known
    exact ⟨after, seenAfter, settings.trans (reroutes_step session given).settings⟩

/-! A checkpoint -/

/-- The polls of a checkpoint come at fixed times, and each reads how many batches are open then. -/
theorem Steady.poll (steady : Steady session) (seen : Seen custody session) (poll : Nat) :
    (Timeline.count.atPoll session.sink.barrier 0 poll session.clear.timeline).nowMs =
      session.timeline.nowMs + poll * session.sink.barrier.stepMs ∧
    (Timeline.count.atPoll session.sink.barrier 0 poll session.clear.timeline).pending =
      custody.openAfter (session.timeline.nowMs + poll * session.sink.barrier.stepMs) := by
  obtain ⟨settled, nowMs, passed⟩ := steady.clear.settled.atPoll session.sink.barrier 0 poll
  have begun : session.clear.timeline.nowMs = session.timeline.nowMs := rfl
  rw [begun] at nowMs
  refine ⟨nowMs, ?_⟩
  have delayed : session.clear.timeline.delayed = custody.delayed := seen.delayed
  have held : session.clear.timeline.resolvers = custody.held := seen.held
  have counted := settled.pending
  rw [passed.resolvers, passed.delayed, delayed, held, nowMs] at counted
  rw [counted, ← Custody.unresolved_elapse]
  exact (Int.natCast_add _ _).symm

theorem Steady.step_snapshot (steady : Steady session) (opened : session.isOpen = true)
    {result : WaitState} {final : Timeline}
    (waited : session.clear.timeline.wait session.sink.barrier = (some result, final)) :
    (session.step .snapshot).1.answer = .waited result ∧
      (session.step .snapshot).1.nowMs = final.nowMs ∧
        (session.step .snapshot).2.timeline = final := by
  have settled := (steady.clear.settled.wait session.sink.barrier).1
  rw [waited] at settled
  have performed : session.clear.perform (.snapshot : SessionStep ε) =
      (.waited result, { session.clear with timeline := final }) := by
    have held : session.clear.sink.clientHeld = true := opened
    have waitedClear : session.clear.timeline.wait session.clear.sink.barrier =
      (some result, final) := waited
    simp only [perform, snapshot, held, if_true, wait, waitedClear]
    rfl
  have stepped : session.step (.snapshot : SessionStep ε) =
      (({ session.clear with timeline := final } : Session ε).report (.waited result),
        { session.clear with timeline := final }) := by
    simp only [Session.step, performed, Session.settleReady, settled.runReady_eq]
  rw [stepped]
  exact ⟨rfl, rfl, rfl⟩

theorem Steady.snapshot_at (steady : Steady session) (seen : Seen custody session)
    (opened : session.isOpen = true) {last : Nat} {result : WaitState}
    (enough : last < session.sink.barrier.pollBound)
    (undecided : ∀ poll < last, session.sink.barrier.judge (poll * session.sink.barrier.stepMs)
      (custody.openAfter (session.timeline.nowMs + poll * session.sink.barrier.stepMs)) = none)
    (decided : session.sink.barrier.judge (last * session.sink.barrier.stepMs)
      (custody.openAfter (session.timeline.nowMs + last * session.sink.barrier.stepMs)) =
        some result) :
    (session.step .snapshot).1.answer = .waited result ∧
      (session.step .snapshot).1.nowMs =
        session.timeline.nowMs + last * session.sink.barrier.stepMs ∧
      (session.step .snapshot).1.nowMs = (session.step .snapshot).2.timeline.nowMs := by
  have read (poll : Nat) : (Timeline.count.read (Timeline.count.atPoll session.sink.barrier 0 poll
      session.clear.timeline)).1 =
        custody.openAfter (session.timeline.nowMs + poll * session.sink.barrier.stepMs) :=
    (steady.poll seen poll).2
  simp only [← read] at undecided decided
  have waited := drain_eq Timeline.count session.sink.barrier enough
    (fun poll earlier => (Nat.zero_add (poll * _)).symm ▸ undecided poll earlier)
    ((Nat.zero_add (last * _)).symm ▸ decided)
  obtain ⟨answer, nowMs, timeline⟩ := steady.step_snapshot opened waited
  have now := nowMs.trans (steady.poll seen last).1
  exact ⟨answer, now, by rw [timeline, nowMs]⟩

theorem Steady.pending_step (steady : Steady session) (seen : Seen custody session)
    {given : SessionStep ε} (note : ∀ report, custody.note report given = custody) :
    (session.step given).1.pending = custody.openAfter (session.step given).1.nowMs := by
  obtain ⟨later, known⟩ := steady.step seen given
  rw [Custody.watch, note] at known
  have counted := later.pending known
  rw [Custody.unresolved_elapse] at counted
  exact counted

theorem Steady.nowMs_sleep (steady : Steady session) (delayMs : Nat) :
    (session.step (.sleep delayMs)).1.nowMs = session.timeline.nowMs + Sleep.lengthMs delayMs := by
  obtain ⟨settled, nowMs, -⟩ := steady.clear.settled.pass (Sleep.lengthMs delayMs)
  show (session.clear.timeline.pass (Sleep.lengthMs delayMs)).runReady.nowMs = _
  rw [settled.runReady_eq, nowMs]
  rfl

section

variable {barrier : Barrier} {last : Nat}

/-- With a batch left, a checkpoint goes on at every poll before the last. -/
theorem judge_left {begunMs poll : Nat}
    (apart : ∀ poll, ∀ time ∈ custody.times, time ≠ some (begunMs + poll * barrier.stepMs))
    (least : IsLeast {poll | barrier.timeoutMs ≤ poll * barrier.stepMs} last) (before : poll < last)
    (left : ¬custody.ResolvedBefore (begunMs + poll * barrier.stepMs)) :
    barrier.judge (poll * barrier.stepMs)
      (custody.openAfter (begunMs + poll * barrier.stepMs)) = none := by
  have some_left := mt (Custody.openAfter_eq_zero (apart poll)).mp left
  refine Barrier.judge_none ?_ (Barrier.early_of_least least before)
  exact_mod_cast Nat.pos_of_ne_zero some_left

theorem Steady.snapshot_drained (steady : Steady session) (seen : Seen custody session)
    (opened : session.isOpen = true) (known : session.sink.barrier = barrier)
    (apart : ∀ poll, ∀ time ∈ custody.times,
      time ≠ some (session.timeline.nowMs + poll * barrier.stepMs))
    (least : IsLeast {poll | barrier.timeoutMs ≤ poll * barrier.stepMs} last) {first : Nat}
    (upTo : first ≤ last)
    (drained : IsLeast
      {poll | custody.ResolvedBefore (session.timeline.nowMs + poll * barrier.stepMs)} first) :
    (session.step .snapshot).1.answer = .waited ⟨.drained, first * barrier.stepMs, 0⟩ ∧
      (session.step .snapshot).1.nowMs = session.timeline.nowMs + first * barrier.stepMs ∧
      (session.step .snapshot).1.pending = 0 := by
  subst known
  have empty := (Custody.openAfter_eq_zero (apart first)).mpr drained.1
  have decided : session.sink.barrier.judge (first * session.sink.barrier.stepMs)
      (custody.openAfter (session.timeline.nowMs + first * session.sink.barrier.stepMs)) =
        some ⟨.drained, first * session.sink.barrier.stepMs, 0⟩ := by
    rw [empty]
    exact Barrier.judge_drained (Int.le_refl 0)
  obtain ⟨answer, nowMs, -⟩ := steady.snapshot_at seen opened
    (Nat.lt_of_le_of_lt upTo (Barrier.lt_pollBound steady.interval least))
    (fun poll before => judge_left apart least (Nat.lt_of_lt_of_le before upTo)
      fun resolved => absurd (drained.2 resolved) (Nat.not_le_of_lt before)) decided
  refine ⟨answer, nowMs, ?_⟩
  rw [steady.pending_step seen fun _ => rfl, nowMs]
  exact congrArg Int.ofNat empty

theorem Steady.snapshot_timedOut (steady : Steady session) (seen : Seen custody session)
    (opened : session.isOpen = true) (known : session.sink.barrier = barrier)
    (apart : ∀ poll, ∀ time ∈ custody.times,
      time ≠ some (session.timeline.nowMs + poll * barrier.stepMs))
    (least : IsLeast {poll | barrier.timeoutMs ≤ poll * barrier.stepMs} last)
    (left : ∀ poll ≤ last,
      ¬custody.ResolvedBefore (session.timeline.nowMs + poll * barrier.stepMs)) :
    (session.step .snapshot).1.answer = .waited ⟨.timedOut, last * barrier.stepMs,
        custody.openAfter (session.timeline.nowMs + last * barrier.stepMs)⟩ ∧
      (session.step .snapshot).1.nowMs = session.timeline.nowMs + last * barrier.stepMs ∧
      ∀ delayMs, ((session.step .snapshot).2.step (.sleep delayMs)).1.pending =
        custody.openAfter ((session.step .snapshot).1.nowMs + Sleep.lengthMs delayMs) := by
  subst known
  have some_left := mt (Custody.openAfter_eq_zero (apart last)).mp (left last (Nat.le_refl last))
  have decided : session.sink.barrier.judge (last * session.sink.barrier.stepMs)
      (custody.openAfter (session.timeline.nowMs + last * session.sink.barrier.stepMs)) =
        some ⟨.timedOut, last * session.sink.barrier.stepMs,
          custody.openAfter (session.timeline.nowMs + last * session.sink.barrier.stepMs)⟩ :=
    Barrier.judge_timedOut (by exact_mod_cast Nat.pos_of_ne_zero some_left) least.1
  obtain ⟨answer, nowMs, clock⟩ := steady.snapshot_at seen opened
    (Barrier.lt_pollBound steady.interval least)
    (fun poll before => judge_left apart least before (left poll (Nat.le_of_lt before))) decided
  refine ⟨answer, nowMs, fun delayMs => ?_⟩
  -- What is resolved by the end of the checkpoint is not open later on either.
  obtain ⟨after, known⟩ := steady.step seen (.snapshot : SessionStep ε)
  have since := after.nowMs_sleep delayMs
  rw [← clock] at since
  rw [after.pending_step known fun _ => rfl, since]
  exact congrArg Int.ofNat (custody.openAfter_elapse (Nat.le_add_right _ _))

end

/-- A checkpoint of an open sink, begun at any time, with the timeout and the interval of its
settings. Its polls come one step apart, where a step is the interval or thirty years, and each reads
the number of batches that are open then. If all outstanding batches are resolved before one of the
polls up to the first at which the timeout has passed, the checkpoint ends drained at the first such
poll. Otherwise it times out at that last poll, with the number of batches that are resolved after it
or never, and these stay counted until they are resolved. -/
theorem checkpoint_times (clock : UInt32) (kind : ClientKind) (fromFactory : Bool)
    (settings : Settings) (schema : UInt32 → ε → Option LogGroup)
    (positive : 0 < settings.pollIntervalMs) (script : List (SessionStep ε)) :
    let fresh := Session.new clock (.fresh kind fromFactory) (Sink.new settings schema)
    let session := fresh.after script
    let custody := (Custody.fresh kind).watchThrough script (fresh.run script)
    let begunMs := session.timeline.nowMs
    let stepMs := Sleep.lengthMs settings.pollIntervalMs
    let report := (session.step .snapshot).1
    let later := (session.step .snapshot).2
    session.isOpen = true →
    (∀ poll, ∀ time ∈ custody.times, time ≠ some (begunMs + poll * stepMs)) →
    ∀ last, IsLeast {poll | settings.flushTimeoutMs ≤ poll * stepMs} last →
      (∀ poll, (Timeline.count.atPoll session.sink.barrier 0 poll session.clear.timeline).nowMs =
          begunMs + poll * stepMs ∧
        (Timeline.count.atPoll session.sink.barrier 0 poll session.clear.timeline).pending =
          custody.openAfter (begunMs + poll * stepMs)) ∧
      (∀ first ≤ last, IsLeast {poll | custody.ResolvedBefore (begunMs + poll * stepMs)} first →
        report.answer = .waited ⟨.drained, first * stepMs, 0⟩ ∧
          report.nowMs = begunMs + first * stepMs ∧ report.pending = 0) ∧
      ((∀ poll ≤ last, ¬custody.ResolvedBefore (begunMs + poll * stepMs)) →
        report.answer =
            .waited ⟨.timedOut, last * stepMs, custody.openAfter (begunMs + last * stepMs)⟩ ∧
          report.nowMs = begunMs + last * stepMs ∧
          ∀ delayMs, (later.step (.sleep delayMs)).1.pending =
            custody.openAfter (report.nowMs + Sleep.lengthMs delayMs)) := by
  intro fresh session custody begunMs stepMs report later opened apart last least
  obtain ⟨steady, seen, same⟩ := (steady_new clock (.fresh kind fromFactory) schema positive).after
    (seen_new clock kind fromFactory _) script
  have barrier : session.sink.barrier = ⟨settings.flushTimeoutMs, settings.pollIntervalMs⟩ := by
    rw [Sink.barrier, same]
    rfl
  refine ⟨fun poll => ?_, fun first upTo drained => ?_, fun left => ?_⟩
  · have read := steady.poll seen poll
    rw [barrier] at read ⊢
    exact read
  · exact steady.snapshot_drained seen opened barrier apart least upTo drained
  · exact steady.snapshot_timedOut seen opened barrier apart least left

/-- One batch is open for good, and one for half of an interval more. -/
def lateScript : List (SessionStep LogGroup) :=
  [.openAt ⟨0, 1⟩, .invoke plainGroup, .invoke plainGroup, .resolveAfter 1 150 (.failed .dropped)]

theorem checkpoint_times_late :
    let session :=
      (Session.new 0 (.fresh .scripted false) (Sink.new plainSettings fun _ => some)).after lateScript
    session.isOpen = true ∧ (session.step .snapshot).1.answer = .waited ⟨.timedOut, 300, 1⟩ := by
  have times : ((Custody.fresh .scripted).watchThrough lateScript ((Session.new 0
      (.fresh .scripted false) (Sink.new plainSettings fun _ => some)).run lateScript)).times =
        [none, some 150] := rfl
  have apart : ∀ poll, ∀ time ∈ [none, some 150], time ≠ some (0 + poll * 100) := by
    intro poll time member
    rcases List.mem_cons.mp member with rfl | rest
    · simp
    · rw [List.mem_singleton.mp rest]
      intro same
      have equal := Option.some.inj same
      omega
  have least : IsLeast {poll | 250 ≤ poll * 100} 3 := by
    refine ⟨show 250 ≤ 3 * 100 by decide, ?_⟩
    intro poll reached
    have enough : 250 ≤ poll * 100 := reached
    omega
  have open_ : ∀ poll ≤ 3, ¬Custody.ResolvedBefore ((Custody.fresh .scripted).watchThrough lateScript
      ((Session.new 0 (.fresh .scripted false) (Sink.new plainSettings fun _ => some)).run
        lateScript)) (0 + poll * 100) := by
    intro poll _ resolved
    obtain ⟨resolvedMs, same, -⟩ := resolved none (by rw [times]; exact List.mem_cons_self)
    cases same
  have late := (checkpoint_times 0 .scripted false plainSettings (fun _ => some) (by decide)
    lateScript rfl (times ▸ apart) 3 least).2.2 open_
  exact ⟨rfl, late.1⟩

/-- An interval beyond the longest sleep. -/
def patientSettings : Settings :=
  ⟨⟨"project", "endpoint", "id", "key"⟩, "store", .standard 1, 5, 18446744073709551615, 0⟩

def patientScript : List (SessionStep LogGroup) := [.openAt ⟨0, 1⟩, .invoke plainGroup]

/-- With an interval beyond the longest sleep, the first poll at which the timeout has passed comes
before an interval has. -/
theorem checkpoint_before_interval :
    let fresh := Session.new 0 (.fresh .scripted false) (Sink.new patientSettings fun _ => some)
    let session := fresh.after patientScript
    session.isOpen = true ∧
      ((Custody.fresh .scripted).watchThrough patientScript (fresh.run patientScript)).times = [none] ∧
      IsLeast {poll | patientSettings.flushTimeoutMs ≤ poll * patientSettings.pollIntervalMs} 1 ∧
      (session.step .snapshot).1.answer = .waited ⟨.timedOut, 946080000000, 1⟩ ∧
      946080000000 < 1 * patientSettings.pollIntervalMs := by
  refine ⟨rfl, rfl, ⟨?_, ?_⟩, rfl, by decide⟩
  · show patientSettings.flushTimeoutMs ≤ 1 * patientSettings.pollIntervalMs
    decide
  · intro poll reached
    by_contra before
    have zero : poll = 0 := by omega
    have never : ¬patientSettings.flushTimeoutMs ≤ 0 * patientSettings.pollIntervalMs := by decide
    rw [zero] at reached
    exact never reached

end Session

end CheckpointSink
