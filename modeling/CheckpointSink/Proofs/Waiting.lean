import CheckpointSink.Proofs.Polling
import Mathlib.Data.List.GetD
import Mathlib.Data.Nat.Find

/-!
Waits in a row on a count whose readings are given beforehand, whatever they are, on a clock that
only the sleeps between the polls move. Each wait has a closed form in the readings that those before
it have left.
-/

namespace CheckpointSink

/-- A count that will be read as given, with what waiting for it has done so far. -/
structure Watch where
  readings : Nat → Int
  /-- The number of readings taken. -/
  taken : Nat
  nowMs : Nat
  /-- The oldest report first. -/
  reports : List Event

namespace Watch

def count : PolledCount Watch where
  read watch := (watch.readings watch.taken, { watch with taken := watch.taken + 1 })
  pass delayMs watch := { watch with nowMs := watch.nowMs + delayMs }
  enter event watch := { watch with reports := watch.reports ++ [event] }

/-- What the count will be read as, from the next reading on. -/
def reading (watch : Watch) (poll : Nat) : Int :=
  watch.readings (watch.taken + poll)

/-- The reports of polls that do not end the wait. -/
def waitingReports (barrier : Barrier) (watch : Watch) (polls : Nat) : List Event :=
  (List.range polls).map fun poll =>
    .waiting (watch.reading poll) (Event.reportedMs barrier.intervalMs)

/-- After some polls, each of them followed by a sleep. -/
def slept (barrier : Barrier) (watch : Watch) (sleeps : Nat) : Watch where
  readings := watch.readings
  taken := watch.taken + sleeps
  nowMs := watch.nowMs + sleeps * barrier.stepMs
  reports := watch.reports ++ watch.waitingReports barrier sleeps

/-- After as many sleeps and one more poll, with the report of it. -/
def ended (barrier : Barrier) (watch : Watch) (sleeps : Nat) (final : Event) : Watch where
  readings := watch.readings
  taken := watch.taken + (sleeps + 1)
  nowMs := watch.nowMs + sleeps * barrier.stepMs
  reports := watch.reports ++ watch.waitingReports barrier sleeps ++ [final]

def wait (barrier : Barrier) (watch : Watch) : Option WaitState × Watch :=
  drain count barrier barrier.pollBound 0 watch

/-- After waits in a row. -/
def after (barrier : Barrier) : Nat → Watch → Watch
  | 0, watch => watch
  | times + 1, watch => (watch.wait barrier).2.after barrier times

/-- A wait ends, with the same result and in the same surroundings however many polls it may make
beyond the ones that it needs. -/
def Ends (barrier : Barrier) (watch : Watch) (result : WaitState) (final : Watch) : Prop :=
  ∀ polls, barrier.pollBound ≤ polls → drain count barrier polls 0 watch = (some result, final)

variable {barrier : Barrier} {watch : Watch}

theorem waitingReports_succ (polls : Nat) : watch.waitingReports barrier (polls + 1) =
    watch.waitingReports barrier polls ++
      [.waiting (watch.reading polls) (Event.reportedMs barrier.intervalMs)] := by
  rw [waitingReports, List.range_succ, List.map_append]
  rfl

theorem slept_zero : watch.slept barrier 0 = watch := by
  simp [slept, waitingReports]

/-- One more poll that does not end the wait, and a sleep. -/
theorem slept_succ {sleeps elapsedMs : Nat} (left : 0 < watch.reading sleeps)
    (early : elapsedMs < barrier.timeoutMs) :
    let reached := watch.slept barrier sleeps
    let read := count.read reached
    count.pass barrier.stepMs (count.enter (barrier.report elapsedMs read.1) read.2) =
      watch.slept barrier (sleeps + 1) := by
  have report : barrier.report elapsedMs (watch.reading sleeps) =
      .waiting (watch.reading sleeps) (Event.reportedMs barrier.intervalMs) := by
    rw [Barrier.report, if_neg (by omega), if_neg (by omega)]
  show count.pass barrier.stepMs
    (count.enter (barrier.report elapsedMs (watch.reading sleeps)) _) = _
  rw [report]
  simp only [count, slept, waitingReports_succ, List.append_assoc, Nat.succ_mul, Nat.add_assoc]

theorem ended_eq {sleeps elapsedMs : Nat} :
    let reached := watch.slept barrier sleeps
    let read := count.read reached
    count.enter (barrier.report elapsedMs read.1) read.2 =
      watch.ended barrier sleeps (barrier.report elapsedMs (watch.reading sleeps)) := by
  rfl

theorem atPoll_eq {poll : Nat}
    (undecided : ∀ earlier < poll, 0 < watch.reading earlier ∧
      earlier * barrier.stepMs < barrier.timeoutMs) :
    count.atPoll barrier 0 poll watch = watch.slept barrier poll := by
  induction poll with
  | zero => rw [slept_zero, PolledCount.atPoll]
  | succ poll ih =>
    obtain ⟨left, early⟩ := undecided poll (Nat.lt_succ_self poll)
    have reached := ih fun earlier before => undecided earlier (Nat.lt_succ_of_lt before)
    rw [PolledCount.atPoll_succ, reached, Nat.zero_add]
    exact slept_succ left early

theorem ends_at {last : Nat} {result : WaitState} (enough : last < barrier.pollBound)
    (undecided : ∀ poll < last, 0 < watch.reading poll ∧
      poll * barrier.stepMs < barrier.timeoutMs)
    (decided : barrier.judge (last * barrier.stepMs) (watch.reading last) = some result) :
    watch.Ends barrier result
      (watch.ended barrier last (barrier.report (last * barrier.stepMs) (watch.reading last))) := by
  intro polls allowed
  have reached {poll : Nat} (upTo : poll ≤ last) :
      count.atPoll barrier 0 poll watch = watch.slept barrier poll :=
    atPoll_eq fun earlier before => undecided earlier (by omega)
  have before (poll : Nat) (earlier : poll < last) :
      barrier.judge (0 + poll * barrier.stepMs)
        (count.read (count.atPoll barrier 0 poll watch)).1 = none := by
    rw [reached (Nat.le_of_lt earlier), Nat.zero_add]
    exact Barrier.judge_none (undecided poll earlier).1 (undecided poll earlier).2
  have at_last : barrier.judge (0 + last * barrier.stepMs)
      (count.read (count.atPoll barrier 0 last watch)).1 = some result := by
    rw [reached (Nat.le_refl last), Nat.zero_add]
    exact decided
  rw [drain_eq count barrier (Nat.lt_of_lt_of_le enough allowed) before at_last,
    reached (Nat.le_refl last), Nat.zero_add, ended_eq]

theorem ends_drained {first late : Nat} (positive : 0 < barrier.intervalMs)
    (atLeast : IsLeast {poll | barrier.timeoutMs ≤ poll * barrier.stepMs} late)
    (least : IsLeast {poll | watch.reading poll ≤ 0} first) (inTime : first ≤ late) :
    watch.Ends barrier ⟨.drained, first * barrier.stepMs, watch.reading first⟩
      (watch.ended barrier first
        (.waitSucceeded (Event.reportedMs (first * barrier.stepMs)))) := by
  have empty : watch.reading first ≤ 0 := least.1
  have report : barrier.report (first * barrier.stepMs) (watch.reading first) =
      .waitSucceeded (Event.reportedMs (first * barrier.stepMs)) := by
    rw [Barrier.report, if_pos empty]
  rw [← report]
  refine ends_at (Nat.lt_of_le_of_lt inTime (Barrier.lt_pollBound positive atLeast))
    (fun poll before => ⟨?_, ?_⟩) (Barrier.judge_drained empty)
  · apply Int.lt_of_not_ge
    intro settled
    exact absurd (least.2 settled) (Nat.not_le_of_lt before)
  · exact Barrier.early_of_least atLeast (Nat.lt_of_lt_of_le before inTime)

theorem ends_timedOut {late : Nat} (positive : 0 < barrier.intervalMs)
    (atLeast : IsLeast {poll | barrier.timeoutMs ≤ poll * barrier.stepMs} late)
    (left : ∀ poll ≤ late, 0 < watch.reading poll) :
    watch.Ends barrier ⟨.timedOut, late * barrier.stepMs, watch.reading late⟩
      (watch.ended barrier late
        (.waitTimedOut (Event.reportedMs barrier.timeoutMs) (watch.reading late))) := by
  have some_left := left late (Nat.le_refl late)
  have passed : barrier.timeoutMs ≤ late * barrier.stepMs := atLeast.1
  have report : barrier.report (late * barrier.stepMs) (watch.reading late) =
      .waitTimedOut (Event.reportedMs barrier.timeoutMs) (watch.reading late) := by
    rw [Barrier.report, if_neg (by omega), if_pos passed]
  rw [← report]
  exact ends_at (Barrier.lt_pollBound positive atLeast)
    (fun poll before => ⟨left poll (Nat.le_of_lt before), Barrier.early_of_least atLeast before⟩)
    (Barrier.judge_timedOut some_left passed)

/-- The first poll at which the timeout has passed is less than an interval late. -/
theorem exists_late (positive : 0 < barrier.intervalMs) :
    ∃ late, IsLeast {poll | barrier.timeoutMs ≤ poll * barrier.stepMs} late ∧
      late * barrier.stepMs < barrier.timeoutMs + barrier.stepMs := by
  have lasts := Barrier.stepMs_pos positive
  have reached : ∃ poll, barrier.timeoutMs ≤ poll * barrier.stepMs :=
    ⟨barrier.timeoutMs, Nat.le_mul_of_pos_right _ lasts⟩
  obtain ⟨late, least⟩ : ∃ late, IsLeast {poll | barrier.timeoutMs ≤ poll * barrier.stepMs} late :=
    ⟨Nat.find reached, Nat.find_spec reached, fun poll passed => Nat.find_min' reached passed⟩
  refine ⟨late, least, ?_⟩
  cases late with
  | zero => omega
  | succ before =>
    have early := Barrier.early_of_least least (Nat.lt_succ_self before)
    rw [Nat.succ_mul]
    omega

theorem exists_first_settled {poll : Nat} (settled : watch.reading poll ≤ 0) :
    ∃ first ≤ poll, IsLeast {poll | watch.reading poll ≤ 0} first := by
  have some_settled : ∃ poll, watch.reading poll ≤ 0 := ⟨poll, settled⟩
  exact ⟨Nat.find some_settled, Nat.find_min' some_settled settled, Nat.find_spec some_settled,
    fun _ empty => Nat.find_min' some_settled empty⟩

theorem left_of_unsettled {late : Nat}
    (unsettled : ∀ first ≤ late, ¬IsLeast {poll | watch.reading poll ≤ 0} first) (poll : Nat)
    (upTo : poll ≤ late) : 0 < watch.reading poll := by
  apply Int.lt_of_not_ge
  intro settled
  obtain ⟨first, before, least⟩ := exists_first_settled settled
  exact unsettled first (Nat.le_trans before upTo) least

theorem exists_ends (positive : 0 < barrier.intervalMs) (watch : Watch) :
    ∃ result final, watch.Ends barrier result final := by
  obtain ⟨late, least, -⟩ := exists_late positive
  by_cases settled : ∃ first ≤ late, IsLeast {poll | watch.reading poll ≤ 0} first
  · obtain ⟨first, inTime, settles⟩ := settled
    exact ⟨_, _, ends_drained positive least settles inTime⟩
  · exact ⟨_, _, ends_timedOut positive least (left_of_unsettled fun first inTime settles =>
      settled ⟨first, inTime, settles⟩)⟩

theorem wait_eq {result : WaitState} {final : Watch} (ends : watch.Ends barrier result final) :
    watch.wait barrier = (some result, final) :=
  ends barrier.pollBound (Nat.le_refl _)

theorem after_succ (times : Nat) :
    watch.after barrier (times + 1) = ((watch.after barrier times).wait barrier).2 := by
  induction times generalizing watch with
  | zero => rfl
  | succ times ih => exact ih

theorem readings_after (times : Nat) : (watch.after barrier times).readings = watch.readings := by
  induction times with
  | zero => rfl
  | succ times ih =>
    rw [after_succ, ← ih]
    exact drain_keeps count barrier (fun other => other.readings = (watch.after barrier times).readings)
      (fun _ kept => kept) (fun _ _ _ kept => kept) (fun _ kept => kept) _ _ _ rfl

theorem levels_ended (sleeps : Nat) (final : Event) :
    (watch.ended barrier sleeps final).reports.map Event.level =
      watch.reports.map Event.level ++ List.replicate sleeps .debug ++ [final.level] := by
  have debug : (watch.waitingReports barrier sleeps).map Event.level =
      List.replicate sleeps .debug := by
    induction sleeps with
    | zero => rfl
    | succ sleeps ih =>
      rw [waitingReports_succ, List.map_append, ih, List.replicate_succ']
      rfl
  simp only [ended, List.map_append, debug, List.map_cons, List.map_nil]

/-- A wait on a count, begun at any time after other waits on it. Its polls come one step apart,
where a step is the interval or thirty years; the timeout has passed first at some poll, less than a
step late. If the count is zero or below at one of the polls up to that one, the wait ends at the
first such poll, drained; otherwise it ends at that poll, timed out. It has then taken one reading
more than it has slept, with a report of every sleep and one of its end, whose durations are cut to 64
bits, and leaves the other readings to the next wait. -/
theorem wait_in_closed_form (barrier : Barrier) (positive : 0 < barrier.intervalMs) (fresh : Watch)
    (earlier : Nat) :
    let stepMs := Sleep.lengthMs barrier.intervalMs
    let watch := fresh.after barrier earlier
    watch.readings = fresh.readings ∧
    (∀ result final, watch.Ends barrier result final →
      fresh.after barrier (earlier + 1) = final) ∧
    ∃ late, IsLeast {poll | barrier.timeoutMs ≤ poll * stepMs} late ∧
      late * stepMs < barrier.timeoutMs + stepMs ∧
      (∀ first ≤ late, IsLeast {poll | watch.reading poll ≤ 0} first →
        let final :=
          watch.ended barrier first (.waitSucceeded (Event.reportedMs (first * stepMs)))
        watch.Ends barrier ⟨.drained, first * stepMs, watch.reading first⟩ final ∧
          final.reports.map Event.level =
            watch.reports.map Event.level ++ List.replicate first .debug ++ [.info]) ∧
      ((∀ first ≤ late, ¬IsLeast {poll | watch.reading poll ≤ 0} first) →
        let final := watch.ended barrier late
          (.waitTimedOut (Event.reportedMs barrier.timeoutMs) (watch.reading late))
        watch.Ends barrier ⟨.timedOut, late * stepMs, watch.reading late⟩ final ∧
          final.reports.map Event.level =
            watch.reports.map Event.level ++ List.replicate late .debug ++ [.warn]) := by
  intro stepMs watch
  obtain ⟨late, least, soon⟩ := exists_late positive
  refine ⟨readings_after earlier, fun result final ends => ?_, late, least, soon,
    fun first inTime settled => ⟨ends_drained positive least settled inTime, levels_ended ..⟩,
    fun unsettled =>
      ⟨ends_timedOut positive least (left_of_unsettled unsettled), levels_ended ..⟩⟩
  rw [after_succ, wait_eq ends]

/-- The count is zero at the third reading only. -/
def brieflySettled : Watch :=
  ⟨fun reading => if reading = 2 then 0 else 1, 0, 0, []⟩

theorem wait_in_closed_form_again :
    (0 < (⟨250, 100⟩ : Barrier).intervalMs) ∧
      (brieflySettled.wait ⟨250, 100⟩).1 = some ⟨.drained, 200, 0⟩ ∧
      ((brieflySettled.after ⟨250, 100⟩ 1).wait ⟨250, 100⟩).1 = some ⟨.timedOut, 300, 1⟩ ∧
      (brieflySettled.after ⟨250, 100⟩ 2).taken = 7 := by
  have positive : 0 < (⟨250, 100⟩ : Barrier).intervalMs := by decide
  obtain ⟨-, next, late, least, -, -, timedOut⟩ :=
    wait_in_closed_form ⟨250, 100⟩ positive brieflySettled 1
  have third : late = 3 := by
    have passed : 250 ≤ late * 100 := least.1
    have first : late ≤ 3 := least.2 (show 250 ≤ 3 * 100 by decide)
    omega
  have one (poll : Nat) : (brieflySettled.after ⟨250, 100⟩ 1).reading poll = 1 := by
    show (if 0 + (2 + 1) + poll = 2 then (0 : Int) else 1) = 1
    rw [if_neg (by omega)]
  have left (poll : Nat) : ¬(brieflySettled.after ⟨250, 100⟩ 1).reading poll ≤ 0 := by
    rw [one]
    decide
  have ends := (timedOut fun first _ settled => left first settled.1).1
  rw [third] at ends
  refine ⟨positive, rfl, ?_, ?_⟩
  · rw [wait_eq ends, one]
    rfl
  · rw [next _ _ ends]
    rfl

/-- With an interval beyond the longest sleep, the timeout has passed at the poll that ends the wait,
but an interval has not. -/
theorem wait_before_interval :
    let barrier : Barrier := ⟨946080000000, 946080000001⟩
    let watch : Watch := ⟨fun _ => 1, 0, 0, []⟩
    IsLeast {poll | barrier.timeoutMs ≤ poll * barrier.intervalMs} 1 ∧
      (watch.wait barrier).1 = some ⟨.timedOut, 946080000000, 1⟩ ∧
      946080000000 < 1 * barrier.intervalMs := by
  refine ⟨⟨show 946080000000 ≤ 1 * 946080000001 by decide, fun poll passed => ?_⟩, rfl, by decide⟩
  have enough : 946080000000 ≤ poll * 946080000001 := passed
  omega

/-- Waits in a row, each with its own reports and the readings taken up to its end. -/
def waits (barrier : Barrier) : Nat → Watch → List (Option WaitState × List Event × Nat)
  | 0, _ => []
  | times + 1, watch =>
    let ended := watch.wait barrier
    (ended.1, ended.2.reports.drop watch.reports.length, ended.2.taken) :: ended.2.waits barrier times

/-- A count with readings from a list, the last of which repeats. -/
def ofList (readings : List Int) : Watch :=
  ⟨fun taken => readings.getD taken (readings.getLastD 0), 0, 0, []⟩

/-- Readings from a list and a watch of the same count, since some reports of the watch. -/
structure Follows (earlier : List Event) (readings : Readings) (watch : Watch) : Prop where
  reading : ∀ poll, watch.reading poll = readings.next.getD poll readings.last
  taken : watch.taken = readings.taken
  reports : watch.reports = earlier ++ readings.reports.reverse

theorem Follows.read {earlier : List Event} {readings : Readings}
    (follows : Follows earlier readings watch) :
    (Readings.count.read readings).1 = (count.read watch).1 ∧
      Follows earlier (Readings.count.read readings).2 (count.read watch).2 := by
  have now : (count.read watch).1 = watch.reading 0 := rfl
  have later (poll : Nat) : (count.read watch).2.reading poll = watch.reading (poll + 1) :=
    congrArg watch.readings (by show watch.taken + 1 + poll = watch.taken + (poll + 1); omega)
  rw [now, follows.reading]
  cases next : readings.next with
  | nil =>
    simp only [Readings.count, next]
    refine ⟨rfl, fun poll => ?_, congrArg (· + 1) follows.taken, follows.reports⟩
    rw [later, follows.reading, next]
    rfl
  | cons first rest =>
    simp only [Readings.count, next]
    refine ⟨rfl, fun poll => ?_, congrArg (· + 1) follows.taken, follows.reports⟩
    rw [later, follows.reading, next]
    rfl

theorem Follows.enter {earlier : List Event} {readings : Readings}
    (follows : Follows earlier readings watch) (event : Event) :
    Follows earlier (Readings.count.enter event readings) (count.enter event watch) where
  reading := follows.reading
  taken := follows.taken
  reports := by
    show watch.reports ++ [event] = earlier ++ (event :: readings.reports).reverse
    rw [follows.reports, List.reverse_cons, List.append_assoc]

theorem follows_ofList (readings : List Int) : Follows [] (.ofList readings) (ofList readings) where
  reading poll := by
    show readings.getD (0 + poll) _ = _
    rw [Nat.zero_add]
    rfl
  taken := rfl
  reports := rfl

theorem waits_of_follows {readings : Readings} {earlier : List Event} (positive : 0 < barrier.intervalMs)
    (follows : Follows earlier readings watch) (times : Nat) :
    Readings.waits barrier times readings = watch.waits barrier times := by
  induction times generalizing readings watch earlier with
  | zero => rfl
  | succ times ih =>
    have start : Follows watch.reports { readings with reports := [] } watch :=
      ⟨follows.reading, follows.taken, (List.append_nil _).symm⟩
    obtain ⟨result, final, ends⟩ := exists_ends positive watch
    obtain ⟨same, after⟩ := drain_alike Readings.count count barrier (Follows watch.reports)
      (fun _ _ alike => alike.read) (fun event _ _ alike => alike.enter event)
      (fun _ _ alike => ⟨alike.reading, alike.taken, alike.reports⟩)
      (barrier.pollBound + readings.next.length) 0 _ _ start
    -- The polls that a list allows beyond the bound are not needed.
    rw [ends _ (Nat.le_add_right _ _)] at same after
    rw [Readings.waits, waits, wait_eq ends, Readings.wait, same, ih after, after.reports,
      List.drop_left, after.taken]

/-- Waits on readings from a list are such waits, and have their closed form. -/
theorem waits_ofList (positive : 0 < barrier.intervalMs) (readings : List Int) (times : Nat) :
    Readings.waits barrier times (.ofList readings) = (ofList readings).waits barrier times :=
  waits_of_follows positive (follows_ofList readings) times

end Watch
end CheckpointSink
