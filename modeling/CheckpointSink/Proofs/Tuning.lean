import CheckpointSink.Proofs.Polling
import Mathlib.Data.Nat.Find
import Mathlib.Logic.ExistsUnique

/-!
Waits compared, on a count that depends on the time alone. A wait ends at the first of its polls at
which the count is zero or below or the timeout has passed. So it ends no later than another one
whenever it polls at the end of that one and would be over by then, and this is what a shorter timeout,
a lower count and an interval that divides the other one have in common.
-/

namespace CheckpointSink

/-- A count that is given by the time since the start of the wait. -/
structure TimedCount where
  pendingAt : Nat → Int
  nowMs : Nat

namespace TimedCount

def count : PolledCount TimedCount where
  read timed := (timed.pendingAt timed.nowMs, timed)
  pass delayMs timed := { timed with nowMs := timed.nowMs + delayMs }
  enter _ timed := timed

/-- The wait ends with this result, however many polls it takes, and the clock then shows the time that
the result tells. -/
def Ends (barrier : Barrier) (pendingAt : Nat → Int) (result : WaitState) : Prop :=
  ∃ polls, drain count barrier polls 0 ⟨pendingAt, 0⟩ =
    (some result, ⟨pendingAt, result.elapsedMs⟩)

/-- A poll at this time ends the wait. -/
def Over (barrier : Barrier) (pendingAt : Nat → Int) (elapsedMs : Nat) : Prop :=
  pendingAt elapsedMs ≤ 0 ∨ barrier.timeoutMs ≤ elapsedMs

instance (barrier : Barrier) (pendingAt : Nat → Int) :
    DecidablePred (Over barrier pendingAt) :=
  fun elapsedMs => inferInstanceAs (Decidable (pendingAt elapsedMs ≤ 0 ∨ _ ≤ elapsedMs))

/-- The result of a wait that ends at this time. -/
def verdict (pendingAt : Nat → Int) (elapsedMs : Nat) : WaitState :=
  ⟨if pendingAt elapsedMs ≤ 0 then .drained else .timedOut, elapsedMs, pendingAt elapsedMs⟩

variable {barrier : Barrier} {pendingAt : Nat → Int} {result : WaitState} {elapsedMs : Nat}

theorem judge_over (finished : Over barrier pendingAt elapsedMs) :
    barrier.judge elapsedMs (pendingAt elapsedMs) = some (verdict pendingAt elapsedMs) := by
  unfold verdict
  by_cases empty : pendingAt elapsedMs ≤ 0
  · rw [Barrier.judge_drained empty, if_pos empty]
  · have late : barrier.timeoutMs ≤ elapsedMs := finished.resolve_left empty
    rw [Barrier.judge_timedOut (by omega) late, if_neg empty]

theorem judge_not_over (early : ¬Over barrier pendingAt elapsedMs) :
    barrier.judge elapsedMs (pendingAt elapsedMs) = none := by
  obtain ⟨left, before⟩ := not_or.mp early
  exact Barrier.judge_none (by omega) (by omega)

theorem drained_iff : (verdict pendingAt elapsedMs).outcome = .drained ↔ pendingAt elapsedMs ≤ 0 := by
  unfold verdict
  split <;> simp [*]

theorem atPoll_eq (poll : Nat) : count.atPoll barrier elapsedMs poll ⟨pendingAt, elapsedMs⟩ =
    ⟨pendingAt, elapsedMs + poll * barrier.stepMs⟩ := by
  induction poll with
  | zero => simp only [PolledCount.atPoll, Nat.zero_mul, Nat.add_zero]
  | succ poll ih =>
    rw [PolledCount.atPoll_succ, ih]
    simp only [count, Nat.succ_mul, Nat.add_assoc]

theorem ends_at {last : Nat}
    (before : ∀ poll < last, ¬Over barrier pendingAt (poll * barrier.stepMs))
    (finished : Over barrier pendingAt (last * barrier.stepMs)) :
    Ends barrier pendingAt (verdict pendingAt (last * barrier.stepMs)) := by
  have read (poll : Nat) : (count.read (count.atPoll barrier 0 poll ⟨pendingAt, 0⟩)).1 =
      pendingAt (0 + poll * barrier.stepMs) := by
    rw [atPoll_eq]
    rfl
  have undecided (poll : Nat) (earlier : poll < last) :
      barrier.judge (0 + poll * barrier.stepMs)
        (count.read (count.atPoll barrier 0 poll ⟨pendingAt, 0⟩)).1 = none := by
    rw [read, Nat.zero_add]
    exact judge_not_over (before poll earlier)
  have decided : barrier.judge (0 + last * barrier.stepMs)
      (count.read (count.atPoll barrier 0 last ⟨pendingAt, 0⟩)).1 =
        some (verdict pendingAt (last * barrier.stepMs)) := by
    rw [read, Nat.zero_add]
    exact judge_over finished
  refine ⟨last + 1, ?_⟩
  rw [drain_eq count barrier (Nat.lt_succ_self last) undecided decided, atPoll_eq, Nat.zero_add]
  rfl

/-- A wait that ends does so at the first poll that ends it. -/
theorem Ends.exists_first (ends : Ends barrier pendingAt result) :
    ∃ last, result = verdict pendingAt (last * barrier.stepMs) ∧
      Over barrier pendingAt (last * barrier.stepMs) ∧
      ∀ poll < last, ¬Over barrier pendingAt (poll * barrier.stepMs) := by
  obtain ⟨polls, ended⟩ := ends
  obtain ⟨last, -, undecided, decided⟩ := first_decided ended
  simp only [atPoll_eq, Nat.zero_add] at undecided decided
  have early (poll : Nat) (earlier : poll < last) :
      ¬Over barrier pendingAt (poll * barrier.stepMs) := by
    intro finished
    have judged := undecided poll earlier
    cases (judge_over finished).symm.trans judged
  have finished : Over barrier pendingAt (last * barrier.stepMs) := by
    apply Decidable.byContradiction
    intro notOver
    cases (judge_not_over notOver).symm.trans decided
  have judged := (judge_over finished).symm.trans decided
  exact ⟨last, (Option.some.inj judged).symm, finished, early⟩

/-- If the wait polls at some time and would be finished then, it ends, and at that time or before. -/
theorem exists_ends_by (barrier : Barrier) (pendingAt : Nat → Int)
    (polled : barrier.stepMs ∣ elapsedMs) (finished : Over barrier pendingAt elapsedMs) :
    ∃ result, Ends barrier pendingAt result ∧ result.elapsedMs ≤ elapsedMs := by
  obtain ⟨poll, rfl⟩ := polled
  rw [Nat.mul_comm] at finished ⊢
  have reached : ∃ poll, Over barrier pendingAt (poll * barrier.stepMs) := ⟨poll, finished⟩
  have ends := ends_at (fun _ before => Nat.find_min reached before) (Nat.find_spec reached)
  refine ⟨_, ends, Nat.mul_le_mul_right barrier.stepMs ?_⟩
  exact Nat.find_min' reached finished

namespace Ends

/-- What a wait has come to when it ends. -/
theorem atEnd (ends : Ends barrier pendingAt result) :
    barrier.stepMs ∣ result.elapsedMs ∧ Over barrier pendingAt result.elapsedMs ∧
      result = verdict pendingAt result.elapsedMs := by
  obtain ⟨last, rfl, finished, -⟩ := ends.exists_first
  exact ⟨Nat.dvd_mul_left _ _, finished, rfl⟩

theorem unique (ends : Ends barrier pendingAt result) {other : WaitState}
    (also : Ends barrier pendingAt other) : other = result := by
  obtain ⟨first, rfl, finished, early⟩ := ends.exists_first
  obtain ⟨second, rfl, alsoOver, alsoEarly⟩ := also.exists_first
  rcases Nat.lt_trichotomy first second with before | same | after
  · exact absurd finished (alsoEarly first before)
  · rw [same]
  · exact absurd alsoOver (early second after)

theorem elapsed_le (ends : Ends barrier pendingAt result) (polled : barrier.stepMs ∣ elapsedMs)
    (finished : Over barrier pendingAt elapsedMs) : result.elapsedMs ≤ elapsedMs := by
  obtain ⟨other, also, soon⟩ := exists_ends_by barrier pendingAt polled finished
  rw [← ends.unique also]
  exact soon

/-- A later timeout is no concern of a wait that ends before it, drained. -/
theorem with_later_timeout (ends : Ends barrier pendingAt result) {laterMs : Nat}
    (late : barrier.timeoutMs ≤ laterMs) (drained : result.outcome = .drained) :
    Ends ⟨laterMs, barrier.intervalMs⟩ pendingAt result := by
  obtain ⟨polled, -, eq⟩ := ends.atEnd
  have empty : pendingAt result.elapsedMs ≤ 0 := drained_iff.mp (eq ▸ drained)
  obtain ⟨other, also, soon⟩ :=
    exists_ends_by ⟨laterMs, barrier.intervalMs⟩ pendingAt polled (.inl empty)
  obtain ⟨alsoPolled, alsoOver, alsoEq⟩ := also.atEnd
  have finished : Over barrier pendingAt other.elapsedMs :=
    alsoOver.imp_right fun passed => Nat.le_trans late passed
  have same : other.elapsedMs = result.elapsedMs :=
    Nat.le_antisymm soon (ends.elapsed_le alsoPolled finished)
  rw [eq, ← same, ← alsoEq]
  exact also

theorem elapsed_le_of_timeout_le (ends : Ends barrier pendingAt result) {laterMs : Nat}
    (late : barrier.timeoutMs ≤ laterMs) {later : WaitState}
    (also : Ends ⟨laterMs, barrier.intervalMs⟩ pendingAt later) :
    result.elapsedMs ≤ later.elapsedMs := by
  obtain ⟨polled, finished, -⟩ := also.atEnd
  exact ends.elapsed_le polled (finished.imp_right fun passed => Nat.le_trans late passed)

/-- A lower count ends a wait no later, and drained if the wait was. -/
theorem with_lower_count (ends : Ends barrier pendingAt result) {fewerAt : Nat → Int}
    (fewer : ∀ elapsedMs, fewerAt elapsedMs ≤ pendingAt elapsedMs) :
    ∃ sooner, Ends barrier fewerAt sooner ∧ sooner.elapsedMs ≤ result.elapsedMs ∧
      (result.outcome = .drained → sooner.outcome = .drained) := by
  obtain ⟨polled, finished, eq⟩ := ends.atEnd
  obtain ⟨sooner, also, soon⟩ := exists_ends_by barrier fewerAt polled
    (finished.imp_left fun empty => Int.le_trans (fewer _) empty)
  refine ⟨sooner, also, soon, fun drained => ?_⟩
  obtain ⟨alsoPolled, alsoOver, alsoEq⟩ := also.atEnd
  rw [alsoEq, drained_iff]
  rcases alsoOver with empty | late
  · exact empty
  · -- The timeout has passed, so that the other wait is finished as well, and was not before.
    have same : sooner.elapsedMs = result.elapsedMs :=
      Nat.le_antisymm soon (ends.elapsed_le alsoPolled (.inr late))
    have empty : pendingAt result.elapsedMs ≤ 0 := drained_iff.mp (eq ▸ drained)
    rw [same]
    exact Int.le_trans (fewer _) empty

end Ends

theorem exists_ends (barrier : Barrier) (positive : 0 < barrier.intervalMs)
    (pendingAt : Nat → Int) : ∃ result, Ends barrier pendingAt result := by
  have lasts := Barrier.stepMs_pos positive
  obtain ⟨result, ends, -⟩ := exists_ends_by barrier pendingAt
    (Nat.dvd_mul_left barrier.stepMs barrier.timeoutMs)
    (.inr (Nat.le_mul_of_pos_right barrier.timeoutMs lasts))
  exact ⟨result, ends⟩

/-- With a timeout as long as one sleep, a wait on a count that stays above zero ends after that sleep;
by sleeps of which no number takes as long it ends only later. -/
theorem longer_of_not_dvd {fineMs coarseMs : Nat}
    (uneven : ¬Sleep.lengthMs fineMs ∣ Sleep.lengthMs coarseMs) {sooner result : WaitState}
    (fine : Ends ⟨Sleep.lengthMs coarseMs, fineMs⟩ (fun _ => 1) sooner)
    (coarse : Ends ⟨Sleep.lengthMs coarseMs, coarseMs⟩ (fun _ => 1) result) :
    result.elapsedMs < sooner.elapsedMs := by
  have atMost : result.elapsedMs ≤ Sleep.lengthMs coarseMs :=
    coarse.elapsed_le (Nat.dvd_refl _) (.inr (Nat.le_refl _))
  obtain ⟨polled, finished, -⟩ := fine.atEnd
  have atLeast : Sleep.lengthMs coarseMs ≤ sooner.elapsedMs := finished.resolve_left (by simp)
  have differ : sooner.elapsedMs ≠ Sleep.lengthMs coarseMs := by
    intro same
    rw [same] at polled
    exact uneven polled
  omega

/-- A wait whose interval is above zero ends, in one way. With a later timeout it lasts at least as
long, and it ends as before if it is drained. Where one sleep takes as long as some sleeps of another
interval, the wait with that interval is never the longer one; and this is so for no other pair of
intervals, since some timeout and some count tell them apart. On a lower count the wait ends no later,
and it is drained if it was. -/
theorem wait_monotone (intervalMs : Nat) :
    (0 < intervalMs → ∀ timeoutMs pendingAt,
      ∃! result, Ends ⟨timeoutMs, intervalMs⟩ pendingAt result) ∧
    (∀ timeoutMs laterMs pendingAt result, timeoutMs ≤ laterMs →
      Ends ⟨timeoutMs, intervalMs⟩ pendingAt result →
        (result.outcome = .drained → Ends ⟨laterMs, intervalMs⟩ pendingAt result) ∧
        ∀ later, Ends ⟨laterMs, intervalMs⟩ pendingAt later →
          result.elapsedMs ≤ later.elapsedMs) ∧
    (∀ fineMs, 0 < fineMs → 0 < intervalMs →
      (Sleep.lengthMs fineMs ∣ Sleep.lengthMs intervalMs ↔
        ∀ timeoutMs pendingAt sooner result, Ends ⟨timeoutMs, fineMs⟩ pendingAt sooner →
          Ends ⟨timeoutMs, intervalMs⟩ pendingAt result →
            sooner.elapsedMs ≤ result.elapsedMs)) ∧
    (∀ timeoutMs pendingAt fewerAt result, (∀ elapsedMs, fewerAt elapsedMs ≤ pendingAt elapsedMs) →
      Ends ⟨timeoutMs, intervalMs⟩ pendingAt result →
        ∃ sooner, Ends ⟨timeoutMs, intervalMs⟩ fewerAt sooner ∧
          sooner.elapsedMs ≤ result.elapsedMs ∧
          (result.outcome = .drained → sooner.outcome = .drained)) := by
  refine ⟨?_, ?_, ?_, ?_⟩
  · intro positive timeoutMs pendingAt
    obtain ⟨result, ends⟩ := exists_ends ⟨timeoutMs, intervalMs⟩ positive pendingAt
    exact ⟨result, ends, fun _ also => ends.unique also⟩
  · intro timeoutMs laterMs pendingAt result late ends
    exact ⟨ends.with_later_timeout late, fun _ also => ends.elapsed_le_of_timeout_le late also⟩
  · intro fineMs finePositive positive
    constructor
    · intro divides timeoutMs pendingAt sooner result fine coarse
      obtain ⟨polled, finished, -⟩ := coarse.atEnd
      exact fine.elapsed_le (Nat.dvd_trans divides polled) finished
    · intro shorter
      apply Decidable.byContradiction
      intro uneven
      obtain ⟨sooner, fine⟩ :=
        exists_ends ⟨Sleep.lengthMs intervalMs, fineMs⟩ finePositive fun _ => 1
      obtain ⟨result, coarse⟩ :=
        exists_ends ⟨Sleep.lengthMs intervalMs, intervalMs⟩ positive fun _ => 1
      have longer := longer_of_not_dvd uneven fine coarse
      exact absurd (shorter _ _ _ _ fine coarse) (Nat.not_le_of_lt longer)
  · intro timeoutMs pendingAt fewerAt result fewer ends
    exact ends.with_lower_count fewer

/-- An interval beyond the longest sleep is twice another one, but its sleeps are not, and the wait with
the other one is longer. -/
theorem longer_by_half_interval :
    1000000000000 = 2 * 500000000000 ∧
      Ends ⟨946080000000, 1000000000000⟩ (fun _ => 1) ⟨.timedOut, 946080000000, 1⟩ ∧
      Ends ⟨946080000000, 500000000000⟩ (fun _ => 1) ⟨.timedOut, 1000000000000, 1⟩ :=
  ⟨rfl, ⟨2, rfl⟩, ⟨3, rfl⟩⟩

end TimedCount
end CheckpointSink
