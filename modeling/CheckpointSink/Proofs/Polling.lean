import CheckpointSink.Barrier
import Mathlib.Order.Bounds.Defs

/-!
Waiting by polls, whatever the count is and whatever happens between the polls.
-/

namespace CheckpointSink

namespace Barrier

variable {barrier : Barrier} {elapsedMs : Nat} {pending : Int}

theorem judge_drained (empty : pending ≤ 0) :
    barrier.judge elapsedMs pending = some ⟨.drained, elapsedMs, pending⟩ := by
  rw [judge, if_pos empty]

theorem judge_timedOut (left : 0 < pending) (late : barrier.timeoutMs ≤ elapsedMs) :
    barrier.judge elapsedMs pending = some ⟨.timedOut, elapsedMs, pending⟩ := by
  rw [judge, if_neg (by omega), if_pos late]

theorem judge_none (left : 0 < pending) (early : elapsedMs < barrier.timeoutMs) :
    barrier.judge elapsedMs pending = none := by
  rw [judge, if_neg (by omega), if_neg (by omega)]

theorem stepMs_pos (positive : 0 < barrier.intervalMs) : 0 < barrier.stepMs := by
  apply Nat.lt_min.mpr
  exact ⟨positive, by decide⟩

/-- The time of a later poll, counted from the first or from the second one. -/
theorem elapsed_succ (barrier : Barrier) (elapsedMs poll : Nat) :
    elapsedMs + (poll + 1) * barrier.stepMs =
      elapsedMs + barrier.stepMs + poll * barrier.stepMs := by
  rw [Nat.succ_mul]
  omega

end Barrier

variable {σ : Type}

/-- What reading, reporting and passing time keep, a whole wait keeps. -/
theorem drain_keeps (count : PolledCount σ) (barrier : Barrier) (kept : σ → Prop)
    (read : ∀ state, kept state → kept (count.read state).2)
    (report : ∀ elapsedMs pending state, kept state →
      kept (count.enter (barrier.report elapsedMs pending) state))
    (pass : ∀ state, kept state → kept (count.pass barrier.stepMs state)) (polls elapsedMs : Nat)
    (state : σ) (start : kept state) : kept (drain count barrier polls elapsedMs state).2 := by
  induction polls generalizing elapsedMs state with
  | zero => exact start
  | succ polls ih =>
    have reported := report elapsedMs (count.read state).1 _ (read state start)
    simp only [drain]
    cases barrier.judge elapsedMs (count.read state).1 with
    | some result => exact reported
    | none => exact ih _ _ (pass _ reported)

/-- A wait that ends does so at a poll, and what leads from poll to poll leads to that one. -/
theorem drain_ended {count : PolledCount σ} {barrier : Barrier} {polls elapsedMs : Nat} {state : σ}
    {result : WaitState} {final : σ}
    (ended : drain count barrier polls elapsedMs state = (some result, final))
    (reached : Nat → σ → Prop) (start : reached elapsedMs state)
    (next : ∀ elapsedMs state, reached elapsedMs state → reached (elapsedMs + barrier.stepMs)
      (count.pass barrier.stepMs (count.enter (barrier.report elapsedMs (count.read state).1)
        (count.read state).2))) :
    ∃ elapsedMs last, reached elapsedMs last ∧
      barrier.judge elapsedMs (count.read last).1 = some result ∧
        final = count.enter (barrier.report elapsedMs (count.read last).1) (count.read last).2 := by
  induction polls generalizing elapsedMs state with
  | zero => cases ended
  | succ polls ih =>
    simp only [drain] at ended
    cases judged : barrier.judge elapsedMs (count.read state).1 with
    | some decided =>
      rw [judged] at ended
      cases ended
      exact ⟨elapsedMs, state, start, judged, rfl⟩
    | none =>
      rw [judged] at ended
      exact ih ended (next elapsedMs state start)

/-- Two waits go alike where reading, reporting and passing time do. -/
theorem drain_alike {τ : Type} (count : PolledCount σ) (other : PolledCount τ) (barrier : Barrier)
    (alike : σ → τ → Prop)
    (read : ∀ first second, alike first second → (count.read first).1 = (other.read second).1 ∧
      alike (count.read first).2 (other.read second).2)
    (enter : ∀ event first second, alike first second →
      alike (count.enter event first) (other.enter event second))
    (pass : ∀ first second, alike first second →
      alike (count.pass barrier.stepMs first) (other.pass barrier.stepMs second))
    (polls elapsedMs : Nat) (first : σ) (second : τ) (start : alike first second) :
    (drain count barrier polls elapsedMs first).1 = (drain other barrier polls elapsedMs second).1 ∧
      alike (drain count barrier polls elapsedMs first).2
        (drain other barrier polls elapsedMs second).2 := by
  induction polls generalizing elapsedMs first second with
  | zero => exact ⟨rfl, start⟩
  | succ polls ih =>
    obtain ⟨same, after⟩ := read first second start
    have reported := enter (barrier.report elapsedMs (other.read second).1) _ _ after
    simp only [drain, same]
    cases barrier.judge elapsedMs (other.read second).1 with
    | some result => exact ⟨rfl, reported⟩
    | none => exact ih _ _ _ (pass _ _ reported)

/-- The surroundings at a poll, if none before it has ended the wait. -/
def PolledCount.atPoll (count : PolledCount σ) (barrier : Barrier) : Nat → Nat → σ → σ
  | _, 0, state => state
  | elapsedMs, polls + 1, state =>
    let reading := count.read state
    count.atPoll barrier (elapsedMs + barrier.stepMs) polls
      (count.pass barrier.stepMs (count.enter (barrier.report elapsedMs reading.1) reading.2))

theorem PolledCount.atPoll_succ {σ : Type} (count : PolledCount σ) (barrier : Barrier)
    (elapsedMs poll : Nat) (state : σ) :
    let reached := count.atPoll barrier elapsedMs poll state
    let read := count.read reached
    count.atPoll barrier elapsedMs (poll + 1) state =
      count.pass barrier.stepMs
        (count.enter (barrier.report (elapsedMs + poll * barrier.stepMs) read.1) read.2) := by
  induction poll generalizing elapsedMs state with
  | zero => simp only [PolledCount.atPoll, Nat.zero_mul, Nat.add_zero]
  | succ poll ih =>
    rw [PolledCount.atPoll]
    have next := ih (elapsedMs + barrier.stepMs) (count.pass barrier.stepMs
      (count.enter (barrier.report elapsedMs (count.read state).1) (count.read state).2))
    simp only [PolledCount.atPoll] at next ⊢
    rw [next, Nat.succ_mul, Nat.add_comm (poll * barrier.stepMs), Nat.add_assoc]

/-- A wait ends at the first poll that decides. -/
theorem drain_eq (count : PolledCount σ) (barrier : Barrier) {polls last elapsedMs : Nat} {state : σ}
    {result : WaitState} (enough : last < polls)
    (undecided : ∀ poll < last, barrier.judge (elapsedMs + poll * barrier.stepMs)
      (count.read (count.atPoll barrier elapsedMs poll state)).1 = none)
    (decided : barrier.judge (elapsedMs + last * barrier.stepMs)
      (count.read (count.atPoll barrier elapsedMs last state)).1 = some result) :
    drain count barrier polls elapsedMs state = (some result, count.enter
      (barrier.report (elapsedMs + last * barrier.stepMs)
        (count.read (count.atPoll barrier elapsedMs last state)).1)
      (count.read (count.atPoll barrier elapsedMs last state)).2) := by
  induction last generalizing polls elapsedMs state with
  | zero =>
    obtain ⟨polls, rfl⟩ := Nat.exists_eq_add_of_lt enough
    simp only [Nat.zero_mul, Nat.add_zero] at decided ⊢
    simp only [drain]
    rw [PolledCount.atPoll] at decided ⊢
    rw [decided]
  | succ last ih =>
    obtain ⟨polls, rfl⟩ := Nat.exists_eq_add_of_lt enough
    have first := undecided 0 (Nat.succ_pos last)
    simp only [Nat.zero_mul, Nat.add_zero, PolledCount.atPoll] at first
    rw [Barrier.elapsed_succ] at decided ⊢
    simp only [drain, first]
    refine ih (by omega) ?_ decided
    intro poll earlier
    rw [← Barrier.elapsed_succ]
    exact undecided (poll + 1) (Nat.succ_lt_succ earlier)

/-- A wait that ends has come to the first poll that decides. -/
theorem first_decided {count : PolledCount σ} {barrier : Barrier} {polls elapsedMs : Nat} {state : σ}
    {result : WaitState} {final : σ}
    (ended : drain count barrier polls elapsedMs state = (some result, final)) :
    ∃ last < polls,
      (∀ poll < last, barrier.judge (elapsedMs + poll * barrier.stepMs)
        (count.read (count.atPoll barrier elapsedMs poll state)).1 = none) ∧
      barrier.judge (elapsedMs + last * barrier.stepMs)
        (count.read (count.atPoll barrier elapsedMs last state)).1 = some result := by
  induction polls generalizing elapsedMs state with
  | zero => cases ended
  | succ polls ih =>
    simp only [drain] at ended
    cases judged : barrier.judge elapsedMs (count.read state).1 with
    | some decided =>
      rw [judged] at ended
      cases ended
      refine ⟨0, Nat.succ_pos polls, nofun, ?_⟩
      simpa only [PolledCount.atPoll, Nat.zero_mul, Nat.add_zero] using judged
    | none =>
      rw [judged] at ended
      obtain ⟨last, enough, undecided, decided⟩ := ih ended
      refine ⟨last + 1, Nat.succ_lt_succ enough, fun poll before => ?_, ?_⟩
      · cases poll with
        | zero => simpa only [PolledCount.atPoll, Nat.zero_mul, Nat.add_zero] using judged
        | succ poll =>
          rw [Barrier.elapsed_succ]
          exact undecided poll (Nat.lt_of_succ_lt_succ before)
      · rw [Barrier.elapsed_succ]
        exact decided

theorem Barrier.early_of_least {barrier : Barrier} {last poll : Nat}
    (least : IsLeast {poll | barrier.timeoutMs ≤ poll * barrier.stepMs} last) (before : poll < last) :
    poll * barrier.stepMs < barrier.timeoutMs := by
  apply Nat.lt_of_not_le
  intro late
  exact absurd (least.2 late) (Nat.not_le_of_lt before)

/-- The polls of a wait are enough to reach the first at which the timeout has passed. -/
theorem Barrier.lt_pollBound {barrier : Barrier} (positive : 0 < barrier.intervalMs) {last : Nat}
    (least : IsLeast {poll | barrier.timeoutMs ≤ poll * barrier.stepMs} last) :
    last < barrier.pollBound := by
  have lasts := Barrier.stepMs_pos positive
  unfold pollBound
  cases last with
  | zero => exact Nat.succ_pos _
  | succ last =>
    have before := Barrier.early_of_least least (Nat.lt_succ_self last)
    have bound := (Nat.le_div_iff_mul_le lasts).mpr (Nat.le_of_lt before)
    exact Nat.succ_lt_succ (Nat.lt_succ_of_le bound)

end CheckpointSink
