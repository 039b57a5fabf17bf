import CheckpointSink.Proofs.Polling
import CheckpointSink.Proofs.Settlement.Clock
import CheckpointSink.Settlement.Worker

/-!
What is done to a timeline from outside leaves it in order: waits in the foreground and in the
background, the use of resolvers, and the start, the use and the stop of a worker.
-/

namespace CheckpointSink.Settlement

namespace Timeline

variable {timeline : Timeline} {moving : List Nat}

theorem Settled.enter (settled : Settled timeline) (event : Event) :
    Settled (timeline.enter event) :=
  ⟨settled.orderly.enter event, settled.idle, settled.ahead⟩

theorem Settled.clear (settled : Settled timeline) : Settled timeline.clearEntries where
  orderly :=
    { booked := settled.orderly.booked.clear
      resting := settled.orderly.resting.reported _ _
      forwards := settled.orderly.forwards
      works := settled.orderly.works
      custody := settled.orderly.custody
      waits := settled.orderly.waits }
  idle := settled.idle
  ahead := settled.ahead

/-- Once all tasks that can run have run, nothing happens until time moves on. -/
theorem Orderly.settle (orderly : Orderly [] timeline)
    (ahead : ∀ timer ∈ timeline.timers, timeline.nowMs < timer.deadlineMs) :
    Settled timeline.runReady ∧ Kept timeline timeline.runReady := by
  obtain ⟨after, idle, kept⟩ := orderly.runReady
  exact ⟨⟨after, idle, kept.ahead ahead⟩, kept⟩

/-! Waits -/

theorem Settled.wait (settled : Settled timeline) (barrier : Barrier) :
    Settled (timeline.wait barrier).2 ∧ Passed timeline (timeline.wait barrier).2 := by
  refine drain_keeps count barrier (fun later => Settled later ∧ Passed timeline later) ?_ ?_ ?_
    _ 0 timeline ⟨settled, .refl settled.ahead⟩
  · exact fun _ kept => kept
  · rintro elapsedMs pending later ⟨still, passed⟩
    exact ⟨still.enter _, passed.trans ((Kept.enter later _).passed still.ahead)⟩
  · rintro later ⟨still, passed⟩
    obtain ⟨after, -, since⟩ := still.pass barrier.stepMs
    exact ⟨after, passed.trans since⟩

theorem Settled.spawnWait (settled : Settled timeline) (barrier : Barrier)
    (positive : 0 < barrier.intervalMs) :
    Settled (timeline.spawnWait barrier).2 ∧ Passed timeline (timeline.spawnWait barrier).2 := by
  have orderly := settled.orderly
  have spawned : Orderly [] { timeline with
      waits := timeline.waits ++ [⟨barrier, timeline.nowMs, none, false⟩] } := by
    refine ⟨orderly.booked, orderly.resting, orderly.forwards, orderly.works, orderly.custody, ?_⟩
    intro wait member
    rcases List.mem_append.mp member with old | new
    · exact orderly.waits wait old
    · rw [List.mem_singleton.mp new]
      exact positive
  have woken := spawned.wake (.poll timeline.waits.length) rfl
  obtain ⟨after, kept⟩ := woken.settle (by
    rw [wake_eq]
    exact settled.ahead)
  have begun : Kept timeline { timeline with
      waits := timeline.waits ++ [⟨barrier, timeline.nowMs, none, false⟩] } :=
    ⟨rfl, rfl, rfl, fun _ member => .inl member, rfl, .of_workers rfl⟩
  have all := (begun.trans (.wakeAll _ [.poll timeline.waits.length])).trans kept
  exact ⟨after, all.passed settled.ahead⟩

theorem Settled.passUntilOver (settled : Settled timeline) (index fuel : Nat) :
    Settled (timeline.passUntilOver index fuel) ∧
      Passed timeline (timeline.passUntilOver index fuel) := by
  induction fuel generalizing timeline with
  | zero => exact ⟨settled, .refl settled.ahead⟩
  | succ fuel ih =>
    unfold Timeline.passUntilOver
    split
    · exact ⟨settled, .refl settled.ahead⟩
    · cases next : earliest (timeline.timers.map Timer.deadlineMs) with
      | none => exact ⟨settled, .refl settled.ahead⟩
      | some deadlineMs =>
        obtain ⟨member, least⟩ := List.min?_eq_some_iff.mp next
        obtain ⟨timer, known, same⟩ := List.mem_map.mp member
        have later := settled.ahead timer known
        obtain ⟨after, -, passed⟩ := settled.orderly.fire settled.idle (by omega)
          fun other found => least _ (List.mem_map_of_mem found)
        obtain ⟨rest, restPassed⟩ := ih after
        exact ⟨rest, passed.trans restPassed⟩

theorem Settled.join (settled : Settled timeline) (index : Nat) :
    Settled (timeline.join index).2 ∧ Passed timeline (timeline.join index).2 := by
  simp only [Timeline.join]
  split
  · exact ⟨settled, .refl settled.ahead⟩
  · rename_i wait _
    split
    · exact ⟨settled, .refl settled.ahead⟩
    · obtain ⟨after, passed⟩ := settled.passUntilOver index
        (wait.begunMs + wait.barrier.timeoutMs + wait.barrier.stepMs + 1 - timeline.nowMs)
      split
      · exact ⟨after, passed⟩
      · rename_i ended found
        have orderly := after.orderly
        refine ⟨⟨⟨orderly.booked, orderly.resting, orderly.forwards, orderly.works,
          orderly.custody, ?_⟩, after.idle, after.ahead⟩,
          passed.advanced, passed.resolvers, passed.delayed, passed.next, passed.staffed⟩
        intro other member
        rcases List.mem_or_eq_of_mem_set member with old | rfl
        · exact orderly.waits other old
        · exact orderly.waits ended (List.mem_of_getElem? found)

/-! Resolvers -/

theorem hasResolver_iff {batch : Nat} :
    timeline.hasResolver batch = true ↔ batch ∈ timeline.resolvers := by
  simp [hasResolver]

theorem Orderly.removeResolver (orderly : Orderly moving timeline) {batch : Nat}
    (held : batch ∈ timeline.resolvers) :
    Orderly (batch :: moving) (timeline.removeResolver batch) where
  booked := orderly.booked
  resting := orderly.resting
  forwards := orderly.forwards
  works := orderly.works
  custody := by
    apply orderly.custody.trans
    have out := ((List.perm_cons_erase held).append_right
      (timeline.delayed.map Prod.fst ++ timeline.delivering)).append_left moving
    exact out.trans List.perm_middle
  waits := orderly.waits

/-- Nothing but the resolver is used. -/
theorem Orderly.useResolver (orderly : Orderly moving timeline) (batch : Nat) (outcome : Outcome) :
    Orderly moving (timeline.useResolver batch outcome) ∧
      Kept { timeline with resolvers := timeline.resolvers.erase batch }
        (timeline.useResolver batch outcome) := by
  by_cases held : batch ∈ timeline.resolvers
  · have removed := orderly.removeResolver held
    rw [Timeline.useResolver, if_pos (hasResolver_iff.mpr held)]
    exact ⟨removed.deliver outcome,
      (Kept.deliver removed outcome).trans (.wakeAll _ [.forward batch])⟩
  · rw [Timeline.useResolver, if_neg (mt hasResolver_iff.mp held), List.erase_of_not_mem held]
    exact ⟨orderly, .refl timeline⟩

/-- A change of the resolvers in hand that leaves all else alone. -/
theorem Kept.resolvers_map {before after : Timeline} (kept : Kept before after)
    (change : List Nat → List Nat) :
    Kept { before with resolvers := change before.resolvers }
      { after with resolvers := change after.resolvers } :=
  ⟨kept.nowMs, congrArg change kept.resolvers, kept.delayed, kept.timers, kept.next, kept.staffed⟩

/-- The resolvers left after some were used. -/
def leftOver (resolvers : List Nat) (outcomes : List (Nat × Outcome)) : List Nat :=
  outcomes.foldl (fun left given => left.erase given.1) resolvers

theorem Orderly.useResolvers (orderly : Orderly moving timeline) (outcomes : List (Nat × Outcome)) :
    Orderly moving (timeline.useResolvers outcomes) ∧
      Kept { timeline with resolvers := leftOver timeline.resolvers outcomes }
        (timeline.useResolvers outcomes) := by
  induction outcomes generalizing timeline with
  | nil => exact ⟨orderly, .refl timeline⟩
  | cons given rest ih =>
    obtain ⟨first, kept⟩ := orderly.useResolver given.1 given.2
    obtain ⟨after, others⟩ := ih first
    exact ⟨after, (kept.resolvers_map fun left => leftOver left rest).trans others⟩

theorem Settled.resolve (settled : Settled timeline) (batch : Nat) (outcome : Outcome) :
    Settled (timeline.resolve batch outcome).2 ∧
      Kept { timeline with resolvers := timeline.resolvers.erase batch }
        (timeline.resolve batch outcome).2 := by
  obtain ⟨used, kept⟩ := settled.orderly.useResolver batch outcome
  by_cases open_ : timeline.hasResolver batch = true
  · rw [Timeline.resolve, if_pos open_]
    obtain ⟨after, since⟩ := used.settle (kept.ahead settled.ahead)
    exact ⟨after, kept.trans since⟩
  · have same : timeline.useResolver batch outcome = timeline := by
      rw [Timeline.useResolver, if_neg open_]
    rw [Timeline.resolve, if_neg open_]
    rw [same] at kept
    exact ⟨settled, kept⟩

theorem Settled.resolveAll (settled : Settled timeline) (outcomes : List (Nat × Outcome)) :
    Settled (timeline.resolveAll outcomes).2 ∧
      Kept { timeline with resolvers := leftOver timeline.resolvers outcomes }
        (timeline.resolveAll outcomes).2 := by
  induction outcomes generalizing timeline with
  | nil => exact ⟨settled, .refl timeline⟩
  | cons given rest ih =>
    obtain ⟨first, kept⟩ := settled.resolve given.1 given.2
    obtain ⟨after, others⟩ := ih first
    exact ⟨after, (kept.resolvers_map fun left => leftOver left rest).trans others⟩

/-- A resolver that was taken is set to be used later. -/
theorem Orderly.appoint {batch : Nat} (orderly : Orderly (batch :: moving) timeline) (delayMs : Nat)
    (outcome : Outcome) : Orderly moving (timeline.setTimer delayMs (.deliver batch outcome)) where
  booked := orderly.booked
  resting := orderly.resting
  forwards := orderly.forwards
  works := orderly.works
  custody := by
    apply orderly.custody.trans
    rw [delayed_setTimer, List.map_append, List.append_assoc]
    have middle (zeroth first second third : List Nat) :
        (batch :: (zeroth ++ (first ++ (second ++ third)))).Perm
          (zeroth ++ (first ++ (second ++ batch :: third))) :=
      (((List.perm_middle.append_left first).trans List.perm_middle).append_left zeroth |>.trans
        List.perm_middle).symm
    exact middle moving timeline.resolvers (timeline.delayed.map Prod.fst) timeline.delivering
  waits := orderly.waits

/-- A resolver that is taken now is one of those that are used later, or it has been used. -/
theorem Settled.resolveAfter (settled : Settled timeline) {batch : Nat}
    (held : batch ∈ timeline.resolvers) (delayMs : Nat) (outcome : Outcome) :
    Settled (timeline.resolveAfter batch delayMs outcome).2 ∧
      (timeline.resolveAfter batch delayMs outcome).2.nowMs = timeline.nowMs ∧
        Passed ((timeline.removeResolver batch).setTimer delayMs (.deliver batch outcome))
          (timeline.resolveAfter batch delayMs outcome).2 := by
  rw [Timeline.resolveAfter, if_pos (hasResolver_iff.mpr held)]
  have taken := (settled.orderly.removeResolver held).appoint delayMs outcome
  refine taken.fireUntil settled.idle _ _ timeline.nowMs (Nat.le_refl _) (Nat.le_refl _) ?_
    (Nat.lt_succ_self _)
  intro timer member
  rcases List.mem_append.mp member with old | new
  · exact (settled.ahead timer old).le
  · rw [List.mem_singleton.mp new]
    exact Nat.le_add_right _ _

end Timeline
end CheckpointSink.Settlement
