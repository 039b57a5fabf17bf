import CheckpointSink.Completion

/-!
Callbacks one after the other, from any count. Each of them takes one off the count first. One that
found nothing to take away ends there; any other reports its batch if that has failed, and whoever sees
the report sees the count without the batch.
-/

namespace CheckpointSink

/-- The batch has failed, and these are the fields of the report. What an answer leaves out is an empty
text there. -/
inductive Outcome.Fails : Outcome → List (String × FieldValue) → Prop where
  | refused (attempts : UInt32) (code message : Option String) :
    Fails (.answered ⟨false, attempts, code, message⟩)
      [("code", .text (code.getD "")), ("error_message", .text (message.getD "")),
        ("retries", .number attempts.toNat)]
  | failed (error : ClientError) : Fails (.failed error) [("error", .plain error.message)]

/-- The event reports a failed batch with these fields. -/
structure Event.ReportsFailure (event : Event) (fields : List (String × FieldValue)) : Prop where
  level : event.level = .error
  message : event.message = "send logs failed"
  fields : event.fields = fields

variable {pending : Int} {outcome : Outcome}

theorem Outcome.Fails.report? {fields : List (String × FieldValue)} (fails : outcome.Fails fields) :
    ∃ event, outcome.report? = some event ∧ event.ReportsFailure fields := by
  cases fails with
  | refused attempts code message => exact ⟨_, rfl, rfl, rfl, rfl⟩
  | failed error => exact ⟨_, rfl, rfl, rfl, rfl⟩

theorem Outcome.report?_of_not_fails (fine : ∀ fields, ¬outcome.Fails fields) :
    outcome.report? = none := by
  match outcome with
  | .answered ⟨true, _, _, _⟩ => rfl
  | .answered ⟨false, attempts, code, message⟩ => exact absurd (.refused ..) (fine _)
  | .failed error => exact absurd (.failed error) (fine _)

theorem Outcome.report?_cases {event : Event} (reported : outcome.report? = some event) :
    (∃ code message attempts, event = .batchRefused code message attempts) ∨
      ∃ error, event = .batchFailed error := by
  match outcome with
  | .answered ⟨true, _, _, _⟩ => cases reported
  | .answered ⟨false, _, _, _⟩ => exact .inl ⟨_, _, _, (Option.some.inj reported).symm⟩
  | .failed error => exact .inr ⟨error, (Option.some.inj reported).symm⟩

theorem settle_spent (spent : pending ≤ 0) (outcome : Outcome) :
    settle pending outcome = ((decrement pending).1, [.underflow]) := by
  simp only [settle, decrement, if_pos spent]

theorem settle_counted (counted : 0 < pending) (outcome : Outcome) :
    settle pending outcome =
      (pending - 1, (outcome.report?.map fun event => Entry.event event (pending - 1)).toList) := by
  have above : pending ≠ leastCount := by
    unfold leastCount
    omega
  simp only [settle, decrement, if_neg above, if_neg (Int.not_le.mpr counted)]

theorem settle_fst (pending : Int) (outcome : Outcome) :
    (settle pending outcome).1 = (decrement pending).1 := by
  unfold settle
  split <;> rename_i left _ decremented <;> rw [decremented]

theorem length_settleAll (pending : Int) (outcomes : List Outcome) :
    (settleAll pending outcomes).length = outcomes.length := by
  induction outcomes generalizing pending with
  | nil => rfl
  | cons outcome rest ih => rw [settleAll, List.length_cons, List.length_cons, ih]

/-- Each callback begins with the count less one for every callback before it. -/
theorem getElem?_settleAll (fits : IsCount pending) (outcomes : List Outcome) (index : Nat) :
    (settleAll pending outcomes)[index]? =
      outcomes[index]?.map (settle ((pending - index).bmod UInt64.size)) := by
  induction outcomes generalizing pending index with
  | nil => rfl
  | cons outcome rest ih =>
    cases index with
    | zero =>
      have begun : (pending - (0 : Nat)).bmod UInt64.size = pending := by
        rw [Int.natCast_zero, Int.sub_zero, bmod_of_isCount fits]
      rw [settleAll, List.getElem?_cons_zero, List.getElem?_cons_zero, begun]
      rfl
    | succ index =>
      have later : ((decrement pending).1 - index).bmod UInt64.size =
          (pending - (index + 1 : Nat)).bmod UInt64.size := by
        rw [← Int.bmod_sub_bmod, bmod_decrement, Int.bmod_sub_bmod]
        congr 1
        omega
      rw [settleAll, settle_fst, List.getElem?_cons_succ, List.getElem?_cons_succ,
        ih (isCount_decrement fits), later]

/-- A callback enters an underflow if there was nothing to take away, and else the report of a batch that
has failed. -/
theorem settle_reports (pending : Int) (outcome : Outcome) :
    ((settle pending outcome).2 = [.underflow] ↔ pending ≤ 0) ∧
      (0 < pending →
        (∀ fields, outcome.Fails fields → ∃ event,
          (settle pending outcome).2 = [.event event (decrement pending).1] ∧
            event.ReportsFailure fields) ∧
        ((∀ fields, ¬outcome.Fails fields) → (settle pending outcome).2 = [])) := by
  by_cases counted : 0 < pending
  · rw [settle_counted counted, decrement_fst (Int.lt_trans (by decide) counted)]
    refine ⟨iff_of_false ?_ (Int.not_le.mpr counted), fun _ => ⟨?_, ?_⟩⟩
    · cases outcome.report? <;> simp
    · intro fields fails
      obtain ⟨event, reported, reports⟩ := fails.report?
      exact ⟨event, by rw [reported]; rfl, reports⟩
    · intro fine
      rw [Outcome.report?_of_not_fails fine]
      rfl
  · have spent : pending ≤ 0 := Int.not_lt.mp counted
    rw [settle_spent spent]
    exact ⟨iff_of_true rfl spent, fun positive => absurd positive counted⟩

/-- Every callback takes one off the count. That is exact as long as the count stays one of 64 bits, and
below the least of them comes the greatest. A callback meets an empty count exactly if that was zero or
below, and enters nothing else then. Otherwise it reports a batch that has failed in one event, at which
the count is already the lower one, and it enters nothing for any other batch. -/
theorem settles_then_reports {pending : Int} (fits : IsCount pending) (outcomes : List Outcome) :
    (settleAll pending outcomes).length = outcomes.length ∧
    ∀ (index : Nat) (outcome : Outcome), outcomes[index]? = some outcome →
      let before := (pending - index).bmod UInt64.size
      let left := (pending - (index + 1)).bmod UInt64.size
      (leastCount ≤ pending - (index + 1) → before = left + 1 ∧ left = pending - (index + 1)) ∧
      ∃ entries, (settleAll pending outcomes)[index]? = some (left, entries) ∧
        (entries = [.underflow] ↔ before ≤ 0) ∧
        (0 < before →
          (∀ fields, outcome.Fails fields →
            ∃ event, entries = [.event event left] ∧ event.ReportsFailure fields) ∧
          ((∀ fields, ¬outcome.Fails fields) → entries = [])) := by
  refine ⟨length_settleAll pending outcomes, ?_⟩
  intro index outcome found before left
  have lowered : (decrement before).1 = left := by
    have fitsLeft : IsCount (decrement before).1 := isCount_decrement (isCount_bmod _)
    rw [← bmod_of_isCount fitsLeft, bmod_decrement, Int.bmod_sub_bmod, Int.sub_sub]
  refine ⟨fun above => ?_, (settle before outcome).2, ?_, lowered ▸ settle_reports before outcome⟩
  · obtain ⟨-, below⟩ := fits
    have sameBefore : before = pending - index := bmod_of_isCount ⟨by omega, by omega⟩
    have sameLeft : left = pending - (index + 1) := bmod_of_isCount ⟨above, by omega⟩
    omega
  · rw [getElem?_settleAll fits, found, ← lowered, ← settle_fst before outcome]
    rfl

/-- An answer tells by its success alone whether it is reported, and the third of three batches finds
nothing left of two. -/
theorem settles_then_reports_two :
    let outcomes := [.answered ⟨true, 1, some "Throttled", none⟩, .answered ⟨false, 3, none, none⟩,
      .failed .closed]
    IsCount 2 ∧ (settleAll 2 outcomes)[0]? = some (1, []) ∧
      (∃ event, (settleAll 2 outcomes)[1]? = some (0, [.event event 0]) ∧
        event.ReportsFailure
          [("code", .text ""), ("error_message", .text ""), ("retries", .number 3)]) ∧
      (settleAll 2 outcomes)[2]? = some (-1, [.underflow]) := by
  intro outcomes
  have fits : IsCount 2 := ⟨by decide, by decide⟩
  have each := (settles_then_reports fits outcomes).2
  obtain ⟨-, _, first, -, fine⟩ := each 0 _ rfl
  obtain ⟨-, _, second, -, refused⟩ := each 1 _ rfl
  obtain ⟨-, _, third, spent, -⟩ := each 2 _ rfl
  have unreported : ∀ fields, ¬(Outcome.answered ⟨true, 1, some "Throttled", none⟩).Fails fields := by
    rintro fields ⟨⟩
  obtain ⟨event, reported, fails⟩ := (refused (by decide)).1 _ (.refused 3 none none)
  rw [(fine (by decide)).2 unreported] at first
  rw [reported] at second
  rw [spent.mpr (by decide)] at third
  exact ⟨fits, first, ⟨event, second, fails⟩, third⟩

/-- The least count is followed by the greatest one, and then failures are reported again. -/
example : settleAll leastCount [.failed .closed, .failed .closed] =
    [(greatestCount, [.underflow]),
      (greatestCount - 1, [.event (.batchFailed .closed) (greatestCount - 1)])] := by
  decide

end CheckpointSink
