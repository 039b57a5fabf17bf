import CheckpointSink.Proofs.Settlement.Parting

/-!
What somebody may do who holds resolvers: use them in any order, let other tasks run in between, and
sleep. No outcome that reaches its batch meanwhile is lost, and none is settled twice.
-/

namespace CheckpointSink.Settlement

inductive Act where
  /-- A resolver is used, if it can be. -/
  | uses (batch : Nat) (outcome : Outcome)
  /-- So many tasks run, if so many can. -/
  | yields (turns : Nat)
  | sleeps (delayMs : Nat)
  deriving DecidableEq

namespace Act

def given? : Act → Option (Nat × Outcome)
  | uses batch outcome => some (batch, outcome)
  | _ => none

def lengthMs : Act → Nat
  | sleeps delayMs => Sleep.lengthMs delayMs
  | _ => 0

/-- How long some acts take, one after the other. -/
def totalMs : List Act → Nat
  | [] => 0
  | doing :: rest => doing.lengthMs + totalMs rest

theorem totalMs_append (first second : List Act) :
    totalMs (first ++ second) = totalMs first + totalMs second := by
  induction first with
  | nil => exact (Nat.zero_add _).symm
  | cons doing rest ih => simp only [List.cons_append, totalMs, ih, Nat.add_assoc]

/-- No timer fires. -/
def isPrompt : Act → Bool
  | sleeps _ => false
  | _ => true

end Act

/-- The outcomes that reach their batches, given the resolvers that can be used. -/
def arrivals (resolvers : List Nat) : List (Nat × Outcome) → List Outcome
  | [] => []
  | (batch, outcome) :: rest =>
    if batch ∈ resolvers then outcome :: arrivals (resolvers.erase batch) rest
    else arrivals resolvers rest

theorem length_arrivals_le (resolvers : List Nat) (given : List (Nat × Outcome)) :
    (arrivals resolvers given).length ≤ resolvers.length := by
  induction given generalizing resolvers with
  | nil => exact Nat.zero_le _
  | cons first rest ih =>
    obtain ⟨batch, outcome⟩ := first
    unfold arrivals
    split
    · rename_i held
      have left := List.length_erase_add_one held
      have fewer := ih (resolvers.erase batch)
      rw [List.length_cons]
      omega
    · exact ih resolvers

namespace Timeline

/-- No more callbacks run than batches are counted, if outcomes are only given to held resolvers. -/
theorem Balanced.length_ran_le {before after : Timeline} {given : List (Nat × Outcome)}
    {due ran : List Outcome} (tended : Tended [] before)
    (balanced : Balanced before (arrivals before.resolvers given) due ran after) :
    ran.length ≤ before.pending := by
  have counted := tended.pending_eq
  have reached := length_arrivals_le before.resolvers given
  have promised := balanced.promised.length_eq
  have underway := balanced.underway.length_eq
  simp only [List.length_append] at promised underway
  omega

def act (timeline : Timeline) : Act → Timeline
  | .uses batch outcome => timeline.useResolver batch outcome
  | .yields turns => timeline.runTasks turns
  | .sleeps delayMs => timeline.runReady.sleep delayMs

def acts (timeline : Timeline) (doings : List Act) : Timeline :=
  doings.foldl act timeline

theorem acts_uses (timeline : Timeline) (outcomes : List (Nat × Outcome)) :
    timeline.acts (outcomes.map fun given => .uses given.1 given.2) =
      timeline.useResolvers outcomes :=
  List.foldl_map

variable {timeline : Timeline}

/-- What tasks keep, all acts keep. -/
theorem lasts_acts {kept : Ledger → Prop} (lasts : Ledger.Lasts kept) (holds : kept timeline.ledger)
    (doings : List Act) : kept (timeline.acts doings).ledger := by
  induction doings generalizing timeline with
  | nil => exact holds
  | cons doing rest ih =>
    show kept ((timeline.act doing).acts rest).ledger
    apply ih
    cases doing with
    | uses batch outcome => exact lasts.useResolver holds batch outcome
    | yields turns => exact lasts.runTasks holds turns
    | sleeps delayMs => exact lasts.pass (lasts.runReady holds) _

theorem Poised.act (poised : Poised timeline) (doing : Act) : Poised (timeline.act doing) := by
  cases doing with
  | uses batch outcome => exact poised.useResolver batch outcome
  | yields turns => exact poised.runTasks turns
  | sleeps delayMs => exact (poised.tended.calm.pass _).poised

/-- What comes of some acts: the outcomes that were given to batches have reached them, and those of
some delayed resolvers have become due. -/
structure Dealt (before : Timeline) (doings : List Act) (due ran : List Outcome) (after : Timeline) :
    Prop where
  poised : Poised after
  balanced : Balanced before (arrivals before.resolvers (doings.filterMap Act.given?)) due ran after
  resolvers : after.resolvers = leftOver before.resolvers (doings.filterMap Act.given?)
  nowMs : after.nowMs = before.nowMs + Act.totalMs doings
  prompt : (∀ doing ∈ doings, doing.isPrompt = true) → due = [] ∧ after.delayed = before.delayed

theorem Dealt.refl (poised : Poised timeline) : Dealt timeline [] [] [] timeline :=
  ⟨poised, ⟨rfl, .refl _, .refl _⟩, rfl, rfl, fun _ => ⟨rfl, rfl⟩⟩

theorem Poised.dealt (poised : Poised timeline) (doing : Act) :
    ∃ due ran, Dealt timeline [doing] due ran (timeline.act doing) := by
  have after := poised.act doing
  cases doing with
  | uses batch outcome =>
    refine ⟨[], [], after, ?_, ?_, ?_, fun _ => ⟨rfl, ?_⟩⟩
    · by_cases held : batch ∈ timeline.resolvers
      · have reached : arrivals timeline.resolvers
            ([Act.uses batch outcome].filterMap Act.given?) = [outcome] := by
          simp [Act.given?, arrivals, held]
        rw [reached]
        exact poised.tended.balanced_useResolver held outcome
      · have same : timeline.act (.uses batch outcome) = timeline :=
          if_neg (mt hasResolver_iff.mp held)
        rw [same]
        simp only [List.filterMap_cons, Act.given?, arrivals, held]
        exact ⟨rfl, .refl _, .refl _⟩
    · rw [Timeline.act, useResolver_eq]
      rfl
    · rw [Timeline.act, useResolver_eq]
      rfl
    · rw [Timeline.act, useResolver_eq]
      rfl
  | yields turns =>
    obtain ⟨-, ran, turned⟩ := poised.tended.runTasks turns
    exact ⟨[], ran, after, turned.balanced, turned.resolvers, turned.nowMs,
      fun _ => ⟨rfl, turned.delayed⟩⟩
  | sleeps delayMs =>
    obtain ⟨-, ran, -, turned⟩ := poised.tended.runReady
    have calm := poised.tended.calm
    obtain ⟨-, -, nowMs, held, due, moreRan, balanced⟩ :=
      calm.tended.pass calm.idle (Sleep.lengthMs delayMs)
    refine ⟨due, ran ++ moreRan, after, turned.balanced.trans balanced, held.trans turned.resolvers,
      ?_, fun prompt => absurd (prompt _ List.mem_cons_self) Bool.false_ne_true⟩
    rw [Timeline.act, Timeline.sleep, nowMs, turned.nowMs]
    rfl

theorem leftOver_append (resolvers : List Nat) (first second : List (Nat × Outcome)) :
    leftOver resolvers (first ++ second) = leftOver (leftOver resolvers first) second :=
  List.foldl_append

theorem arrivals_append (resolvers : List Nat) (first second : List (Nat × Outcome)) :
    arrivals resolvers (first ++ second) =
      arrivals resolvers first ++ arrivals (leftOver resolvers first) second := by
  induction first generalizing resolvers with
  | nil => rfl
  | cons given rest ih =>
    obtain ⟨batch, outcome⟩ := given
    simp only [List.cons_append, arrivals, leftOver, List.foldl_cons]
    by_cases held : batch ∈ resolvers
    · simp only [held, if_true, ih, List.cons_append]
      rfl
    · simp only [held, if_false, ih, List.erase_of_not_mem held]
      rfl

theorem Dealt.trans {first second third : Timeline} {doings more : List Act}
    {due ran moreDue moreRan : List Outcome} (earlier : Dealt first doings due ran second)
    (later : Dealt second more moreDue moreRan third) :
    Dealt first (doings ++ more) (due ++ moreDue) (ran ++ moreRan) third where
  poised := later.poised
  balanced := by
    rw [List.filterMap_append, arrivals_append, ← earlier.resolvers]
    exact earlier.balanced.trans later.balanced
  resolvers := by
    rw [List.filterMap_append, leftOver_append, ← earlier.resolvers, later.resolvers]
  nowMs := by
    rw [later.nowMs, earlier.nowMs, Act.totalMs_append, Nat.add_assoc]
  prompt := by
    intro prompt
    obtain ⟨none, same⟩ := earlier.prompt fun doing member =>
      prompt doing (List.mem_append_left _ member)
    obtain ⟨none_more, same_more⟩ := later.prompt fun doing member =>
      prompt doing (List.mem_append_right _ member)
    exact ⟨by rw [none, none_more]; rfl, same_more.trans same⟩

/-- Whatever is done, one act after the other. -/
theorem Poised.acts (poised : Poised timeline) (doings : List Act) :
    ∃ due ran, Dealt timeline doings due ran (timeline.acts doings) := by
  induction doings generalizing timeline with
  | nil => exact ⟨[], [], .refl poised⟩
  | cons doing rest ih =>
    obtain ⟨due, ran, first⟩ := poised.dealt doing
    obtain ⟨moreDue, moreRan, others⟩ := ih first.poised
    exact ⟨_, _, first.trans others⟩

end Timeline
end CheckpointSink.Settlement
