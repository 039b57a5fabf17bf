import CheckpointSink.Pending
import Mathlib.Algebra.BigOperators.Group.List.Basic
import Mathlib.Algebra.Ring.Int.Defs
import Mathlib.Data.List.Infix

/-!
Threads that share a count. Each adds before it takes away, so in whatever order their steps take
place, the count is never below zero and is in the end what the threads leave of it together.
-/

namespace CheckpointSink.CountStep

/-- What some steps add to a count. -/
def balance (steps : List CountStep) : Int :=
  steps.count .increment - steps.count .decrement

/-- Up to no point more is taken away than was added. -/
def Covered (program : List CountStep) : Prop :=
  ∀ taken, taken <+: program → taken.count .decrement ≤ taken.count .increment

instance (program : List CountStep) : Decidable (Covered program) :=
  decidable_of_iff (∀ taken ∈ program.inits, taken.count .decrement ≤ taken.count .increment)
    (by simp only [Covered, List.mem_inits])

/-- Threads have taken steps, one at a time and in a certain order, and have the rest of their
programs left. -/
inductive Interleaved (threads : List (List CountStep)) :
    List CountStep → List (List CountStep) → Prop where
  | start : Interleaved threads [] threads
  | next {order : List CountStep} {left : List (List CountStep)} {step : CountStep}
    {rest : List CountStep} (thread : Nat) : Interleaved threads order left →
      left[thread]? = some (step :: rest) →
        Interleaved threads (order ++ [step]) (left.set thread rest)

/-! Counts -/

theorem balance_append (first second : List CountStep) :
    balance (first ++ second) = balance first + balance second := by
  simp only [balance, List.count_append]
  omega

theorem balance_cons (step : CountStep) (rest : List CountStep) :
    balance (step :: rest) = balance [step] + balance rest :=
  balance_append [step] rest

theorem apply_eq {count : Int} (above : leastCount < count) (step : CountStep) :
    (step.apply count).1 = count + balance [step] := by
  cases step with
  | increment => rfl
  | decrement => exact decrement_fst above

theorem bmod_apply (count : Int) (step : CountStep) :
    (step.apply count).1.bmod UInt64.size = (count + balance [step]).bmod UInt64.size := by
  cases step with
  | increment => rfl
  | decrement => exact bmod_decrement count

theorem neg_length_le_balance (steps : List CountStep) : -(steps.length : Int) ≤ balance steps := by
  have fewer : steps.count .decrement ≤ steps.length := List.count_le_length
  unfold balance
  omega

/-- What some steps make of a count that begins at zero. Up to multiples of 2 ^ 64 it is what they add up
to, and it is exactly that as long as they are too few to go beyond 64 bits. -/
structure Sums (steps : List CountStep) (count : Int) : Prop where
  wrapped : count.bmod UInt64.size = (balance steps).bmod UInt64.size
  few : steps.length < 2 ^ 63 → count = balance steps

theorem Sums.start : Sums [] 0 := ⟨rfl, fun _ => rfl⟩

theorem Sums.apply {steps : List CountStep} {count : Int} (sums : Sums steps count)
    (step : CountStep) : Sums (steps ++ [step]) (step.apply count).1 where
  wrapped := by
    rw [bmod_apply, balance_append, ← Int.bmod_add_bmod, sums.wrapped, Int.bmod_add_bmod]
  few short := by
    rw [List.length_append, List.length_singleton] at short
    have same := sums.few (by omega)
    have above : leastCount < count := by
      have least := neg_length_le_balance steps
      unfold leastCount
      omega
    rw [apply_eq above, balance_append, same]

theorem Covered.append {first second : List CountStep} (covered : Covered first)
    (others : Covered second) : Covered (first ++ second) := by
  intro taken beginning
  rcases List.prefix_or_prefix_of_prefix beginning (List.prefix_append first second) with
    within | ⟨rest, rfl⟩
  · exact covered taken within
  · have all := covered first (List.prefix_refl first)
    have more := others rest ((List.prefix_append_right_inj first).mp beginning)
    simp only [List.count_append]
    omega

theorem covered_sequential {threads : List (List CountStep)}
    (covered : ∀ program ∈ threads, Covered program) : Covered (sequential threads) := by
  induction threads with
  | nil =>
    intro taken beginning
    rw [List.prefix_nil.mp beginning]
    exact Nat.le_refl 0
  | cons program rest ih =>
    obtain ⟨first, others⟩ := List.forall_mem_cons.mp covered
    exact first.append (ih others)

/-- A count that never falls below zero is what the steps add up to. -/
theorem final_eq {steps : List CountStep} (covered : Covered steps) :
    final 0 steps = balance steps := by
  induction steps using List.reverseRecOn with
  | nil => rfl
  | append_singleton before last ih =>
    have earlier : Covered before := fun taken within =>
      covered taken (within.trans (List.prefix_append before [last]))
    have nonneg := covered before (List.prefix_append before [last])
    have above : leastCount < final 0 before := by
      rw [ih earlier]
      unfold balance leastCount
      omega
    have stepped : final 0 (before ++ [last]) = (last.apply (final 0 before)).1 :=
      List.foldl_concat ..
    rw [stepped, apply_eq above, ih earlier, balance_append]

/-- Threads that run one after another add up what each of them adds. -/
theorem balance_sequential (threads : List (List CountStep)) :
    balance (sequential threads) = (threads.map balance).sum := by
  induction threads with
  | nil => rfl
  | cons program rest ih =>
    rw [List.map_cons, List.sum_cons, ← ih]
    exact balance_append program (sequential rest)

/-- A step meets an empty count only if it leaves less than nothing. -/
theorem apply_sound {count : Int} {step : CountStep} (left : 0 ≤ count + balance [step]) :
    (step.apply count).2 = none := by
  cases step with
  | increment => rfl
  | decrement =>
    change 0 ≤ count - 1 at left
    exact if_neg (by omega)

/-- What a thread has added so far is not below zero. -/
theorem Covered.balance_le {program left : List CountStep} (covered : Covered program)
    (suffix : left <:+ program) : balance left ≤ balance program := by
  obtain ⟨taken, rfl⟩ := suffix
  have enough := covered taken (List.prefix_append taken left)
  rw [balance_append]
  simp only [balance]
  omega

/-! Interleavings -/

variable {threads left : List (List CountStep)} {order : List CountStep}

theorem suffixes_set (suffixes : List.Forall₂ (· <:+ ·) left threads) {thread : Nat}
    {step : CountStep} {rest : List CountStep} (found : left[thread]? = some (step :: rest)) :
    List.Forall₂ (· <:+ ·) (left.set thread rest) threads := by
  induction suffixes generalizing thread with
  | nil => cases found
  | cons suffix others ih =>
    cases thread with
    | zero =>
      cases found
      exact .cons ((List.suffix_cons step rest).trans suffix) others
    | succ thread => exact .cons suffix (ih found)

theorem sum_balance_set {thread : Nat} {step : CountStep} {rest : List CountStep}
    (found : left[thread]? = some (step :: rest)) :
    balance [step] + ((left.set thread rest).map balance).sum = (left.map balance).sum := by
  induction left generalizing thread with
  | nil => cases found
  | cons first others ih =>
    cases thread with
    | zero =>
      cases found
      simp only [List.set_cons_zero, List.map_cons, List.sum_cons, balance_cons step rest,
        Int.add_assoc]
    | succ thread =>
      have kept := ih found
      simp only [List.set_cons_succ, List.map_cons, List.sum_cons]
      omega

theorem sum_balance_le (covered : ∀ program ∈ threads, Covered program)
    (suffixes : List.Forall₂ (· <:+ ·) left threads) :
    (left.map balance).sum ≤ (threads.map balance).sum := by
  induction suffixes with
  | nil => exact Int.le_refl _
  | cons suffix others ih =>
    have first := (covered _ List.mem_cons_self).balance_le suffix
    have rest := ih fun program member => covered program (List.mem_cons_of_mem _ member)
    simp only [List.map_cons, List.sum_cons]
    omega

/-- The steps taken and the steps left are those of the programs. -/
theorem Interleaved.conserves (interleaved : Interleaved threads order left) :
    List.Forall₂ (· <:+ ·) left threads ∧
      balance order + (left.map balance).sum = (threads.map balance).sum := by
  induction interleaved with
  | start => exact ⟨List.forall₂_same.mpr fun _ _ => List.suffix_refl _, Int.zero_add _⟩
  | next thread _ found ih =>
    obtain ⟨suffixes, kept⟩ := ih
    have moved := sum_balance_set found
    refine ⟨suffixes_set suffixes found, ?_⟩
    rw [balance_append]
    omega

/-- At no point have the threads taken away more than they added. -/
theorem Interleaved.balance_nonneg (covered : ∀ program ∈ threads, Covered program)
    (interleaved : Interleaved threads order left) : 0 ≤ balance order := by
  obtain ⟨suffixes, kept⟩ := interleaved.conserves
  have less := sum_balance_le covered suffixes
  omega

/-- Whatever the threads have done, they have at some point done each beginning of it. -/
theorem Interleaved.earlier (interleaved : Interleaved threads order left)
    {taken later : List CountStep} (split : order = taken ++ later) :
    ∃ between, Interleaved threads taken between := by
  induction interleaved generalizing later with
  | start =>
    obtain ⟨rfl, -⟩ := List.append_eq_nil_iff.mp split.symm
    exact ⟨threads, .start⟩
  | next thread before found ih =>
    rcases List.eq_nil_or_concat later with rfl | ⟨others, last, rfl⟩
    · rw [List.append_nil] at split
      exact ⟨_, split ▸ before.next thread found⟩
    · rw [List.concat_eq_append, ← List.append_assoc] at split
      exact ih (List.append_inj_left' split rfl)

theorem Interleaved.covered (covered : ∀ program ∈ threads, Covered program)
    (interleaved : Interleaved threads order left) : Covered order := by
  rintro taken ⟨later, split⟩
  obtain ⟨_, reached⟩ := interleaved.earlier split.symm
  have nonneg := reached.balance_nonneg covered
  unfold balance at nonneg
  omega

/-- Whatever the order in which threads take their steps, the count is at every moment what was added
less what was taken away, and never below zero. No step that takes away finds the count empty. In the
end the count is what the programs of the threads add up to, as if they had run one after another. -/
theorem counts_exactly {threads left : List (List CountStep)} {order : List CountStep}
    (covered : ∀ program ∈ threads, Covered program) (interleaved : Interleaved threads order left) :
    final 0 order = order.count .increment - order.count .decrement ∧
      0 ≤ final 0 order ∧
      (∀ taken step later, order = taken ++ step :: later →
        (step.apply (final 0 taken)).2 = none) ∧
      ((∀ program ∈ left, program = []) → final 0 order = (threads.map balance).sum ∧
        final 0 order = final 0 (sequential threads)) := by
  have counted := final_eq (interleaved.covered covered)
  refine ⟨counted, ?_, ?_, ?_⟩
  · rw [counted]
    exact interleaved.balance_nonneg covered
  · intro taken step later split
    obtain ⟨_, before⟩ := interleaved.earlier split
    have split : order = (taken ++ [step]) ++ later := by simp [split]
    obtain ⟨_, reached⟩ := interleaved.earlier split
    apply apply_sound
    rw [final_eq (before.covered covered), ← balance_append]
    exact reached.balance_nonneg covered
  · intro finished
    have nothing : (left.map balance).sum = 0 := by
      apply List.sum_eq_zero
      intro value member
      obtain ⟨program, known, rfl⟩ := List.mem_map.mp member
      rw [finished program known]
      rfl
    have kept := interleaved.conserves.2
    have total : final 0 order = (threads.map balance).sum := by
      rw [counted]
      omega
    have sequentially := (final_eq (covered_sequential covered)).trans (balance_sequential threads)
    exact ⟨total, total.trans sequentially.symm⟩

/-- Two threads of which the second takes its steps between those of the first. -/
def twoThreads : List (List CountStep) :=
  [[.increment, .decrement, .increment], [.increment, .increment, .decrement]]

def crossedOrder : List CountStep :=
  [.increment, .increment, .decrement, .increment, .decrement, .increment]

theorem counts_exactly_crossed :
    (∀ program ∈ twoThreads, Covered program) ∧ Interleaved twoThreads crossedOrder [[], []] ∧
      (CountStep.decrement.apply (final 0 [.increment, .increment, .decrement, .increment])).2 = none ∧
        final 0 crossedOrder = 2 := by
  have covered : ∀ program ∈ twoThreads, Covered program := by decide
  have crossed : Interleaved twoThreads crossedOrder [[], []] :=
    (((((Interleaved.start.next 0 rfl).next 1 rfl).next 0 rfl).next 1 rfl).next 1 rfl).next 0 rfl
  obtain ⟨-, -, never_empty, total⟩ := counts_exactly covered crossed
  exact ⟨covered, crossed, never_empty _ _ [.increment] rfl, (total (by decide)).1⟩

end CheckpointSink.CountStep
