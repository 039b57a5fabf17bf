/-!
Counts of outstanding batches, of 64 bits. Several handles may share one count; a handle of its own
starts a new one at zero.
-/

namespace CheckpointSink

/-- A decrement of a count that is zero or below. The count is decremented all the same. -/
structure Underflow where
  deriving DecidableEq

def Underflow.message : String := "pending write count went negative"

def leastCount : Int := -0x8000000000000000

def greatestCount : Int := 0x7fffffffffffffff

/-- The count after a decrement, and whether there was nothing left to take away. The least count is
followed by the greatest one. Counts begin low and rise by single batches, so the greatest count is out
of the reach of increments, and these are not bounded here. -/
def decrement (count : Int) : Int × Option Underflow :=
  (if count = leastCount then greatestCount else count - 1,
    if count ≤ 0 then some ⟨⟩ else none)

/-- A count of 64 bits. -/
def IsCount (count : Int) : Prop :=
  leastCount ≤ count ∧ count ≤ greatestCount

section

variable {count : Int}

theorem bmod_of_isCount (fits : IsCount count) : count.bmod UInt64.size = count := by
  have size : (UInt64.size : Int) = 0x10000000000000000 := rfl
  unfold IsCount leastCount greatestCount at fits
  apply Int.bmod_eq_of_le <;> omega

theorem isCount_bmod (count : Int) : IsCount (count.bmod UInt64.size) := by
  have least := @Int.le_bmod count UInt64.size (by decide)
  have greatest := @Int.bmod_lt count UInt64.size (by decide)
  have size : (UInt64.size : Int) = 0x10000000000000000 := rfl
  unfold IsCount leastCount greatestCount
  omega

theorem decrement_fst (above : leastCount < count) : (decrement count).1 = count - 1 :=
  if_neg (Int.ne_of_gt above)

/-- Every decrement takes one away, up to multiples of `UInt64.size`. -/
theorem bmod_decrement (count : Int) :
    (decrement count).1.bmod UInt64.size = (count - 1).bmod UInt64.size := by
  unfold decrement
  split
  · rename_i least
    rw [least]
    decide
  · rfl

theorem isCount_decrement (fits : IsCount count) : IsCount (decrement count).1 := by
  unfold IsCount decrement leastCount greatestCount at *
  split <;> omega

end

/-- Counts, and for every handle the count that it shares. -/
structure Counters where
  counts : List Int
  handles : List Nat
  deriving DecidableEq

namespace Counters

/-- One handle with a count of its own. -/
def single : Counters := ⟨[0], [0]⟩

/-- The counts as the handles read them. -/
def readings (counters : Counters) : List Int :=
  counters.handles.map fun handle => counters.counts.getD handle 0

inductive Step where
  | increment (handle : Nat)
  | decrement (handle : Nat)
  | clone (handle : Nat)
  | new
  | current

/-- The count that a handle shares. -/
def slot? (counters : Counters) (handle : Nat) : Option Nat :=
  counters.handles[handle]?

def increment (counters : Counters) (slot : Nat) : Counters :=
  { counters with counts := counters.counts.modify slot (· + 1) }

def decrementAt (counters : Counters) (slot : Nat) : Counters × Option Underflow :=
  ({ counters with counts := counters.counts.modify slot (fun count => (decrement count).1) },
    (decrement (counters.counts.getD slot 0)).2)

def step (counters : Counters) : Step → Counters × Option Underflow
  | .increment handle =>
    match counters.slot? handle with
    | some slot => (counters.increment slot, none)
    | none => (counters, none)
  | .decrement handle =>
    match counters.slot? handle with
    | some slot => counters.decrementAt slot
    | none => (counters, none)
  | .clone handle =>
    match counters.slot? handle with
    | some slot => ({ counters with handles := counters.handles ++ [slot] }, none)
    | none => (counters, none)
  | .new =>
    ({ counts := counters.counts ++ [0], handles := counters.handles ++ [counters.counts.length] },
      none)
  | .current => (counters, none)

/-- The readings after every step, with the underflow that the step met. -/
def run (counters : Counters) : List Step → List (List Int × Option Underflow)
  | [] => []
  | first :: rest =>
    let next := counters.step first
    (next.1.readings, next.2) :: run next.1 rest

end Counters

/-- What a thread does to a shared count. -/
inductive CountStep where
  | increment
  | decrement
  deriving DecidableEq

namespace CountStep

def apply (count : Int) : CountStep → Int × Option Underflow
  | increment => (count + 1, none)
  | decrement => CheckpointSink.decrement count

/-- The count at the end of a sequence of steps. -/
def final (count : Int) (steps : List CountStep) : Int :=
  steps.foldl (fun count step => (step.apply count).1) count

/-- Threads that run one after another. -/
def sequential (threads : List (List CountStep)) : List CountStep :=
  threads.flatten

end CountStep
end CheckpointSink
