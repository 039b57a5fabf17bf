import CheckpointSink.Delivery.Handle

/-!
What becomes of each of many handles. A handle answers as if it were the only one: what was done to it
since it was made decides whether it is still held and which outcome it has, and its resolver is used
at most once.
-/

namespace CheckpointSink

/-- The outcome that a resolver has given to its handle. -/
def Resolver.outcome? : Resolver → Option Outcome
  | unused => none
  | used outcome => some outcome
  | dropped => some (.failed .dropped)

namespace SendHandle

namespace Step

/-- The handle that a step is addressed to. -/
def target? : Step → Option Nat
  | resolve index _ => some index
  | dropResolver index => some index
  | dropHandle index => some index
  | poll index => some index
  | _ => none

/-- The same step, addressed to another handle. -/
def readdress (index : Nat) : Step → Step
  | resolve _ outcome => resolve index outcome
  | dropResolver _ => dropResolver index
  | dropHandle _ => dropHandle index
  | poll _ => poll index
  | making => making

/-- The outcome, if any, with which a step makes a handle. -/
def origin? : Step → Option (Option Outcome)
  | channel => some none
  | ready outcome => some (some outcome)
  | _ => none

/-- The outcome that a handle gets when its resolver is used or dropped. -/
def use? : Step → Option Outcome
  | resolve _ outcome => some outcome
  | dropResolver _ => some (.failed .dropped)
  | _ => none

def isPoll : Step → Bool
  | poll _ => true
  | _ => false

def isDropHandle : Step → Bool
  | dropHandle _ => true
  | _ => false

end Step

/-! What the answers are to be -/

/-- The answers to the steps that are addressed to a handle. -/
def answersTo (index : Nat) (steps : List Step) (answers : List Answer) : List Answer :=
  (steps.zip answers).filterMap fun given =>
    if given.1.target? = some index then some given.2 else none

/-- The steps that make a handle and are addressed to it, where some handles were made before, as if
there were no other handle. -/
def alone (index : Nat) : Nat → List Step → List Step
  | _, [] => []
  | made, first :: rest =>
    if first.origin?.isSome then
      (if made = index then [first] else []) ++ alone index (made + 1) rest
    else (if first.target? = some index then [first.readdress 0] else []) ++ alone index made rest

/-- The outcome with which a handle was made, and what was done to it since. -/
structure History where
  origin : Option Outcome
  since : List Step

namespace History

/-- Of all that is done to a resolver, the first counts. -/
def outcome? (history : History) : Option Outcome :=
  history.origin <|> history.since.findSome? Step.use?

/-- The handle was not dropped, and no poll found its outcome. -/
def Held (history : History) : Prop :=
  ∀ earlier given later, history.since = earlier ++ given :: later →
    given.isDropHandle = false ∧
      (given.isPoll = true → outcome? ⟨history.origin, earlier⟩ = none)

def add (history : History) (given : Step) : History :=
  { history with since := history.since ++ [given] }

end History

/-- The history of a handle, if it is made, where some handles were made before. -/
def historyOf (index : Nat) : Nat → List Step → Option History
  | _, [] => none
  | made, first :: rest =>
    match first.origin? with
    | some origin =>
      if made = index then some ⟨origin, rest.filter fun given => given.target? = some index⟩
      else historyOf index (made + 1) rest
    | none => historyOf index made rest

/-- The resolver of the handle was there to be used. -/
def isEffective (index : Nat) : Step × Answer → Bool
  | (.resolve target _, .flag true) => target = index
  | _ => false

/-! One step -/

namespace Step

/-- What a step does to the handle that it is addressed to. -/
def act (handle : SendHandle) : Step → Answer × SendHandle
  | resolve _ outcome => (.flag (handle.resolve outcome).1, (handle.resolve outcome).2)
  | dropResolver _ => (.flag handle.dropResolver.1, handle.dropResolver.2)
  | dropHandle _ => (.flag handle.dropHandle.1, handle.dropHandle.2)
  | poll _ => (.polled handle.poll.1, handle.poll.2)
  | _ => (.flag false, handle)

/-- The answer where the handle was not made. -/
def absent : Step → Answer
  | poll _ => .polled .gone
  | _ => .flag false

variable {given : Step} {index : Nat}

theorem target?_of_origin? {origin : Option Outcome} (making : given.origin? = some origin) :
    given.target? = none := by
  cases given <;> cases making <;> rfl

theorem target?_readdress (target : given.target? = some index) (other : Nat) :
    (given.readdress other).target? = some other := by
  cases given <;> cases target <;> rfl

theorem act_readdress (handle : SendHandle) (given : Step) (other : Nat) :
    (given.readdress other).act handle = given.act handle := by
  cases given <;> rfl

theorem absent_readdress (given : Step) (other : Nat) :
    (given.readdress other).absent = given.absent := by
  cases given <;> rfl

end Step

section

variable {handles : List SendHandle} {given : Step} {index : Nat}

theorem step_found (target : given.target? = some index) {handle : SendHandle}
    (found : handles[index]? = some handle) :
    step handles given = ((given.act handle).1, handles.set index (given.act handle).2) := by
  cases given <;> cases target <;> simp [step, onHandle, Step.act, found]

theorem step_absent (target : given.target? = some index) (missing : handles[index]? = none) :
    step handles given = (given.absent, handles) := by
  cases given <;> cases target <;> simp [step, onHandle, Step.absent, missing]

/-- The handle that a step makes. -/
def ofOrigin : Option Outcome → SendHandle
  | none => channel
  | some outcome => ready outcome

theorem step_making {origin : Option Outcome} (making : given.origin? = some origin) :
    (step handles given).2 = handles ++ [ofOrigin origin] := by
  cases given <;> cases making <;> rfl

/-- A step that makes no handle is addressed to one. -/
theorem target?_of_unmaking (unmaking : given.origin? = none) : ∃ target, given.target? = some target := by
  cases given with
  | channel => cases unmaking
  | ready => cases unmaking
  | _ => exact ⟨_, rfl⟩

/-- What is done to one handle leaves the others alone. -/
theorem step_other {other : Nat} (target : given.target? = some other) (different : other ≠ index) :
    (step handles given).2[index]? = handles[index]? := by
  cases found : handles[other]? with
  | none => rw [step_absent target found]
  | some handle =>
    rw [step_found target found]
    exact List.getElem?_set_ne different

theorem length_step (target : given.target? = some index) :
    (step handles given).2.length = handles.length := by
  cases found : handles[index]? with
  | none => rw [step_absent target found]
  | some handle =>
    rw [step_found target found]
    exact List.length_set

end

/-! The steps of one handle -/

theorem answersTo_cons (index : Nat) (given : Step) (rest : List Step) (answer : Answer)
    (answers : List Answer) : answersTo index (given :: rest) (answer :: answers) =
      (if given.target? = some index then [answer] else []) ++ answersTo index rest answers := by
  simp only [answersTo, List.zip_cons_cons, List.filterMap_cons]
  split <;> simp_all

/-- A handle that is made later is not there yet, and one that was made before stays. -/
theorem getElem?_made (handles : List SendHandle) (handle : SendHandle) (index : Nat) :
    (handles ++ [handle])[index]? =
      if handles.length = index then some handle else handles[index]? := by
  rw [List.getElem?_append]
  split
  · rw [if_neg (by omega)]
  · split
    · simp [*]
    · rw [List.getElem?_eq_none (by simp; omega), List.getElem?_eq_none (by omega)]

/-- A handle answers as if it were the only one. -/
theorem answersTo_run (index : Nat) (handles : List SendHandle) (steps : List Step) :
    answersTo index steps (run handles steps) =
      answersTo 0 (alone index handles.length steps)
        (run handles[index]?.toList (alone index handles.length steps)) := by
  induction steps generalizing handles with
  | nil => rfl
  | cons given rest ih =>
    rw [run, answersTo_cons, ih]
    cases making : given.origin? with
    | some origin =>
      have untargeted := Step.target?_of_origin? making
      by_cases last : handles.length = index
      · simp [alone, making, step_making making, untargeted, last, run, answersTo_cons]
      · simp [alone, making, step_making making, untargeted, last, getElem?_made]
    | none =>
      obtain ⟨target, addressed⟩ := target?_of_unmaking making
      by_cases same : target = index
      · subst same
        have readdressed := Step.target?_readdress addressed 0
        cases found : handles[target]? with
        | none =>
          have missing : ([] : List SendHandle)[0]? = none := rfl
          simp [alone, making, addressed, found, run, answersTo_cons, readdressed,
            step_absent addressed found, step_absent readdressed missing, Step.absent_readdress]
        | some handle =>
          have single : [handle][0]? = some handle := rfl
          have bound := (List.getElem?_eq_some_iff.mp found).1
          simp [alone, making, addressed, run, answersTo_cons, readdressed,
            step_found addressed found, step_found readdressed single, Step.act_readdress, bound]
      · simp [alone, making, addressed, same, step_other addressed same, length_step addressed]

/-! History -/

/-- What was done to a handle shows in its state. -/
structure Reflects (history : History) (handle : SendHandle) : Prop where
  outcome : history.outcome? = handle.resolver.outcome?
  held : history.Held ↔ handle.held = true

theorem History.outcome?_add (history : History) (given : Step) :
    (history.add given).outcome? = (history.outcome? <|> given.use?) := by
  cases given_origin : history.origin <;>
    cases before : history.since.findSome? Step.use? <;>
      simp [outcome?, add, List.findSome?_append, given_origin, before]

theorem History.held_add (history : History) (given : Step) : (history.add given).Held ↔
    history.Held ∧ given.isDropHandle = false ∧
      (given.isPoll = true → history.outcome? = none) := by
  constructor
  · intro held
    refine ⟨fun earlier other later split => ?_, held history.since given [] rfl⟩
    exact held earlier other (later ++ [given]) (by simp [add, split])
  · rintro ⟨held, last⟩ earlier other later split
    change history.since ++ [given] = _ at split
    rcases List.eq_nil_or_concat later with rfl | ⟨others, final, rfl⟩
    · obtain ⟨rfl, same⟩ := List.append_inj' split rfl
      cases same
      exact last
    · rw [List.concat_eq_append, ← List.cons_append, ← List.append_assoc] at split
      exact held earlier other others (List.append_inj_left' split rfl)

theorem reflects_made (origin : Option Outcome) : Reflects ⟨origin, []⟩ (ofOrigin origin) where
  outcome := by cases origin <;> rfl
  held := by
    have held : History.Held ⟨origin, []⟩ := by
      intro earlier given later split
      simp at split
    cases origin <;> exact ⟨fun _ => rfl, fun _ => held⟩

theorem Reflects.act {history : History} {handle : SendHandle} (reflects : Reflects history handle)
    (given : Step) : Reflects (history.add given) (given.act handle).2 := by
  obtain ⟨outcome, held⟩ := reflects
  obtain ⟨resolver, here⟩ := handle
  refine ⟨?_, ?_⟩
  · rw [History.outcome?_add, outcome]
    cases given <;> cases resolver <;> cases here <;> rfl
  · rw [History.held_add, held, outcome]
    cases given <;> cases resolver <;> cases here <;>
      simp [Step.act, Step.isDropHandle, Step.isPoll, Resolver.outcome?, resolve, dropResolver,
        dropHandle, poll]

/-! Runs -/

/-- The handles after some steps. -/
def after (handles : List SendHandle) (steps : List Step) : List SendHandle :=
  steps.foldl (fun handles given => (step handles given).2) handles

theorem after_cons (handles : List SendHandle) (given : Step) (rest : List Step) :
    after handles (given :: rest) = after (step handles given).2 rest := rfl

theorem getElem?_run (handles : List SendHandle) (before : List Step) (given : Step)
    (later : List Step) : (run handles (before ++ given :: later))[before.length]? =
      some (step (after handles before) given).1 := by
  induction before generalizing handles with
  | nil => rfl
  | cons first rest ih => exact ih (step handles first).2

/-- A handle stays where it is and changes only by the steps addressed to it. -/
theorem getElem?_step {handles : List SendHandle} {index : Nat} {handle : SendHandle}
    (found : handles[index]? = some handle) (given : Step) : (step handles given).2[index]? =
      some (if given.target? = some index then (given.act handle).2 else handle) := by
  have bound := (List.getElem?_eq_some_iff.mp found).1
  cases making : given.origin? with
  | some origin =>
    rw [step_making making, getElem?_made, if_neg (by omega), found]
    simp [Step.target?_of_origin? making]
  | none =>
    obtain ⟨target, addressed⟩ := target?_of_unmaking making
    by_cases same : target = index
    · subst same
      rw [step_found addressed found, if_pos addressed, List.getElem?_set_self bound]
    · rw [step_other addressed same, found, if_neg (by simp [addressed, same])]

theorem reflects_after {handles : List SendHandle} {index : Nat} {history : History}
    {handle : SendHandle} (found : handles[index]? = some handle)
    (reflects : Reflects history handle) (steps : List Step) :
    ∃ later, (after handles steps)[index]? = some later ∧ Reflects { history with
      since := history.since ++ steps.filter fun given => given.target? = some index } later := by
  induction steps generalizing handles history handle with
  | nil => exact ⟨handle, found, by simpa using reflects⟩
  | cons given rest ih =>
    have known := getElem?_step found given
    by_cases addressed : given.target? = some index
    · rw [if_pos addressed] at known
      simpa [after_cons, addressed, History.add] using ih known (reflects.act given)
    · rw [if_neg addressed] at known
      simpa [after_cons, addressed] using ih known reflects

/-- Every handle that is made is there, in the state to which its history has brought it. -/
theorem reflects_made_after {handles : List SendHandle} {index : Nat} {steps : List Step}
    {history : History} (later : handles.length ≤ index)
    (made : historyOf index handles.length steps = some history) :
    ∃ handle, (after handles steps)[index]? = some handle ∧ Reflects history handle := by
  induction steps generalizing handles with
  | nil => cases made
  | cons given rest ih =>
    rw [after_cons]
    cases making : given.origin? with
    | some origin =>
      simp only [historyOf, making] at made
      rw [step_making making]
      by_cases this : handles.length = index
      · rw [if_pos this] at made
        cases made
        refine reflects_after ?_ (reflects_made origin) rest
        rw [getElem?_made, if_pos this]
      · rw [if_neg this] at made
        have length : (handles ++ [ofOrigin origin]).length = handles.length + 1 := by simp
        exact ih (by omega) (by rw [length]; exact made)
    | none =>
      simp only [historyOf, making] at made
      obtain ⟨target, addressed⟩ := target?_of_unmaking making
      have length : (step handles given).2.length = handles.length := length_step addressed
      exact ih (by omega) (by rw [length]; exact made)

/-! Resolvers -/

/-- The resolver of a handle was used or dropped. -/
def Spent (index : Nat) (handles : List SendHandle) : Prop :=
  ∃ handle, handles[index]? = some handle ∧ handle.resolver ≠ .unused

theorem Spent.step {handles : List SendHandle} {index : Nat} (spent : Spent index handles)
    (given : Step) : Spent index (step handles given).2 := by
  obtain ⟨handle, found, gone⟩ := spent
  refine ⟨_, getElem?_step found given, ?_⟩
  split
  · obtain ⟨resolver, here⟩ := handle
    cases given <;> cases resolver <;> cases here <;>
      simp_all [Step.act, resolve, dropResolver, dropHandle, poll]
  · exact gone

/-- A resolver is used only where it was neither used nor dropped before. -/
theorem spent_of_effective {handles : List SendHandle} {index : Nat} {given : Step}
    (effective : isEffective index (given, (step handles given).1) = true) :
    ¬Spent index handles ∧ Spent index (step handles given).2 := by
  cases given with
  | resolve target outcome =>
    cases found : handles[target]? with
    | none =>
      rw [step_absent rfl found] at effective
      cases effective
    | some handle =>
      have later := getElem?_step found (.resolve target outcome)
      have addressed : (Step.resolve target outcome).target? = some target := rfl
      rw [step_found rfl found] at effective
      rw [if_pos addressed] at later
      obtain ⟨resolver, here⟩ := handle
      cases resolver with
      | unused =>
        have same : target = index := of_decide_eq_true effective
        subst same
        refine ⟨?_, _, later, by simp [Step.act, resolve]⟩
        rintro ⟨other, known, gone⟩
        rw [found] at known
        cases known
        exact gone rfl
      | used => cases effective
      | dropped => cases effective
  | _ => cases effective

theorem countP_effective_of_spent {handles : List SendHandle} {index : Nat}
    (spent : Spent index handles) (steps : List Step) :
    (steps.zip (run handles steps)).countP (isEffective index) = 0 := by
  induction steps generalizing handles with
  | nil => rfl
  | cons given rest ih =>
    rw [run, List.zip_cons_cons, List.countP_cons_of_neg, ih (spent.step given)]
    exact fun effective => (spent_of_effective effective).1 spent

theorem countP_effective_le (handles : List SendHandle) (index : Nat) (steps : List Step) :
    (steps.zip (run handles steps)).countP (isEffective index) ≤ 1 := by
  induction steps generalizing handles with
  | nil => exact Nat.zero_le 1
  | cons given rest ih =>
    rw [run, List.zip_cons_cons]
    by_cases effective : isEffective index (given, (step handles given).1) = true
    · have others := countP_effective_of_spent (spent_of_effective effective).2 rest
      rw [List.countP_cons_of_pos effective]
      omega
    · rw [List.countP_cons_of_neg effective]
      exact ih _

/-- A handle answers as if it were the only one, and its resolver is used at most once. A poll finds
nothing once the handle was dropped or has given its outcome; before that, it finds the handle pending
or the first outcome that it was given. The resolver is there to be used or dropped until one of these
was done, even after the handle was dropped. -/
theorem resolves_at_most_once (index : Nat) (steps : List Step) :
    let answers := run [] steps
    answersTo index steps answers =
        answersTo 0 (alone index 0 steps) (run [] (alone index 0 steps)) ∧
      (steps.zip answers).countP (isEffective index) ≤ 1 ∧
      ∀ before given later history, steps = before ++ given :: later →
        historyOf index 0 before = some history →
          let answer := answers[before.length]?
          (given = .poll index →
            (answer = some (.polled .pending) ↔ history.Held ∧ history.outcome? = none) ∧
            (∀ outcome, answer = some (.polled (.ready outcome)) ↔
              history.Held ∧ history.outcome? = some outcome) ∧
            (answer = some (.polled .gone) ↔ ¬history.Held)) ∧
          (∀ outcome, given = .resolve index outcome →
            answer = some (.flag history.outcome?.isNone)) ∧
          (given = .dropResolver index → answer = some (.flag history.outcome?.isNone)) ∧
          (given = .dropHandle index → (answer = some (.flag true) ↔ history.Held)) := by
  intro answers
  refine ⟨answersTo_run index [] steps, countP_effective_le [] index steps, ?_⟩
  intro before given later history split made answer
  obtain ⟨handle, found, reflects⟩ : ∃ handle, (after [] before)[index]? = some handle ∧
      Reflects history handle := reflects_made_after (Nat.zero_le _) made
  have answered (target : given.target? = some index) :
      answer = some (given.act handle).1 := by
    have here := getElem?_run [] before given later
    rw [step_found target found] at here
    rw [← here, ← split]
  obtain ⟨outcome, held⟩ := reflects
  obtain ⟨resolver, here⟩ := handle
  rw [outcome, held]
  refine ⟨?_, ?_, ?_, ?_⟩
  · rintro rfl
    rw [answered rfl]
    cases here <;> cases resolver <;> simp [Step.act, poll, Resolver.outcome?]
  · rintro given rfl
    rw [answered rfl]
    cases resolver <;> rfl
  · rintro rfl
    rw [answered rfl]
    cases resolver <;> rfl
  · rintro rfl
    rw [answered rfl]
    simp [Step.act, dropHandle]

example : run [] [.channel, .dropHandle 0, .resolve 0 (.failed .closed), .resolve 0 (.failed .closed),
    .poll 0] = [.number 0, .flag true, .flag true, .flag false, .polled .gone] := by decide

end SendHandle
end CheckpointSink
