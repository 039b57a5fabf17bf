import CheckpointSink.Proofs.Pending.Interleaving
import Mathlib.Data.List.GetD
import Mathlib.Data.List.Induction
import Mathlib.Logic.Relation

/-!
Counts behind several handles. A clone shares the count of the handle that it was taken from, so two
handles share a count exactly if a chain of clones leads from one to the other, in whichever direction
each of the clones was taken. The count is then what was added through all of them less what was taken
away, and nothing else changes it.
-/

namespace CheckpointSink.Counters

/-- The handle that a step goes through. -/
def Step.handle? : Step → Option Nat
  | increment handle => some handle
  | decrement handle => some handle
  | clone handle => some handle
  | new => none
  | current => none

/-- What a step does to the count of a handle. -/
def Step.act? : Step → Option (Nat × CountStep)
  | increment handle => some (handle, .increment)
  | decrement handle => some (handle, .decrement)
  | clone _ => none
  | new => none
  | current => none

/-- For each handle, in the order of their making, the handle that it is a clone of. -/
def descend (origins : List (Option Nat)) : Step → List (Option Nat)
  | .clone handle => if handle < origins.length then origins ++ [some handle] else origins
  | .new => origins ++ [none]
  | .increment _ => origins
  | .decrement _ => origins
  | .current => origins

/-- The origins of the handles that are there after some steps, beginning with one handle. -/
def origins (steps : List Step) : List (Option Nat) :=
  steps.foldl descend [none]

def IsClone (origins : List (Option Nat)) (clone origin : Nat) : Prop :=
  origins[clone]? = some (some origin)

/-- A chain of clones leads from one handle to the other. -/
structure Related (steps : List Step) (first second : Nat) : Prop where
  first_made : first < (origins steps).length
  second_made : second < (origins steps).length
  chain : Relation.EqvGen (IsClone (origins steps)) first second

/-- Every step goes through a handle that is there by then. -/
inductive Feasible : List Step → Prop where
  | start : Feasible []
  | next {steps : List Step} {step : Step} : Feasible steps →
    (∀ handle, step.handle? = some handle → handle < (origins steps).length) →
      Feasible (steps ++ [step])

/-- What the steps have done to counts, and through which handles. -/
def acts (steps : List Step) : List (Nat × CountStep) :=
  steps.filterMap Step.act?

def after (steps : List Step) : Counters :=
  steps.foldl (fun counters step => (counters.step step).1) single

theorem origins_concat (steps : List Step) (step : Step) :
    origins (steps ++ [step]) = descend (origins steps) step :=
  List.foldl_concat ..

theorem after_concat (steps : List Step) (step : Step) :
    after (steps ++ [step]) = ((after steps).step step).1 :=
  List.foldl_concat ..

/-! Steps -/

variable {counters : Counters} {step : Step} {handle slot : Nat} {act : CountStep}

/-- What a step can do. An act changes the count of its handle, and the count before it decides whether
it takes too much. A step through a handle that is not there does nothing. -/
inductive Effect (counters : Counters) (step : Step) : Prop where
  | acted (handle slot : Nat) (act : CountStep) (isAct : step.act? = some (handle, act))
    (shares : counters.slot? handle = some slot)
    (stepped : counters.step step =
      ({ counters with counts := counters.counts.modify slot fun count => (act.apply count).1 },
        (act.apply (counters.counts.getD slot 0)).2))
  | cloned (handle slot : Nat) (isClone : step = .clone handle)
    (shares : counters.slot? handle = some slot)
    (stepped : counters.step step =
      ({ counters with handles := counters.handles ++ [slot] }, none))
  | begun (isNew : step = .new)
    (stepped : counters.step step =
      (⟨counters.counts ++ [0], counters.handles ++ [counters.counts.length]⟩, none))
  | idle (notNew : step ≠ .new)
    (absent : ∀ handle, step.handle? = some handle → counters.slot? handle = none)
    (stepped : counters.step step = (counters, none))

theorem Effect.of_absent (through : step.handle? = some handle)
    (absent : counters.slot? handle = none) : Effect counters step := by
  refine .idle ?_ ?_ ?_
  · rintro rfl
    cases through
  · intro other alsoThrough
    rw [← Option.some.inj (through.symm.trans alsoThrough)]
    exact absent
  · cases step <;> cases through <;> simp only [Counters.step, absent]

theorem effect (counters : Counters) (step : Step) : Effect counters step := by
  cases step with
  | current => exact .idle nofun nofun rfl
  | new => exact .begun rfl rfl
  | increment handle =>
    cases shares : counters.slot? handle with
    | none => exact .of_absent rfl shares
    | some slot =>
      refine .acted handle slot .increment rfl shares ?_
      simp only [Counters.step, shares]
      rfl
  | decrement handle =>
    cases shares : counters.slot? handle with
    | none => exact .of_absent rfl shares
    | some slot =>
      refine .acted handle slot .decrement rfl shares ?_
      simp only [Counters.step, shares]
      rfl
  | clone handle =>
    cases shares : counters.slot? handle with
    | none => exact .of_absent rfl shares
    | some slot => exact .cloned handle slot rfl shares (by simp only [Counters.step, shares])

theorem act_cases {acted : Nat × CountStep} (isAct : step.act? = some acted) :
    step = .increment acted.1 ∧ acted.2 = .increment ∨
      step = .decrement acted.1 ∧ acted.2 = .decrement := by
  cases step <;> cases isAct <;> simp

theorem handle?_of_act? {acted : Nat × CountStep} (isAct : step.act? = some acted) :
    step.handle? = some acted.1 := by
  rcases act_cases isAct with ⟨rfl, -⟩ | ⟨rfl, -⟩ <;> rfl

/-! Handles that share a count -/

/-- The handles that come from one another by clones are those that share a count. -/
structure Kin (family : List (Option Nat)) (handles : List Nat) (counts : Nat) : Prop where
  length : family.length = handles.length
  bounded : ∀ slot ∈ handles, slot < counts
  cloned : ∀ clone origin, IsClone family clone origin → handles[clone]? = handles[origin]?
  shared : ∀ first second slot, handles[first]? = some slot → handles[second]? = some slot →
    Relation.EqvGen (IsClone family) first second

theorem getElem?_concat_eq_some {α : Type} {items : List α} {last item : α} {index : Nat} :
    (items ++ [last])[index]? = some item ↔
      items[index]? = some item ∨ index = items.length ∧ last = item := by
  rcases Nat.lt_trichotomy index items.length with before | rfl | after
  · rw [List.getElem?_append_left before]
    simp [Nat.ne_of_lt before]
  · simp
  · have outside : (items ++ [last]).length ≤ index := by
      rw [List.length_append]
      exact after
    simp [List.getElem?_eq_none outside, Nat.le_of_lt after, Nat.ne_of_gt after]

theorem chain_mono {family : List (Option Nat)} {first second : Nat} (origin : Option Nat)
    (chain : Relation.EqvGen (IsClone family) first second) :
    Relation.EqvGen (IsClone (family ++ [origin])) first second :=
  Relation.EqvGen.mono (fun _ _ clone => getElem?_concat_eq_some.mpr (.inl clone)) _ _ chain

variable {family : List (Option Nat)} {handles : List Nat} {counts : Nat}

/-- A handle more, which shares its count with the handles that it is related to. -/
theorem Kin.grow (kin : Kin family handles counts) {origin : Option Nat} {more : Nat}
    (most : counts ≤ more) (fits : slot < more)
    (comes : ∀ handle, origin = some handle → handles[handle]? = some slot)
    (joins : ∀ known, handles[known]? = some slot →
      Relation.EqvGen (IsClone (family ++ [origin])) handles.length known) :
    Kin (family ++ [origin]) (handles ++ [slot]) more where
  length := by rw [List.length_append, List.length_append, kin.length]; rfl
  bounded := by
    intro other member
    rcases List.mem_append.mp member with known | isLast
    · exact Nat.lt_of_lt_of_le (kin.bounded other known) most
    · rw [List.mem_singleton.mp isLast]
      exact fits
  cloned := by
    intro clone source isClone
    rcases getElem?_concat_eq_some.mp isClone with known | ⟨rfl, rfl⟩
    · have same := kin.cloned clone source known
      have made : clone < handles.length := kin.length ▸ (List.getElem?_eq_some_iff.mp known).1
      have shares : handles[clone]? = some handles[clone] := List.getElem?_eq_getElem made
      rw [getElem?_concat_eq_some.mpr (.inl shares),
        getElem?_concat_eq_some.mpr (.inl (same.symm.trans shares))]
    · rw [kin.length, List.getElem?_concat_length,
        getElem?_concat_eq_some.mpr (.inl (comes source rfl))]
  shared := by
    intro first second other isFirst isSecond
    rcases getElem?_concat_eq_some.mp isFirst with known | ⟨rfl, rfl⟩ <;>
      rcases getElem?_concat_eq_some.mp isSecond with alsoKnown | ⟨rfl, isLast⟩
    · exact chain_mono origin (kin.shared first second other known alsoKnown)
    · exact .symm _ _ (joins first (isLast ▸ known))
    · exact joins second alsoKnown
    · exact .refl _

theorem descend_act (isAct : step.act? = some (handle, act)) (family : List (Option Nat)) :
    descend family step = family := by
  rcases act_cases isAct with ⟨rfl, -⟩ | ⟨rfl, -⟩ <;> rfl

theorem Kin.made (kin : Kin family handles counts) (shares : handles[handle]? = some slot) :
    handle < family.length :=
  kin.length ▸ (List.getElem?_eq_some_iff.mp shares).1

theorem Kin.exists_slot (kin : Kin family handles counts) (made : handle < family.length) :
    ∃ slot, handles[handle]? = some slot :=
  ⟨_, List.getElem?_eq_getElem (kin.length ▸ made)⟩

/-- Handles come to be as clones or with a count of their own, and none goes away. -/
theorem kin_step (kin : Kin family counters.handles counters.counts.length) (step : Step) :
    Kin (descend family step) (counters.step step).1.handles
      (counters.step step).1.counts.length := by
  cases effect counters step with
  | acted handle slot act isAct shares stepped =>
    rw [descend_act isAct, stepped, List.length_modify]
    exact kin
  | cloned handle slot isClone shares stepped =>
    subst isClone
    rw [descend, if_pos (kin.made shares), stepped]
    refine kin.grow (Nat.le_refl _) (kin.bounded slot (List.mem_of_getElem? shares)) ?_ ?_
    · rintro other ⟨⟩
      exact shares
    · intro known alsoShares
      have cloned : IsClone (family ++ [some handle]) counters.handles.length handle := by
        rw [← kin.length]
        exact List.getElem?_concat_length
      exact .trans _ _ _ (.rel _ _ cloned)
        (chain_mono _ (kin.shared handle known slot shares alsoShares))
  | begun isNew stepped =>
    subst isNew
    rw [stepped, List.length_append]
    refine kin.grow (Nat.le_succ _) (Nat.lt_succ_self _) nofun fun known shares => ?_
    exact absurd (kin.bounded _ (List.mem_of_getElem? shares)) (Nat.lt_irrefl _)
  | idle notNew absent stepped =>
    have same : descend family step = family := by
      cases step with
      | new => exact absurd rfl notNew
      | clone handle =>
        refine if_neg fun made => ?_
        obtain ⟨slot, shares⟩ := kin.exists_slot made
        cases (absent handle rfl).symm.trans shares
      | _ => rfl
    rw [same, stepped]
    exact kin

theorem kin_after (steps : List Step) :
    Kin (origins steps) (after steps).handles (after steps).counts.length := by
  induction steps using List.reverseRecOn with
  | nil =>
    have empty : Kin [] [] 0 := ⟨rfl, nofun, nofun, nofun⟩
    exact empty.grow (Nat.zero_le 1) Nat.one_pos nofun nofun
  | append_singleton steps step ih =>
    rw [origins_concat, after_concat]
    exact kin_step ih step

theorem related_iff {steps : List Step} {first second : Nat} : Related steps first second ↔
    ∃ slot, (after steps).slot? first = some slot ∧ (after steps).slot? second = some slot := by
  have kin := kin_after steps
  constructor
  · rintro ⟨firstMade, -, chain⟩
    obtain ⟨slot, shares⟩ := kin.exists_slot firstMade
    have agree : Equivalence fun first second =>
        (after steps).slot? first = (after steps).slot? second :=
      eq_equivalence.comap (after steps).slot?
    have same := agree.eqvGen_iff.mp (Relation.EqvGen.mono kin.cloned first second chain)
    exact ⟨slot, shares, same.symm.trans shares⟩
  · rintro ⟨slot, shares, alsoShares⟩
    exact ⟨kin.made shares, kin.made alsoShares,
      kin.shared first second slot shares alsoShares⟩

instance (steps : List Step) (first second : Nat) : Decidable (Related steps first second) :=
  decidable_of_iff
    (((after steps).slot? first).any fun slot => (after steps).slot? second = some slot)
    (by simp [related_iff, Option.any_eq_true])

/-- What was done to the count of a handle through the handles that it is related to. -/
def actsThrough (steps : List Step) (handle : Nat) : List CountStep :=
  ((acts steps).filter fun act => Related steps act.1 handle).map Prod.snd

/-! Counts -/

theorem acts_concat (steps : List Step) (step : Step) :
    acts (steps ++ [step]) = acts steps ++ step.act?.toList := by
  rw [acts, List.filterMap_append]
  cases isAct : step.act? <;> simp [acts, isAct]

theorem slot?_step (made : counters.slot? handle = some slot) (step : Step) :
    (counters.step step).1.slot? handle = some slot := by
  cases effect counters step with
  | acted other otherSlot act isAct shares stepped => rwa [stepped]
  | cloned other otherSlot isClone shares stepped =>
    rw [stepped]
    exact getElem?_concat_eq_some.mpr (.inl made)
  | begun isNew stepped =>
    rw [stepped]
    exact getElem?_concat_eq_some.mpr (.inl made)
  | idle notNew absent stepped => rwa [stepped]

theorem getD_modify {counts : List Int} (inside : slot < counts.length) (change : Int → Int)
    (other : Nat) : (counts.modify slot change).getD other 0 =
      if slot = other then change (counts.getD slot 0) else counts.getD other 0 := by
  simp only [List.getD_eq_getElem?_getD, List.getElem?_modify]
  split
  · rename_i same
    subst same
    simp [List.getElem?_eq_getElem inside]
  · simp

/-- A count that begins reads like one that is not there. -/
theorem getD_concat_zero (counts : List Int) (slot : Nat) :
    (counts ++ [0]).getD slot 0 = counts.getD slot 0 := by
  rcases Nat.lt_or_ge slot counts.length with before | after
  · exact List.getD_append _ _ _ _ before
  · rw [List.getD_append_right _ _ _ _ after, List.getD_eq_default _ _ after]
    cases slot - counts.length <;> rfl

/-- What was done through handles is done to the counts that they share. -/
def actsOn (counters : Counters) (steps : List Step) (slot : Nat) : List CountStep :=
  ((acts steps).filter fun act => counters.slot? act.1 = some slot).map Prod.snd

theorem act_made {steps : List Step} {acted : Nat × CountStep} (isAct : step.act? = some acted)
    (made : ∀ handle, step.handle? = some handle → handle < (origins steps).length) :
    ∃ slot, (after steps).slot? acted.1 = some slot := by
  apply (kin_after steps).exists_slot
  exact made acted.1 (handle?_of_act? isAct)

theorem Feasible.acts_made {steps : List Step} (feasible : Feasible steps) :
    ∀ act ∈ acts steps, ∃ slot, (after steps).slot? act.1 = some slot := by
  induction feasible with
  | start => nofun
  | @next steps step feasible made ih =>
    intro act member
    have earlier : ∃ slot, (after steps).slot? act.1 = some slot := by
      rw [acts_concat, List.mem_append, Option.mem_toList] at member
      exact member.elim (ih act) (act_made · made)
    obtain ⟨slot, shares⟩ := earlier
    rw [after_concat]
    exact ⟨slot, slot?_step shares step⟩

/-- One more step adds what it does itself, to the count that it does it to. -/
theorem actsOn_concat {steps : List Step} (feasible : Feasible steps)
    (made : ∀ handle, step.handle? = some handle → handle < (origins steps).length) (slot : Nat) :
    actsOn (after (steps ++ [step])) (steps ++ [step]) slot =
      actsOn (after steps) steps slot ++
        (step.act?.toList.filter fun act => (after steps).slot? act.1 = some slot).map Prod.snd := by
  have same : ∀ act ∈ acts (steps ++ [step]),
      (after (steps ++ [step])).slot? act.1 = (after steps).slot? act.1 := by
    intro act member
    rw [acts_concat, List.mem_append, Option.mem_toList] at member
    obtain ⟨slot, shares⟩ := member.elim (feasible.acts_made act) (act_made · made)
    rw [after_concat, shares, slot?_step shares]
  rw [actsOn, List.filter_congr fun act member => by rw [same act member], acts_concat,
    List.filter_append, List.map_append]
  rfl

/-- Each count is what was added to it less what was taken away. -/
theorem Feasible.sums {steps : List Step} (feasible : Feasible steps) (slot : Nat) :
    CountStep.Sums (actsOn (after steps) steps slot) ((after steps).counts.getD slot 0) := by
  induction feasible with
  | start => cases slot <;> exact .start
  | @next steps step feasible made ih =>
    rw [actsOn_concat feasible made, after_concat]
    cases effect (after steps) step with
    | acted handle shared act isAct shares stepped =>
      have inside := (kin_after steps).bounded shared (List.mem_of_getElem? shares)
      rw [stepped, getD_modify inside, isAct]
      by_cases same : shared = slot
      · subst same
        simpa [shares] using ih.apply act
      · have other : ¬(after steps).slot? handle = some slot := by
          rw [shares]
          exact fun isSlot => same (Option.some.inj isSlot)
        rw [if_neg same, Option.toList_some, List.filter_singleton, decide_eq_false other]
        simpa using ih
    | cloned handle shared isClone shares stepped =>
      rw [stepped, isClone]
      simpa [Step.act?] using ih
    | begun isNew stepped =>
      rw [stepped, isNew, getD_concat_zero]
      simpa [Step.act?] using ih
    | idle notNew absent stepped =>
      have noAct : step.act? = none := by
        rw [Option.eq_none_iff_forall_ne_some]
        intro acted isAct
        obtain ⟨shared, shares⟩ := act_made isAct made
        cases (absent _ (handle?_of_act? isAct)).symm.trans shares
      rw [stepped, noAct]
      simpa using ih

theorem actsThrough_eq {steps : List Step} (shares : (after steps).slot? handle = some slot) :
    actsThrough steps handle = actsOn (after steps) steps slot := by
  have same (other : Nat) :
      Related steps other handle ↔ (after steps).slot? other = some slot := by
    rw [related_iff]
    constructor
    · rintro ⟨shared, isFirst, isSecond⟩
      rw [isFirst, ← isSecond, shares]
    · exact fun isFirst => ⟨slot, isFirst, shares⟩
  simp only [actsThrough, actsOn, same]

/-! Readings -/

theorem readings_eq (counters : Counters) (handle : Nat) : counters.readings[handle]? =
    (counters.slot? handle).map fun slot => counters.counts.getD slot 0 :=
  List.getElem?_map

theorem reading_of_slot (shares : counters.slot? handle = some slot) :
    counters.readings[handle]? = some (counters.counts.getD slot 0) := by
  rw [readings_eq, shares]
  rfl

theorem length_readings (steps : List Step) :
    (after steps).readings.length = (origins steps).length := by
  rw [readings, List.length_map, (kin_after steps).length]

theorem Feasible.reading_sums {steps : List Step} (feasible : Feasible steps) {count : Int}
    (read : (after steps).readings[handle]? = some count) :
    CountStep.Sums (actsThrough steps handle) count := by
  rw [readings_eq, Option.map_eq_some_iff] at read
  obtain ⟨slot, shares, rfl⟩ := read
  rw [actsThrough_eq shares]
  exact feasible.sums slot

theorem run_getElem? (counters : Counters) (earlier : List Step) (step : Step) (later : List Step) :
    let before := earlier.foldl (fun counters step => (counters.step step).1) counters
    (run counters (earlier ++ step :: later))[earlier.length]? =
      some ((before.step step).1.readings, (before.step step).2) := by
  induction earlier generalizing counters with
  | nil => rfl
  | cons first rest ih => exact ih (counters.step first).1

theorem feasible_concat {steps : List Step} : Feasible (steps ++ [step]) ↔
    Feasible steps ∧ ∀ handle, step.handle? = some handle → handle < (origins steps).length := by
  refine ⟨fun feasible => ?_, fun parts => .next parts.1 parts.2⟩
  generalize whole : steps ++ [step] = all at feasible
  cases feasible with
  | start => simp at whole
  | next before made =>
    obtain ⟨rfl, same⟩ := List.append_inj' whole rfl
    cases same
    exact ⟨before, made⟩

theorem Feasible.of_append {earlier later : List Step} (feasible : Feasible (earlier ++ later)) :
    Feasible earlier := by
  induction later using List.reverseRecOn with
  | nil => rwa [List.append_nil] at feasible
  | append_singleton later step ih =>
    rw [← List.append_assoc] at feasible
    exact ih (feasible_concat.mp feasible).1

theorem readings_clone (shares : counters.slot? handle = some slot) :
    (counters.step (.clone handle)).1.readings =
      counters.readings ++ [counters.counts.getD slot 0] := by
  cases effect counters (.clone handle) with
  | acted other otherSlot act isAct alsoShares stepped => cases isAct
  | cloned other otherSlot isClone alsoShares stepped =>
    cases isClone
    cases shares.symm.trans alsoShares
    rw [stepped, readings, List.map_append]
    rfl
  | begun isNew stepped => cases isNew
  | idle notNew absent stepped => cases (absent handle rfl).symm.trans shares

theorem readings_new (counters : Counters) :
    (counters.step .new).1.readings = counters.readings ++ [0] := by
  have fresh : counters.counts.getD counters.counts.length 0 = 0 :=
    List.getD_eq_default _ _ (Nat.le_refl _)
  show (counters.handles ++ [counters.counts.length]).map
    (fun handle => (counters.counts ++ [0]).getD handle 0) = _
  simp only [getD_concat_zero, List.map_append, List.map_cons, List.map_nil, fresh]
  rfl

/-- A step through handles that share another count changes nothing here. -/
theorem reading_step (shares : counters.slot? handle = some slot)
    (apart : ∀ through, step.handle? = some through → counters.slot? through ≠ some slot) :
    (counters.step step).1.readings[handle]? = counters.readings[handle]? := by
  have same : (counters.step step).1.counts.getD slot 0 = counters.counts.getD slot 0 := by
    cases effect counters step with
    | acted other otherSlot act isAct alsoShares stepped =>
      have differ : otherSlot ≠ slot := by
        rintro rfl
        exact apart other (handle?_of_act? isAct) alsoShares
      rw [stepped]
      simp [List.getD_eq_getElem?_getD, differ]
    | cloned other otherSlot isClone alsoShares stepped => rw [stepped]
    | begun isNew stepped => rw [stepped, getD_concat_zero]
    | idle notNew absent stepped => rw [stepped]
  rw [reading_of_slot (slot?_step shares step), reading_of_slot shares, same]

theorem underflow_iff (counters : Counters) (step : Step) :
    (counters.step step).2 = some ⟨⟩ ↔ ∃ handle count, step = .decrement handle ∧
      counters.readings[handle]? = some count ∧ count ≤ 0 := by
  cases effect counters step with
  | acted handle slot act isAct shares stepped =>
    rw [stepped]
    rcases act_cases isAct with ⟨rfl, rfl⟩ | ⟨rfl, rfl⟩
    · simp [CountStep.apply]
    · simp [CountStep.apply, CheckpointSink.decrement, reading_of_slot shares]
  | cloned handle slot isClone shares stepped =>
    subst isClone
    simp [stepped]
  | begun isNew stepped =>
    subst isNew
    simp [stepped]
  | idle notNew absent stepped =>
    refine iff_of_false (by simp [stepped]) ?_
    rintro ⟨handle, count, rfl, read, -⟩
    rw [readings_eq, absent handle rfl] at read
    cases read

/-- After every step of a sequence, the count that is read through a handle is what was added through
the handles that chains of clones relate to it, less what was taken away through them, whether or not a
step took too much: exactly as long as these steps are fewer than 2 ^ 63, and always up to multiples of
2 ^ 64. A step takes too much exactly if it takes away where zero or less was read before.
It leaves alone what is read through handles that are not related to its own. A clone reads what its
origin reads, and a new handle zero. -/
theorem clones_share {earlier later : List Step} {step : Step}
    (feasible : Feasible (earlier ++ step :: later)) :
    let before := (after earlier).readings
    let now := (after (earlier ++ [step])).readings
    ∃ underflow, (run single (earlier ++ step :: later))[earlier.length]? = some (now, underflow) ∧
      now.length = (origins (earlier ++ [step])).length ∧
      (∀ (handle : Nat) count, now[handle]? = some count →
        let made := actsThrough (earlier ++ [step]) handle
        let left : Int := made.count .increment - made.count .decrement
        (made.length < 2 ^ 63 → count = left) ∧ count.bmod UInt64.size = left.bmod UInt64.size) ∧
      (underflow = some ⟨⟩ ↔ ∃ handle count, step = .decrement handle ∧
        before[handle]? = some count ∧ count ≤ 0) ∧
      (∀ handle < before.length,
        (∀ through, step.handle? = some through → ¬Related earlier through handle) →
          now[handle]? = before[handle]?) ∧
      (∀ handle, step = .clone handle →
        ∃ count, before[handle]? = some count ∧ now = before ++ [count]) ∧
      (step = .new → now = before ++ [0]) := by
  intro before now
  have upTo : Feasible (earlier ++ [step]) := by
    rw [List.append_cons] at feasible
    exact feasible.of_append
  have stepped : now = ((after earlier).step step).1.readings := by
    show (after (earlier ++ [step])).readings = _
    rw [after_concat]
  have kin := kin_after earlier
  refine ⟨((after earlier).step step).2, ?_, length_readings _, ?_, underflow_iff _ _, ?_, ?_, ?_⟩
  · rw [stepped]
    exact run_getElem? single earlier step later
  · intro handle count read
    obtain ⟨wrapped, few⟩ := upTo.reading_sums read
    exact ⟨few, wrapped⟩
  · intro handle made apart
    obtain ⟨slot, shares⟩ := kin.exists_slot (length_readings earlier ▸ made)
    rw [stepped]
    refine reading_step shares fun through isThrough alsoShares => ?_
    exact apart through isThrough (related_iff.mpr ⟨slot, alsoShares, shares⟩)
  · rintro handle rfl
    obtain ⟨slot, shares⟩ := kin.exists_slot ((feasible_concat.mp upTo).2 handle rfl)
    exact ⟨_, reading_of_slot shares, stepped.trans (readings_clone shares)⟩
  · rintro rfl
    rw [stepped]
    exact readings_new _

/-- A clone of a clone, and a handle with a count of its own between them. -/
def twoFamilies : List Step :=
  [.increment 0, .clone 0, .new, .clone 1, .decrement 3]

theorem clones_share_underflow :
    Feasible (twoFamilies ++ .decrement 1 :: [.increment 2]) ∧
      Related twoFamilies 0 3 ∧ ¬Related twoFamilies 1 2 ∧
      (run single (twoFamilies ++ .decrement 1 :: [.increment 2]))[5]? =
        some ([-1, -1, 0, -1], some ⟨⟩) := by
  have made : Feasible ([] ++ [.increment 0] ++ [.clone 0] ++ [.new] ++ [.clone 1] ++
      [.decrement 3] ++ [.decrement 1] ++ [.increment 2]) := by
    refine .next (.next (.next (.next (.next (.next (.next .start ?_) ?_) ?_) ?_) ?_) ?_) ?_ <;>
      rintro _ ⟨⟩ <;> decide
  have feasible : Feasible (twoFamilies ++ .decrement 1 :: [.increment 2]) := made
  obtain ⟨underflow, entry, -, -, takes, -⟩ := clones_share feasible
  have emptied : underflow = some ⟨⟩ := takes.mpr ⟨1, 0, rfl, rfl, Int.le_refl 0⟩
  refine ⟨feasible, by decide, by decide, ?_⟩
  rw [← emptied]
  exact entry

end CheckpointSink.Counters
