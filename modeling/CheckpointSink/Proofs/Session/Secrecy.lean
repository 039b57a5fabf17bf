import CheckpointSink.Proofs.Options.Reading
import CheckpointSink.Proofs.Session.Calls

/-!
The access key does not show. A sink with another access key does the same at every step: each
operation commutes with the change of the key, which is found again in the calls of the factory and
in the settings that are shown, and nowhere else.
-/

namespace CheckpointSink

open CheckpointSink.Settlement

variable {ε : Type} (key : String)

theorem Destination.shown_rekey (destination : Destination) :
    (destination.rekey key).shown = destination.shown := rfl

theorem Destination.shownInLines_rekey (destination : Destination) :
    (destination.rekey key).shownInLines = destination.shownInLines := rfl

/-- Of all calls, only that of the factory is given the access key. -/
def Call.rekey : Call → Call
  | .create settings destination creation => .create settings (destination.rekey key) creation
  | call => call

/-- Of all answers, only that with the settings has the access key in it. -/
def SessionAnswer.rekey (answer : SessionAnswer) : SessionAnswer :=
  match answer with
  | .settings shown => .settings (shown.rekey key)
  | other => other

namespace SessionAnswer

theorem ofResult_rekey (result : Except SinkError Unit) :
    (ofResult result).rekey key = ofResult result := by
  cases result <;> rfl

theorem ofWait_rekey (waited : Option WaitState) : (ofWait waited).rekey key = ofWait waited := by
  cases waited <;> rfl

theorem ofWaitState_rekey (state : Option (Option Bool)) :
    (ofWaitState state).rekey key = ofWaitState state := by
  rcases state with _ | _ | _ <;> rfl

end SessionAnswer

def SessionReport.rekey (report : SessionReport) : SessionReport :=
  { report with answer := report.answer.rekey key, calls := report.calls.map (Call.rekey key) }

def Sink.rekey (sink : Sink ε) : Sink ε :=
  { sink with settings := sink.settings.rekey key }

namespace Session

def rekey (session : Session ε) : Session ε :=
  { session with
    sink := session.sink.rekey key
    calls := session.calls.map (Call.rekey key) }

/-- What an operation returns, with the session after it under the other key. -/
def rekeyed {α : Type} (done : α × Session ε) : α × Session ε :=
  (done.1, done.2.rekey key)

variable (session : Session ε)

@[simp] theorem timeline_rekey : (session.rekey key).timeline = session.timeline := rfl

@[simp] theorem client_rekey : (session.rekey key).client = session.client := rfl

@[simp] theorem clientHeld_rekey :
    (session.rekey key).sink.clientHeld = session.sink.clientHeld := rfl

@[simp] theorem held_rekey : (session.rekey key).sink.held = session.sink.held := rfl

@[simp] theorem worker_rekey : (session.rekey key).sink.worker = session.sink.worker := rfl

theorem place_rekey (place : Place) :
    (session.rekey key).place place = (session.place place).rekey key := by
  unfold Session.place
  change (if session.sink.isWatched then _ else _) = _
  cases session.sink.isWatched <;> rfl

theorem acquire_rekey : (session.rekey key).acquire = rekeyed key session.acquire := by
  unfold acquire
  rw [clientHeld_rekey, client_rekey]
  by_cases held : session.sink.clientHeld
  · rw [if_pos held, if_pos held]
    rfl
  · rw [if_neg held, if_neg held]
    dsimp only
    cases session.client.create.1 <;> rfl

theorem employ_rekey : (session.rekey key).employ = session.employ.rekey key := by
  simp only [employ, worker_rekey]
  cases session.sink.worker <;> rfl

theorem openAt_rekey (place : Place) :
    (session.rekey key).openAt place = rekeyed key (session.openAt place) := by
  unfold openAt
  rw [place_rekey, acquire_rekey]
  dsimp only [rekeyed]
  cases (session.place place).acquire.1 with
  | some _ => rfl
  | none =>
    dsimp only
    rw [employ_rekey]
    rfl

theorem ship_rekey (number : Nat) (worker : WorkerHandle) (request : LogRequest) :
    (session.rekey key).ship number worker request =
      rekeyed key (session.ship number worker request) := by
  simp only [ship, client_rekey]
  cases (session.client.send number).1 <;> rfl

theorem invoke_rekey (element : ε) :
    (session.rekey key).invoke element = rekeyed key (session.invoke element) := by
  cases held : session.sink.held with
  | none =>
    have closed := Sink.held_eq_none_iff.mp held
    have closes : (session.rekey key).sink.clientHeld = false := closed
    rw [invoke_unopened closed, invoke_unopened closes]
    rfl
  | some number =>
    have holds : (session.rekey key).sink.held = some number := held
    cases hired : session.sink.worker with
    | none => simp [invoke, held, hired, rekeyed]
    | some worker =>
      have hires : (session.rekey key).sink.worker = some worker := hired
      have same : (session.rekey key).sink.schema (session.rekey key).clock element =
          session.sink.schema session.clock element := rfl
      rw [invoke_hired held hired, invoke_hired holds hires, same]
      cases session.sink.schema session.clock element with
      | none => rfl
      | some group =>
        dsimp only
        split
        · rfl
        · exact ship_rekey key session number worker _

theorem snapshot_rekey : (session.rekey key).snapshot = rekeyed key session.snapshot := by
  unfold snapshot
  rw [clientHeld_rekey]
  by_cases held : session.sink.clientHeld
  · rw [if_pos held, if_pos held]
    rfl
  · rw [if_neg held, if_neg held]
    rfl

theorem closeClient_rekey : (session.rekey key).closeClient = session.closeClient.rekey key := by
  simp only [closeClient, held_rekey, client_rekey]
  cases session.sink.held with
  | none => rfl
  | some number =>
    dsimp only
    cases (session.client.close number).1 <;> rfl

theorem dismiss_rekey : (session.rekey key).dismiss = session.dismiss.rekey key := by
  simp only [dismiss, worker_rekey]
  cases session.sink.worker <;> rfl

theorem close_rekey : (session.rekey key).close = session.close.rekey key := by
  unfold close
  rw [closeClient_rekey, dismiss_rekey]
  rfl

theorem wait_rekey : (session.rekey key).wait = rekeyed key session.wait := rfl

theorem joinWait_answer_rekey (timeline : Timeline) (index : Nat) :
    (joinWait timeline index).1.rekey key = (joinWait timeline index).1 := by
  unfold joinWait
  split
  · rfl
  · exact SessionAnswer.ofWait_rekey key _

theorem perform_rekey (given : SessionStep ε) :
    (session.rekey key).perform given =
      ((session.perform given).1.rekey key, (session.perform given).2.rekey key) := by
  cases given with
  | openAt place =>
    simp only [perform, openAt_rekey, rekeyed, SessionAnswer.ofResult_rekey]
  | invoke element =>
    simp only [perform, invoke_rekey, rekeyed, SessionAnswer.ofResult_rekey]
  | snapshot => simp only [perform, snapshot_rekey, rekeyed, SessionAnswer.ofWait_rekey]
  | wait => simp only [perform, wait_rekey, rekeyed, SessionAnswer.ofWait_rekey]
  | close => simp only [perform, close_rekey, SessionAnswer.rekey]
  | isOver index =>
    simp only [perform, timeline_rekey, SessionAnswer.ofWaitState_rekey]
  | join index =>
    simp only [perform, onTimeline, timeline_rekey, joinWait_answer_rekey]
    rfl
  | _ => rfl

theorem step_rekey (given : SessionStep ε) :
    (session.rekey key).step given =
      ((session.step given).1.rekey key, (session.step given).2.rekey key) := by
  have cleared : (session.rekey key).clear = session.clear.rekey key := rfl
  unfold step
  rw [cleared, perform_rekey]
  simp only [SessionReport.rekey, report, Session.rekey, settleReady, List.map_reverse]
  rfl

theorem run_rekey (script : List (SessionStep ε)) :
    (session.rekey key).run script = (session.run script).map (SessionReport.rekey key) := by
  induction script generalizing session with
  | nil => rfl
  | cons given rest ih =>
    simp only [run, step_rekey, ih, List.map_cons]

/-- Of two property maps that differ in the access key only, both give the same fault or both give a
sink; and the sinks differ, under any script, in the access key that the factory is called with and
in the settings that are shown, and in nothing else that a step reports. The key is not in the text
of a destination either. -/
theorem hides_access_key {first second : Properties} {former key : String}
    (others : ∀ name : String, name ≠ OptionKey.accessKey.name →
      first.get? name = second.get? name)
    (before : first.present? OptionKey.accessKey.name = some former)
    (after : second.present? OptionKey.accessKey.name = some key) :
    (∀ machineThreads : Nat, Settings.ofProperties machineThreads second =
      (Settings.ofProperties machineThreads first).map (Settings.rekey key)) ∧
    ∀ settings : Settings,
      (settings.rekey key).destination.shown = settings.destination.shown ∧
      (settings.rekey key).destination.shownInLines = settings.destination.shownInLines ∧
      ∀ (ε : Type) (clock : UInt32) (client : Client) (schema : UInt32 → ε → Option LogGroup)
        (script : List (SessionStep ε)),
        (Session.new clock client (Sink.new (settings.rekey key) schema)).run script =
          ((Session.new clock client (Sink.new settings schema)).run script).map
            (SessionReport.rekey key) := by
  have same (option : OptionKey) (other : option ≠ .accessKey) :
      first.get? option.name = second.get? option.name :=
    others option.name fun equal => other (OptionKey.name_injective equal)
  refine ⟨Settings.ofProperties_rekey same before after, fun settings => ?_⟩
  refine ⟨settings.destination.shown_rekey key, settings.destination.shownInLines_rekey key, ?_⟩
  intro ε clock client schema script
  exact run_rekey key (Session.new clock client (Sink.new settings schema)) script

def keyedProperties (key : String) : Properties :=
  ⟨[("log.project", "p"), ("log.logstore", "l"), ("log.endpoint", "e"),
    ("log.access-key-id", "i"), ("log.access-key", key)]⟩

def keyedSettings (key : String) : Settings :=
  ⟨⟨"p", "e", "i", key⟩, "l", .standard 8, 10000, 100, 3000⟩

theorem get?_keyedProperties {name : String} (other : name ≠ OptionKey.accessKey.name)
    (first second : String) :
    (keyedProperties first).get? name = (keyedProperties second).get? name := by
  have absent : (name == "log.access-key") = false := beq_false_of_ne other
  simp only [keyedProperties, Properties.get?, List.lookup_cons, absent]

/-- Two keys, one of them between blanks, and a sink that calls a factory. -/
theorem hides_access_key_demo :
    (∀ name : String, name ≠ OptionKey.accessKey.name →
      (keyedProperties "k").get? name = (keyedProperties " k2 ").get? name) ∧
    Settings.ofProperties 8 (keyedProperties " k2 ") =
      (Settings.ofProperties 8 (keyedProperties "k")).map (Settings.rekey "k2") ∧
    ∀ script : List (SessionStep LogGroup),
      (Session.new 0 (.fresh .scripted true)
        (Sink.new (keyedSettings "k2") fun _ group => some group)).run script =
      ((Session.new 0 (.fresh .scripted true)
        (Sink.new (keyedSettings "k") fun _ group => some group)).run script).map
          (SessionReport.rekey "k2") := by
  have others (name : String) (other : name ≠ OptionKey.accessKey.name) :=
    get?_keyedProperties other "k" " k2 "
  have hidden := hides_access_key others (by decide +kernel : _ = some "k")
    (by decide +kernel : _ = some "k2")
  exact ⟨others, hidden.1 8, (hidden.2 (keyedSettings "k")).2.2 LogGroup 0 _ _⟩

/-- The settings themselves can be asked for, and their answer has the access key in it. -/
theorem access_key_in_settings :
    (∀ name : String, name ≠ OptionKey.accessKey.name →
      (keyedProperties "k").get? name = (keyedProperties "k2").get? name) ∧
    Settings.ofProperties 8 (keyedProperties "k") = .ok (keyedSettings "k") ∧
    Settings.ofProperties 8 (keyedProperties "k2") = .ok (keyedSettings "k2") ∧
    ((Session.new 0 (.fresh .scripted false)
        (Sink.new (keyedSettings "k") fun _ (_ : Unit) => none)).run [.showSettings]).map
          SessionReport.answer ≠
      ((Session.new 0 (.fresh .scripted false)
        (Sink.new (keyedSettings "k2") fun _ (_ : Unit) => none)).run [.showSettings]).map
          SessionReport.answer :=
  ⟨fun _ other => get?_keyedProperties other "k" "k2", rfl, rfl, by decide +kernel⟩

end Session
end CheckpointSink
