import CheckpointSink.Delivery.Result

/-!
Send handles. The client keeps the resolver of a handle and uses it at most once; the other side
polls the handle until it has taken the outcome.
-/

namespace CheckpointSink

/-- The client's side. -/
inductive Resolver where
  | unused
  | used (outcome : Outcome)
  | dropped
  deriving DecidableEq

structure SendHandle where
  resolver : Resolver
  /-- Neither dropped nor at the end of its outcome. -/
  held : Bool
  deriving DecidableEq

inductive Poll where
  | gone
  | pending
  | ready (outcome : Outcome)
  deriving DecidableEq

namespace SendHandle

def channel : SendHandle :=
  ⟨.unused, true⟩

def ready (outcome : Outcome) : SendHandle :=
  ⟨.used outcome, true⟩

/-- The resolver can be used if it is there, whether or not the handle still is. -/
def resolve (outcome : Outcome) (handle : SendHandle) : Bool × SendHandle :=
  match handle.resolver with
  | .unused => (true, { handle with resolver := .used outcome })
  | _ => (false, handle)

def dropResolver (handle : SendHandle) : Bool × SendHandle :=
  match handle.resolver with
  | .unused => (true, { handle with resolver := .dropped })
  | _ => (false, handle)

def dropHandle (handle : SendHandle) : Bool × SendHandle :=
  (handle.held, { handle with held := false })

def poll (handle : SendHandle) : Poll × SendHandle :=
  if handle.held then
    match handle.resolver with
    | .unused => (.pending, handle)
    | .used outcome => (.ready outcome, { handle with held := false })
    | .dropped => (.ready (.failed .dropped), { handle with held := false })
  else (.gone, handle)

inductive Step where
  | channel
  | ready (outcome : Outcome)
  | resolve (index : Nat) (outcome : Outcome)
  | dropResolver (index : Nat)
  | dropHandle (index : Nat)
  | poll (index : Nat)

inductive Answer where
  | number (index : Nat)
  | flag (happened : Bool)
  | polled (poll : Poll)
  deriving DecidableEq

/-- Handles are numbered in the order of their making; a number without a handle changes nothing. -/
def onHandle (index : Nat) (handles : List SendHandle) (absent : Answer)
    (action : SendHandle → Answer × SendHandle) : Answer × List SendHandle :=
  match handles[index]? with
  | none => (absent, handles)
  | some handle => ((action handle).1, handles.set index (action handle).2)

def step (handles : List SendHandle) : Step → Answer × List SendHandle
  | .channel => (.number handles.length, handles ++ [channel])
  | .ready outcome => (.number handles.length, handles ++ [ready outcome])
  | .resolve index outcome =>
    onHandle index handles (.flag false) fun handle =>
      ((.flag (handle.resolve outcome).1), (handle.resolve outcome).2)
  | .dropResolver index =>
    onHandle index handles (.flag false) fun handle =>
      ((.flag handle.dropResolver.1), handle.dropResolver.2)
  | .dropHandle index =>
    onHandle index handles (.flag false) fun handle =>
      ((.flag handle.dropHandle.1), handle.dropHandle.2)
  | .poll index =>
    onHandle index handles (.polled .gone) fun handle => ((.polled handle.poll.1), handle.poll.2)

def run (handles : List SendHandle) : List Step → List Answer
  | [] => []
  | first :: rest => (step handles first).1 :: run (step handles first).2 rest

end SendHandle
end CheckpointSink
