import CheckpointSink.Delivery.Result

/-!
The batching clients that a sink can be driven with. One follows a script and leaves its batches
open; the other acknowledges every batch at once and refuses all after its first close. A sink knows
a client by the number with which it was handed out.
-/

namespace CheckpointSink

inductive ClientKind where
  | scripted
  | discarding
  deriving DecidableEq

/-- What the close of a client makes of the resolvers that are left. -/
inductive Closing where
  | leaves
  | drops
  | delivers (outcomes : List (Nat × Outcome))
  deriving DecidableEq

/-- The outcomes that a close gives to batches, of which some are left open. -/
def Closing.outcomes (left : List Nat) : Closing → List (Nat × Outcome)
  | leaves => []
  | drops => left.map fun batch => (batch, .failed .dropped)
  | delivers outcomes => outcomes

/-- What comes of the call for a client. -/
inductive Creation where
  | handedOut (number : Nat)
  | failed (error : ClientError)
  deriving DecidableEq

namespace Creation

def number? : Creation → Option Nat
  | handedOut number => some number
  | failed _ => none

def error? : Creation → Option ClientError
  | handedOut _ => none
  | failed error => some error

theorem error?_eq_some_iff {creation : Creation} {error : ClientError} :
    creation.error? = some error ↔ creation = .failed error := by
  cases creation <;> simp [error?]

end Creation

/-- The clients that are handed out one after the other, and whatever hands them out. -/
structure Client where
  kind : ClientKind
  /-- The sink calls a factory for its client, which may fail. A discarding client is then a new one
  each time; without a factory one and the same client is handed out again and again. -/
  fromFactory : Bool
  /-- How often a client was handed out, which is the next number. -/
  handedOut : Nat
  /-- The discarding clients that were closed. -/
  closed : List Nat
  /-- The closes of a scripted client so far. -/
  closes : Nat
  factoryErrors : List ClientError
  rejections : List ClientError
  closeErrors : List ClientError
  /-- The outcome that accepted batches have at once. -/
  automatic : Option Outcome
  sendDelayMs : Nat
  closing : Closing
  deriving DecidableEq

namespace Client

def fresh (kind : ClientKind) (fromFactory : Bool) : Client where
  kind
  fromFactory
  handedOut := 0
  closed := []
  closes := 0
  factoryErrors := []
  rejections := []
  closeErrors := []
  automatic := none
  sendDelayMs := 0
  closing := .leaves

def handOut (client : Client) : Creation × Client :=
  (.handedOut client.handedOut, { client with handedOut := client.handedOut + 1 })

/-- A client is handed out, unless a factory fails. -/
def create (client : Client) : Creation × Client :=
  if client.fromFactory then
    match client.factoryErrors with
    | error :: rest => (.failed error, { client with factoryErrors := rest })
    | [] => client.handOut
  else client.handOut

/-- How long a send takes before it is answered. -/
def delayMs (client : Client) : Nat :=
  match client.kind with
  | .scripted => client.sendDelayMs
  | .discarding => 0

/-- The discarding client with a number. -/
def identity (client : Client) (number : Nat) : Nat :=
  if client.fromFactory then number else 0

def isClosed (client : Client) (number : Nat) : Bool :=
  client.identity number ∈ client.closed

/-- The refusal of a batch by the client with a number, or its acceptance with the outcome that it may
have at once. -/
def send (client : Client) (number : Nat) : Except ClientError (Option Outcome) × Client :=
  match client.kind with
  | .discarding =>
    if client.isClosed number then (.error .closed, client)
    else (.ok (some (.answered (.success 1))), client)
  | .scripted =>
    match client.rejections with
    | error :: rest => (.error error, { client with rejections := rest })
    | [] => (.ok client.automatic, client)

/-- The error with which the close of the client with a number ends. -/
def close (client : Client) (number : Nat) : Option ClientError × Client :=
  match client.kind with
  | .discarding => (none, { client with closed := client.identity number :: client.closed })
  | .scripted =>
    (client.closeErrors.head?,
      { client with closes := client.closes + 1, closeErrors := client.closeErrors.tail })

end Client
end CheckpointSink
