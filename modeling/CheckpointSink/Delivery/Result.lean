/-!
What becomes of a batch: the answer of the log service, or an error of the client.
-/

namespace CheckpointSink

/-- The answer of the log service. It may be a refusal, after all attempts of the client. -/
structure SendResult where
  successful : Bool
  attempts : UInt32
  errorCode : Option String
  errorMessage : Option String
  deriving DecidableEq

namespace SendResult

def success (attempts : UInt32) : SendResult :=
  ⟨true, attempts, none, none⟩

def failure (attempts : UInt32) (code message : String) : SendResult :=
  ⟨false, attempts, some code, some message⟩

end SendResult

inductive ClientError where
  | bufferFull
  | timeout (milliseconds : Nat)
  | closed
  /-- The resolver went away without an outcome. -/
  | dropped
  | rejected (code message : String)
  | transport (message : String)
  deriving DecidableEq

inductive Outcome where
  | answered (result : SendResult)
  | failed (error : ClientError)
  deriving DecidableEq

end CheckpointSink
