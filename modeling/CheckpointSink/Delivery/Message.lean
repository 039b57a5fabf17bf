import CheckpointSink.Delivery.Result
import CheckpointSink.Options.Properties

/-!
The errors of a sink and the texts of all errors.
-/

namespace CheckpointSink

open CheckpointSink.Number

def ClientError.message : ClientError → String
  | bufferFull => "producer buffer is full"
  | timeout milliseconds =>
    "timed out after " ++ natText milliseconds ++ "ms waiting for buffer space"
  | closed => "producer is closed"
  | dropped => "send handle was dropped before it resolved"
  | rejected code message => "batch rejected by the log service: " ++ code ++ ": " ++ message
  | transport message => "transport error: " ++ message

inductive SinkError where
  | options (error : OptionError)
  | notOpened
  | submit (error : ClientError)
  | creation (error : ClientError)
  deriving DecidableEq

namespace SinkError

/-- The text of the error inside. -/
def cause : SinkError → Option String
  | options error => some error.message
  | notOpened => none
  | submit error => some error.message
  | creation error => some error.message

def message : SinkError → String
  | options error => "configuration error: " ++ error.message
  | notOpened => "log producer sink has not been opened yet"
  | submit error => "error while sending logs: " ++ error.message
  | creation error => "failed to create log producer: " ++ error.message

end SinkError
end CheckpointSink
