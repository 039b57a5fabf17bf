import CheckpointSink.Event
import CheckpointSink.Pending

/-!
The callback of a settled batch. The count goes down first; a failure is reported after that, and
nothing is reported where the count had nothing to give.
-/

namespace CheckpointSink

/-- The report that an outcome asks for. -/
def Outcome.report? : Outcome → Option Event
  | answered result =>
    if result.successful then none
    else some (.batchRefused (result.errorCode.getD "") (result.errorMessage.getD "")
      result.attempts)
  | failed error => some (.batchFailed error)

/-- The count after the callback, and what it enters. -/
def settle (pending : Int) (outcome : Outcome) : Int × List Entry :=
  match decrement pending with
  | (left, some _) => (left, [.underflow])
  | (left, none) => (left, (outcome.report?.map fun event => Entry.event event left).toList)

/-- One outcome after the other. -/
def settleAll (pending : Int) : List Outcome → List (Int × List Entry)
  | [] => []
  | outcome :: rest => settle pending outcome :: settleAll (settle pending outcome).1 rest

end CheckpointSink
