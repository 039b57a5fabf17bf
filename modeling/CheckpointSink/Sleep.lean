/-!
The length of sleeps. Every sleep ends after thirty years at the latest, however long it was meant
to be.
-/

namespace CheckpointSink.Sleep

/-- Thirty years of 365 days. -/
def longestMs : Nat := 30 * 365 * 24 * 60 * 60 * 1000

/-- The time that a sleep takes, given the time that was asked for. -/
def lengthMs (askedMs : Nat) : Nat := min askedMs longestMs

end CheckpointSink.Sleep
