/-!
The 128-bit space of shard hashes, split evenly among parallel instances.
-/

namespace CheckpointSink.Shard

def greatestHash : Nat := 0xffffffffffffffffffffffffffffffff

def instanceCount (count : Nat) : Nat := max count 1

def sliceWidth (count : Nat) : Nat := greatestHash / instanceCount count

/-- An instance beyond the last one shares the last slice. -/
def sliceStart (index count : Nat) : Nat :=
  sliceWidth count * min index (instanceCount count - 1)

def hexPlaces : Nat := 32

def padded (digits : List Char) : List Char :=
  List.replicate (hexPlaces - digits.length) '0' ++ digits

/-- The start of a slice as 32 hexadecimal digits. -/
def sliceKey (index count : Nat) : String :=
  String.ofList (padded (Nat.toDigits 16 (sliceStart index count)))

end CheckpointSink.Shard
