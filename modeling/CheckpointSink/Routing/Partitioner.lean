import CheckpointSink.Routing.Shard

/-!
Partitioners choose the shard hash key of a batch from its element and from what they were told of the
place of the instance among its parallel instances.
-/

namespace CheckpointSink

structure Place where
  index : Nat
  count : Nat
  deriving DecidableEq

/-- A partitioner is known by the keys that it gives after the places that it was told, the first of
them first. What it makes of these is its state. -/
structure Partitioner (ε : Type) where
  key : List Place → ε → Option String
  /-- Its placings are entered in the record of calls. -/
  watched : Bool

namespace Partitioner

variable {ε σ : Type}

/-- A partitioner that changes its state whenever it is told a place. -/
def ofState (state : σ) (tell : σ → Place → σ) (key : σ → ε → Option String) (watched : Bool) :
    Partitioner ε :=
  ⟨fun places => key (places.foldl tell state), watched⟩

/-- Everything goes to the start of the slice of the instance, once its place is known. -/
def bySlice : Partitioner ε :=
  ofState none (fun _ place => some place)
    (fun last _ => last.map fun place => Shard.sliceKey place.index place.count) false

/-- The element itself names the key. -/
def byElement (key : ε → Option String) : Partitioner ε :=
  ofState () (fun state _ => state) (fun _ element => key element) true

end Partitioner

/-- A partitioner and the places that it was told. -/
structure PlacedPartitioner (ε : Type) where
  partitioner : Partitioner ε
  places : List Place

namespace PlacedPartitioner

variable {ε : Type}

def unplaced (partitioner : Partitioner ε) : PlacedPartitioner ε :=
  ⟨partitioner, []⟩

def put (placed : PlacedPartitioner ε) (place : Place) : PlacedPartitioner ε :=
  { placed with places := placed.places ++ [place] }

def key (placed : PlacedPartitioner ε) (element : ε) : Option String :=
  placed.partitioner.key placed.places element

end PlacedPartitioner
end CheckpointSink
