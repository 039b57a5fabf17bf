import CheckpointSink.Proofs.Number.Hexadecimal
import CheckpointSink.Routing.Shard
import Mathlib.Data.Nat.Find
import Mathlib.Order.Interval.Finset.Nat

/-!
The keys of parallel instances and the slices of the hash space that begin at them. The starts stand
in the order of the instances, in equal steps; what the division leaves over goes to the last slice.
-/

namespace CheckpointSink.Shard

open CheckpointSink.Number

/-! Starts -/

theorem greatestHash_eq : greatestHash + 1 = 16 ^ hexPlaces := by
  decide

theorem instanceCount_pos (count : Nat) : 0 < instanceCount count :=
  Nat.lt_of_lt_of_le Nat.zero_lt_one (Nat.le_max_right count 1)

theorem instanceCount_eq {count : Nat} (positive : 1 ≤ count) : instanceCount count = count :=
  Nat.max_eq_left positive

/-- No start is beyond the greatest hash, so that the product is one of 128 bits. -/
theorem sliceStart_le (index count : Nat) : sliceStart index count ≤ greatestHash := by
  have below : min index (instanceCount count - 1) ≤ instanceCount count := by omega
  calc sliceStart index count
      ≤ greatestHash / instanceCount count * instanceCount count := Nat.mul_le_mul_left _ below
    _ ≤ greatestHash := Nat.div_mul_le_self _ _

theorem sliceStart_of_lt {index count : Nat} (isInstance : index < count) :
    sliceStart index count = sliceWidth count * index := by
  have last : instanceCount count = count := instanceCount_eq (by omega)
  rw [sliceStart, last, Nat.min_eq_left (by omega)]

theorem sliceStart_of_le {index count : Nat} (beyond : count ≤ index) :
    sliceStart index count = sliceStart (count - 1) count := by
  have least : instanceCount count - 1 = count - 1 := by
    rw [instanceCount]
    omega
  rw [sliceStart, sliceStart, least, Nat.min_eq_right (by omega), Nat.min_self]

theorem sliceWidth_pos {count : Nat} (few : count ≤ greatestHash) : 0 < sliceWidth count := by
  have bound : instanceCount count ≤ greatestHash := Nat.max_le.mpr ⟨few, by decide⟩
  exact Nat.div_pos bound (instanceCount_pos count)

/-! Keys -/

theorem padded_length {digits : List Char} (short : digits.length ≤ hexPlaces) :
    (padded digits).length = hexPlaces := by
  rw [padded, List.length_append, List.length_replicate]
  omega

theorem toList_sliceKey (index count : Nat) :
    (sliceKey index count).toList = padded (Nat.toDigits 16 (sliceStart index count)) :=
  String.toList_ofList

theorem length_sliceKey (index count : Nat) : (sliceKey index count).toList.length = hexPlaces := by
  have bound := sliceStart_le index count
  have whole := greatestHash_eq
  rw [toList_sliceKey]
  apply padded_length
  rw [Nat.length_toDigits_le_iff (by decide) (by decide)]
  omega

theorem allHex_sliceKey (index count : Nat) : AllHex (sliceKey index count).toList := by
  rw [toList_sliceKey, padded]
  intro c member
  rcases List.mem_append.mp member with zero | digit
  · rw [List.eq_of_mem_replicate zero]
    decide
  · exact allHex_toDigits _ c digit

theorem hexValue_sliceKey (index count : Nat) :
    hexValue (sliceKey index count).toList = sliceStart index count := by
  rw [toList_sliceKey, padded, hexValue_replicate_zero, hexValue_toDigits]

/-- The order of the starts is that of the keys as texts. -/
theorem sliceKey_lt {first second count : Nat}
    (less : sliceStart first count < sliceStart second count) :
    sliceKey first count < sliceKey second count := by
  rw [String.lt_iff]
  apply lt_of_hexValue_lt
  · rw [length_sliceKey, length_sliceKey]
  · exact allHex_sliceKey first count
  · exact allHex_sliceKey second count
  · rwa [hexValue_sliceKey, hexValue_sliceKey]

theorem sliceKey_zero (count : Nat) : sliceKey 0 count = "00000000000000000000000000000000" := by
  have start : sliceStart 0 count = 0 := by rw [sliceStart, Nat.zero_min, Nat.mul_zero]
  rw [sliceKey, start]
  decide +kernel

theorem sliceKey_of_le {index count : Nat} (beyond : count ≤ index) :
    sliceKey index count = sliceKey (count - 1) count := by
  rw [sliceKey, sliceStart_of_le beyond, sliceKey]

/-- As long as there are no more instances than hashes, they have ascending keys. -/
theorem sliceKey_strictMonoOn {first second count : Nat} (few : count ≤ greatestHash)
    (less : first < second) (isInstance : second < count) :
    sliceKey first count < sliceKey second count := by
  apply sliceKey_lt
  rw [sliceStart_of_lt (by omega), sliceStart_of_lt isInstance]
  exact Nat.mul_lt_mul_of_pos_left less (sliceWidth_pos few)

/-- A key is a number of 32 digits in base sixteen: the width of a slice, which is the whole space
divided among the instances, times the index of the instance, and no product leaves the space. The
keys of the instances ascend as texts, hence no two are the same. The first is nothing but zeros, and
whatever is beyond the last instance has the key of the last. -/
theorem keys_ascend (index : Nat) {count : Nat} (word : count < 2 ^ 64) :
    ((sliceKey index count).toList.length = 32 ∧
      (∀ c ∈ (sliceKey index count).toList, c ∈ "0123456789abcdef".toList) ∧
      hexValue (sliceKey index count).toList =
        (2 ^ 128 - 1) / max count 1 * min index (max count 1 - 1) ∧
      (2 ^ 128 - 1) / max count 1 * min index (max count 1 - 1) ≤ 2 ^ 128 - 1 ∧
      0 < max count 1) ∧
    (∀ first second, first < second → second < count →
      sliceKey first count < sliceKey second count) ∧
    (∀ first second, first < count → second < count →
      sliceKey first count = sliceKey second count → first = second) ∧
    sliceKey 0 count = "00000000000000000000000000000000" ∧
    (count ≤ index → sliceKey index count = sliceKey (count - 1) count) := by
  have few : count ≤ greatestHash := by
    have space : 2 ^ 64 ≤ greatestHash := by decide
    omega
  have ascend (first second : Nat) (less : first < second) (isInstance : second < count) :
      sliceKey first count < sliceKey second count := sliceKey_strictMonoOn few less isInstance
  refine ⟨⟨length_sliceKey index count, allHex_sliceKey index count, hexValue_sliceKey index count,
    sliceStart_le index count, instanceCount_pos count⟩, ascend, ?_, sliceKey_zero count,
    sliceKey_of_le⟩
  intro first second one other same
  rcases Nat.lt_trichotomy first second with less | equal | greater
  · exact absurd same (String.ne_of_lt (ascend first second less other))
  · exact equal
  · exact absurd same.symm (String.ne_of_lt (ascend second first greater one))

/-- As many instances as a word can count, and an index that is beyond the last of them. -/
theorem keys_ascend_greatest :
    2 ^ 64 - 1 < 2 ^ 64 ∧ sliceKey 1 (2 ^ 64 - 1) < sliceKey (2 ^ 64 - 2) (2 ^ 64 - 1) ∧
      sliceKey (2 ^ 64 - 1) (2 ^ 64 - 1) = "fffffffffffffffefffffffffffffffe" := by
  obtain ⟨-, ascend, -, -, beyond⟩ := keys_ascend (2 ^ 64 - 1) (by decide : 2 ^ 64 - 1 < 2 ^ 64)
  refine ⟨by decide, ascend 1 (2 ^ 64 - 2) (by decide) (by decide), ?_⟩
  rw [beyond (by decide)]
  decide +kernel

/-! Slices -/

/-- The number that the key of an instance stands for. -/
def keyNumber (index count : Nat) : Nat :=
  hexValue (sliceKey index count).toList

/-- From the key of an instance to the key of the next; the last slice goes to the end of the space. -/
def slice (index count : Nat) : Finset Nat :=
  Finset.Ico (keyNumber index count)
    (if index + 1 < count then keyNumber (index + 1) count else 2 ^ 128)

theorem keyNumber_eq {index count : Nat} (isInstance : index < count) :
    keyNumber index count = sliceWidth count * index := by
  rw [keyNumber, hexValue_sliceKey, sliceStart_of_lt isInstance]

theorem sliceWidth_eq {count : Nat} (positive : 1 ≤ count) :
    sliceWidth count = (2 ^ 128 - 1) / count := by
  rw [sliceWidth, instanceCount_eq positive]
  rfl

/-- The division of the space leaves less than one hash for each instance. -/
theorem hashes_left {count : Nat} (positive : 1 ≤ count) :
    sliceWidth count * count < 2 ^ 128 ∧ 2 ^ 128 ≤ sliceWidth count * count + count := by
  have parts := Nat.div_add_mod' (2 ^ 128 - 1) count
  have rest : (2 ^ 128 - 1) % count < count := Nat.mod_lt _ positive
  rw [sliceWidth_eq positive]
  omega

theorem slice_before_last {index count : Nat} (next : index + 1 < count) :
    slice index count = Finset.Ico (sliceWidth count * index)
      (sliceWidth count * index + sliceWidth count) := by
  rw [slice, if_pos next, keyNumber_eq (by omega), keyNumber_eq next, Nat.mul_succ]

theorem slice_last {count : Nat} (positive : 1 ≤ count) :
    slice (count - 1) count = Finset.Ico (sliceWidth count * (count - 1)) (2 ^ 128) := by
  rw [slice, if_neg (by omega), keyNumber_eq (by omega)]

theorem card_slice {index count : Nat} (next : index + 1 < count) :
    (slice index count).card = sliceWidth count := by
  rw [slice_before_last next, Nat.card_Ico]
  omega

theorem card_slice_last {count : Nat} (positive : 1 ≤ count) :
    sliceWidth count + 1 ≤ (slice (count - 1) count).card ∧
      (slice (count - 1) count).card ≤ sliceWidth count + count := by
  have left := hashes_left positive
  have step : sliceWidth count * count = sliceWidth count * (count - 1) + sliceWidth count := by
    rw [← Nat.mul_succ]
    congr 1
    omega
  rw [slice_last positive, Nat.card_Ico]
  omega

/-- All slices but the last are as wide as the division says, and the last takes what is left. -/
theorem card_slice_bounds {index count : Nat} (isInstance : index < count) :
    sliceWidth count ≤ (slice index count).card ∧
      (slice index count).card ≤ sliceWidth count + count := by
  by_cases next : index + 1 < count
  · rw [card_slice next]
    omega
  · have last : index = count - 1 := by omega
    have bounds := card_slice_last (by omega : 1 ≤ count)
    rw [last]
    omega

/-- A key falls short of the ideal boundary by less than one hash for each slice before it. -/
theorem keyNumber_near {index count : Nat} (isInstance : index < count) :
    keyNumber index count ≤ index * 2 ^ 128 / count ∧
      index * 2 ^ 128 / count ≤ keyNumber index count + index := by
  have positive : 1 ≤ count := by omega
  obtain ⟨below, above⟩ := hashes_left positive
  rw [keyNumber_eq isInstance]
  constructor
  · rw [Nat.le_div_iff_mul_le positive]
    calc sliceWidth count * index * count
        = index * (sliceWidth count * count) := by ring
      _ ≤ index * 2 ^ 128 := Nat.mul_le_mul_left _ below.le
  · apply Nat.div_le_of_le_mul
    calc index * 2 ^ 128
        ≤ index * (sliceWidth count * count + count) := Nat.mul_le_mul_left _ above
      _ = count * (sliceWidth count * index + index) := by ring

theorem mem_slice {hash index count : Nat} (isInstance : index < count) :
    hash ∈ slice index count ↔ sliceWidth count * index ≤ hash ∧ hash < 2 ^ 128 ∧
      ∀ later, index < later → later < count → hash < sliceWidth count * later := by
  have positive : 1 ≤ count := by omega
  obtain ⟨below, -⟩ := hashes_left positive
  by_cases next : index + 1 < count
  · rw [slice_before_last next, Finset.mem_Ico, ← Nat.mul_succ]
    have inSpace : sliceWidth count * (index + 1) ≤ sliceWidth count * count :=
      Nat.mul_le_mul_left _ next.le
    constructor
    · rintro ⟨begins, ends⟩
      have ended : hash < 2 ^ 128 := Nat.lt_of_lt_of_le ends (inSpace.trans below.le)
      refine ⟨begins, ended, fun later after _ => ?_⟩
      exact Nat.lt_of_lt_of_le ends (Nat.mul_le_mul_left _ after)
    · rintro ⟨begins, -, ends⟩
      exact ⟨begins, ends (index + 1) (Nat.lt_succ_self index) next⟩
  · have last : index = count - 1 := by omega
    rw [last, slice_last positive, Finset.mem_Ico]
    constructor
    · rintro ⟨begins, ends⟩
      exact ⟨begins, ends, fun later after isLater => by omega⟩
    · rintro ⟨begins, ends, -⟩
      exact ⟨begins, ends⟩

/-- Among the instances whose slices begin at a hash or before it there is a last one. -/
theorem exists_last_begun (hash : Nat) {count : Nat} (positive : 1 ≤ count) :
    ∃ index < count, sliceWidth count * index ≤ hash ∧
      ∀ later, index < later → later < count → hash < sliceWidth count * later := by
  let begun (index : Nat) : Prop := sliceWidth count * index ≤ hash
  have first : begun 0 := Nat.zero_le hash
  have bound : Nat.findGreatest begun (count - 1) ≤ count - 1 := Nat.findGreatest_le _
  refine ⟨Nat.findGreatest begun (count - 1), by omega,
    Nat.findGreatest_spec (Nat.zero_le (count - 1)) first, ?_⟩
  intro later after isInstance
  have notBegun : ¬begun later := Nat.findGreatest_is_greatest after (by omega)
  exact Nat.lt_of_not_le notBegun

/-- That instance is the one whose slice has the hash, and no other slice has it. -/
theorem exists_unique_slice {hash count : Nat} (positive : 1 ≤ count) (inSpace : hash < 2 ^ 128) :
    ∃! index, index < count ∧ hash ∈ slice index count := by
  obtain ⟨index, isInstance, begins, ends⟩ := exists_last_begun hash positive
  refine ⟨index, ⟨isInstance, (mem_slice isInstance).mpr ⟨begins, inSpace, ends⟩⟩, ?_⟩
  rintro other ⟨isOther, member⟩
  obtain ⟨otherBegins, -, otherEnds⟩ := (mem_slice isOther).mp member
  rcases Nat.lt_trichotomy other index with less | same | greater
  · have ended := otherEnds index less isInstance
    omega
  · exact same
  · have ended := ends other greater isOther
    omega

/-- The keys follow one another in steps of one width and stay near the boundaries of an ideal
split. The last slice also takes what the division leaves over. Every hash of the space is in one
slice and no more, and no slice has more hashes than another by more than the number of instances. -/
theorem slices_even {count : Nat} (positive : 1 ≤ count) :
    (∀ index, index + 1 < count →
      keyNumber (index + 1) count = keyNumber index count + (2 ^ 128 - 1) / count) ∧
    (∀ index < count, keyNumber index count ≤ index * 2 ^ 128 / count ∧
      index * 2 ^ 128 / count ≤ keyNumber index count + index) ∧
    (slice (count - 1) count = Finset.Icc (keyNumber (count - 1) count) (2 ^ 128 - 1) ∧
      (2 ^ 128 - 1) / count + 1 ≤ (slice (count - 1) count).card ∧
      (slice (count - 1) count).card ≤ (2 ^ 128 - 1) / count + count) ∧
    (∀ hash < 2 ^ 128, ∃! index, index < count ∧ hash ∈ slice index count) ∧
    (∀ index < count, slice index count ⊆ Finset.range (2 ^ 128)) ∧
    ∀ first < count, ∀ second < count,
      (slice first count).card ≤ (slice second count).card + count := by
  rw [← sliceWidth_eq positive]
  refine ⟨?_, fun index => keyNumber_near, ⟨?_, card_slice_last positive⟩,
    fun hash => exists_unique_slice positive, ?_, ?_⟩
  · intro index next
    rw [keyNumber_eq next, keyNumber_eq (by omega), Nat.mul_succ]
  · rw [slice_last positive, keyNumber_eq (by omega)]
    ext hash
    rw [Finset.mem_Ico, Finset.mem_Icc]
    omega
  · intro index isInstance hash member
    rw [Finset.mem_range]
    exact ((mem_slice isInstance).mp member).2.1
  · intro first one second other
    have wide := (card_slice_bounds one).2
    have narrow := (card_slice_bounds other).1
    omega

/-- Seven instances leave three hashes over. -/
theorem slices_even_seven :
    1 ≤ 7 ∧ keyNumber 3 7 = keyNumber 2 7 + (2 ^ 128 - 1) / 7 ∧
      (∃! index, index < 7 ∧ 2 ^ 128 - 1 ∈ slice index 7) ∧
      (slice 6 7).card ≤ (slice 0 7).card + 7 := by
  obtain ⟨steps, -, -, whole, -, even⟩ := slices_even (by decide : 1 ≤ 7)
  exact ⟨by decide, steps 2 (by decide), whole (2 ^ 128 - 1) (by decide),
    even 6 (by decide) 0 (by decide)⟩

end CheckpointSink.Shard
