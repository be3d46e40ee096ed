import SpriteRuntime.Native.ImuValidation

/-!
# Reading encoded packets

What is read at the offsets of a packet that an encoder wrote.
-/

namespace SpriteRuntime

open Foundation

variable {K : Type}

/-! ## Shorts -/

theorem signed16_of_word {raw : List UInt8} {index word : ℕ}
    (joined : (raw.getD index 0).toNat ||| (raw.getD (index + 1) 0).toNat <<< 8 = word) :
    signed16 raw index = if 32768 ≤ word then (word : ℤ) - 65536 else word := by
  subst joined
  rfl

theorem toNat_lt_word (count : Int16) : count.toUInt16.toNat < 65536 := count.toUInt16.toNat_lt

theorem toInt_of_word (count : Int16) :
    count.toInt = if 32768 ≤ count.toUInt16.toNat then (count.toUInt16.toNat : ℤ) - 65536
      else count.toUInt16.toNat := by
  have bits : count.toUInt16.toNat = count.toBitVec.toNat := rfl
  rw [Int16.toInt, BitVec.toInt_eq_toNat_cond, bits]
  split <;> split <;> omega

@[simp] theorem length_countBytes (count : Int16) : (countBytes count).length = 2 :=
  length_bytesOf 2 _

/-- The short that is read is the count that was written. -/
theorem signed16_countBytes (count : Int16) (rest : List UInt8) :
    signed16 (countBytes count ++ rest) 0 = count.toInt := by
  have bounded := toNat_lt_word count
  have lower : ((countBytes count ++ rest).getD 0 0).toNat = count.toUInt16.toNat % 256 :=
    UInt8.toNat_ofNat'
  have upper : ((countBytes count ++ rest).getD (0 + 1) 0).toNat =
      count.toUInt16.toNat / 256 % 256 := UInt8.toNat_ofNat'
  have small : count.toUInt16.toNat % 256 < 2 ^ 8 := Nat.mod_lt _ (by decide)
  have joined : ((countBytes count ++ rest).getD 0 0).toNat |||
      ((countBytes count ++ rest).getD (0 + 1) 0).toNat <<< 8 = count.toUInt16.toNat := by
    rw [lower, upper, Nat.or_comm, ← Nat.shiftLeft_add_eq_or_of_lt small, Nat.shiftLeft_eq]
    omega
  rw [signed16_of_word joined, toInt_of_word]

theorem signed16_append (front back : List UInt8) (index : ℕ) :
    signed16 (front ++ back) (front.length + index) = signed16 back index := by
  have shifted (place : ℕ) : (front ++ back).getD (front.length + place) 0 = back.getD place 0 := by
    rw [List.getD_eq_getElem?_getD, List.getElem?_append_right (by omega),
      Nat.add_sub_cancel_left, List.getD_eq_getElem?_getD]
  rw [signed16, shifted, add_assoc, shifted, signed16]

theorem signed16_counts {counts : List Int16} {index : ℕ} {count : Int16}
    (found : counts[index]? = some count) :
    signed16 (counts.flatMap countBytes) (2 * index) = count.toInt := by
  induction counts generalizing index with
  | nil => simp at found
  | cons first counts induction =>
      rw [List.flatMap_cons]
      cases index with
      | zero =>
          obtain rfl : first = count := by simpa using found
          exact signed16_countBytes first _
      | succ index =>
          have shifted := signed16_append (countBytes first) (counts.flatMap countBytes) (2 * index)
          rw [length_countBytes] at shifted
          rw [show 2 * (index + 1) = 2 + 2 * index by ring, shifted]
          exact induction found

namespace ImuPacket

variable {packet : ImuPacket K} {offset index count : ℕ} {bytes : List UInt8}

/-! ## Fields of a slice -/

@[simp] theorem length_slice (offset count : ℕ) : (packet.slice offset count).length = count := by
  simp [slice]

theorem getD_slice (inside : index < count) :
    (packet.slice offset count).getD index 0 = packet.byte (offset + index) := by
  simp [slice, List.getD_eq_getElem?_getD, List.getElem?_range inside]

theorem littleEndian_slice :
    littleEndian (packet.slice offset 8) = packet.readU64 offset := by
  rw [readU64]

theorem slice_raw : packet.slice 32 46 = packet.raw := by
  rw [raw]

/-- A short that lies in two slices. -/
theorem signed16_slice_eq {other size place : ℕ}
    (inside : index + 2 ≤ count) (within : place + 2 ≤ size)
    (same : offset + index = other + place) :
    signed16 (packet.slice offset count) index = signed16 (packet.slice other size) place := by
  have lower : (packet.slice offset count).getD index 0 =
      (packet.slice other size).getD place 0 := by
    rw [getD_slice (by omega), getD_slice (by omega), same]
  have upper : (packet.slice offset count).getD (index + 1) 0 =
      (packet.slice other size).getD (place + 1) 0 := by
    rw [getD_slice (by omega), getD_slice (by omega), ← add_assoc, ← add_assoc, same]
  simp only [signed16, lower, upper]

theorem slice_eq_replicate_iff :
    packet.slice offset count = List.replicate count 0 ↔
      ∀ index < count, packet.byte (offset + index) = 0 := by
  rw [List.eq_replicate_iff]
  simp [slice]

theorem readU64_eq_zero_iff :
    packet.readU64 offset = 0 ↔ packet.slice offset 8 = List.replicate 8 0 := by
  rw [readU64, littleEndian_eq_zero_iff, List.eq_replicate_iff]
  simp

/-! ## Bytes -/

@[simp] theorem size_copy : (packet.copy offset bytes).size = packet.size := rfl

@[simp] theorem number_copy : (packet.copy offset bytes).number = packet.number := rfl

theorem byte_copy_of_disjoint (disjoint : index < offset ∨ offset + bytes.length ≤ index) :
    (packet.copy offset bytes).byte index = packet.byte index := by
  apply if_neg
  omega

theorem byte_copy (inside : index < bytes.length) :
    (packet.copy offset bytes).byte (offset + index) = bytes.getD index 0 := by
  have within : offset ≤ offset + index ∧ offset + index < offset + bytes.length := by omega
  rw [copy]
  dsimp only
  rw [if_pos within, Nat.add_sub_cancel_left]

theorem slice_copy_of_disjoint
    (disjoint : index + count ≤ offset ∨ offset + bytes.length ≤ index) :
    (packet.copy offset bytes).slice index count = packet.slice index count := by
  apply List.map_congr_left
  intro place member
  have bounded := List.mem_range.mp member
  apply byte_copy_of_disjoint
  omega

theorem slice_copy : (packet.copy offset bytes).slice offset bytes.length = bytes := by
  apply List.ext_getElem (by simp [slice])
  intro place _ inside
  simp only [slice, List.getElem_map, List.getElem_range, byte_copy inside,
    List.getD_eq_getElem?_getD, List.getElem?_eq_getElem inside, Option.getD_some]

/-! ## Words -/

@[simp] theorem size_put64 (value : UInt64) : (packet.put64 offset value).size = packet.size := rfl

@[simp] theorem number_put64 (value : UInt64) :
    (packet.put64 offset value).number = packet.number := rfl

theorem readU64_put64 (value : UInt64) :
    (packet.put64 offset value).readU64 offset = value.toNat := by
  have bounded : value.toNat < 256 ^ 8 := value.toNat_lt
  have written : (packet.put64 offset value).slice offset 8 = wordBytes value := by
    rw [← length_wordBytes value]
    exact slice_copy
  rw [readU64, written, wordBytes, littleEndian_bytesOf, Nat.mod_eq_of_lt bounded]

theorem slice_put64_of_disjoint {value : UInt64}
    (disjoint : index + count ≤ offset ∨ offset + 8 ≤ index) :
    (packet.put64 offset value).slice index count = packet.slice index count := by
  apply slice_copy_of_disjoint
  rwa [length_wordBytes]

theorem readU64_put64_of_disjoint {value : UInt64}
    (disjoint : index + 8 ≤ offset ∨ offset + 8 ≤ index) :
    (packet.put64 offset value).readU64 index = packet.readU64 index := by
  rw [readU64, readU64, slice_put64_of_disjoint disjoint]

/-! ## Doubles -/

variable {numbers : List K}

@[simp] theorem size_putDoubles : (packet.putDoubles offset numbers).size = packet.size := rfl

@[simp] theorem byte_putDoubles : (packet.putDoubles offset numbers).byte = packet.byte := rfl

@[simp] theorem slice_putDoubles :
    (packet.putDoubles offset numbers).slice index count = packet.slice index count := rfl

@[simp] theorem readU64_putDoubles :
    (packet.putDoubles offset numbers).readU64 index = packet.readU64 index := rfl

@[simp] theorem raw_putDoubles : (packet.putDoubles offset numbers).raw = packet.raw := rfl

theorem number_putDoubles (inside : index < numbers.length) :
    (packet.putDoubles offset numbers).number (offset + 8 * index) = numbers[index]? := by
  have within : offset ≤ offset + 8 * index ∧
      offset + 8 * index < offset + 8 * numbers.length := by
    omega
  rw [putDoubles]
  dsimp only
  rw [if_pos within, Nat.add_sub_cancel_left, Nat.mul_div_cancel_left _ (by decide)]

theorem number_putDoubles_of_disjoint
    (disjoint : index < offset ∨ offset + 8 * numbers.length ≤ index) :
    (packet.putDoubles offset numbers).number index = packet.number index := by
  apply if_neg
  omega

end ImuPacket

/-! ## The values of a packet -/

namespace ImuValues

variable (values : ImuValues K)

@[simp] theorem length_list : values.list.length = 13 := rfl

theorem list_acceleration : ∀ index : Fin 3,
    values.list[(index : ℕ)]? = some (values.acceleration index)
  | 0 => rfl
  | 1 => rfl
  | 2 => rfl

theorem list_gyro : ∀ index : Fin 3, values.list[3 + (index : ℕ)]? = some (values.gyro index)
  | 0 => rfl
  | 1 => rfl
  | 2 => rfl

theorem list_quaternion : ∀ index : Fin 4,
    values.list[6 + (index : ℕ)]? = some (values.quaternion index)
  | 0 => rfl
  | 1 => rfl
  | 2 => rfl
  | 3 => rfl

theorem list_gravity : ∀ index : Fin 3,
    values.list[10 + (index : ℕ)]? = some (values.gravity index)
  | 0 => rfl
  | 1 => rfl
  | 2 => rfl

end ImuValues

namespace ImuPacket

variable {packet : ImuPacket K} {values : ImuValues K}

theorem valuesFinite_putDoubles : (packet.putDoubles 80 values.list).ValuesFinite := by
  intro index
  have inside : (index : ℕ) < values.list.length := index.isLt
  rw [number_putDoubles inside, List.getElem?_eq_getElem inside]
  rfl

variable [Field K]

theorem double_putDoubles {offset index : ℕ} {numbers : List K} {number : K}
    (found : numbers[index]? = some number) :
    (packet.putDoubles offset numbers).double (offset + 8 * index) = number := by
  have inside := (List.getElem?_eq_some_iff.mp found).choose
  rw [double, number_putDoubles inside, found]
  rfl

/-- The values that are read are those that were written. -/
theorem values_putDoubles : (packet.putDoubles 80 values.list).values = values := by
  have read {offset index place : ℕ} {number : K} (found : values.list[place]? = some number)
      (same : offset + 8 * index = 80 + 8 * place) :
      (packet.putDoubles 80 values.list).double (offset + 8 * index) = number := by
    rw [same]
    exact double_putDoubles found
  apply ImuValues.ext <;> funext index
  · exact read (values.list_acceleration index) rfl
  · exact read (values.list_gyro index) (by ring)
  · exact read (values.list_quaternion index) (by ring)
  · exact read (values.list_gravity index) (by ring)

end ImuPacket

/-! ## The header and the registers -/

namespace ImuPacket

variable [Field K] {digit : UInt8} {sequence start stop : UInt64} {registers : List UInt8}

/-- A packet before its doubles. -/
def written (digit : UInt8) (sequence start stop : UInt64) (registers : List UInt8) :
    ImuPacket K :=
  (stamped digit sequence start stop).copy 32 registers

theorem slice_stamped {index count : ℕ} (after : 32 ≤ index) :
    (stamped digit sequence start stop : ImuPacket K).slice index count =
      List.replicate count 0 := by
  have zeros : (zero : ImuPacket K).slice index count = List.replicate count 0 :=
    slice_eq_replicate_iff.mpr fun _ _ => rfl
  rw [stamped, slice_put64_of_disjoint (by omega), slice_put64_of_disjoint (by omega),
    slice_put64_of_disjoint (by omega), slice_copy_of_disjoint (by simp [imuMagic]; omega), zeros]

theorem magic_written : (written digit sequence start stop registers : ImuPacket K).slice 0 8 =
    imuMagic digit := by
  rw [written, slice_copy_of_disjoint (by omega), stamped, slice_put64_of_disjoint (by omega),
    slice_put64_of_disjoint (by omega), slice_put64_of_disjoint (by omega)]
  exact slice_copy

/-- A word of the header. -/
theorem readU64_written {index : ℕ} (before : index + 8 ≤ 32) :
    (written digit sequence start stop registers : ImuPacket K).readU64 index =
      (stamped digit sequence start stop : ImuPacket K).readU64 index := by
  rw [readU64, written, slice_copy_of_disjoint (by omega), readU64]

theorem sequence_written :
    (written digit sequence start stop registers : ImuPacket K).readU64 8 = sequence.toNat := by
  rw [readU64_written (by omega), stamped, readU64_put64_of_disjoint (by omega),
    readU64_put64_of_disjoint (by omega), readU64_put64]

theorem start_written :
    (written digit sequence start stop registers : ImuPacket K).readU64 16 = start.toNat := by
  rw [readU64_written (by omega), stamped, readU64_put64_of_disjoint (by omega), readU64_put64]

theorem stop_written :
    (written digit sequence start stop registers : ImuPacket K).readU64 24 = stop.toNat := by
  rw [readU64_written (by omega), stamped, readU64_put64]

/-- Behind the registers the bytes are zero. -/
theorem slice_written {index count : ℕ} (after : 32 + registers.length ≤ index) :
    (written digit sequence start stop registers : ImuPacket K).slice index count =
      List.replicate count 0 := by
  rw [written, slice_copy_of_disjoint (by omega), slice_stamped (by omega)]

theorem byte_written {index : ℕ} (after : 32 + registers.length ≤ index) :
    (written digit sequence start stop registers : ImuPacket K).byte index = 0 := by
  have zeros : (written digit sequence start stop registers : ImuPacket K).slice index 1 =
      List.replicate 1 0 := slice_written after
  exact slice_eq_replicate_iff.mp zeros 0 (by omega)

theorem raw_written (length : registers.length = 46) :
    (written digit sequence start stop registers : ImuPacket K).raw = registers := by
  rw [raw, ← length]
  exact slice_copy

/-- A short of the registers. -/
theorem signed16_written {place : ℕ} (inside : place + 2 ≤ registers.length)
    (short : registers.length ≤ 46) :
    signed16 (written digit sequence start stop registers : ImuPacket K).raw place =
      signed16 registers place := by
  have copied {index : ℕ} (within : index < registers.length) :
      (written digit sequence start stop registers : ImuPacket K).raw.getD index 0 =
        registers.getD index 0 := by
    rw [raw, getD_slice (by omega), written, byte_copy within]
  rw [signed16, copied (by omega), copied (by omega), signed16]

theorem fresh_written {now previous : ℕ} (short : registers.length ≤ 152)
    (valid : ¬StampFailure sequence start stop) (ordered : previous ≤ sequence.toNat)
    (past : stop.toNat ≤ now) (fresh : now ≤ start.toNat + 30000000) :
    FreshPacket (written digit sequence start stop registers : ImuPacket K) (imuMagic digit) now
      previous := by
  obtain ⟨numbered, started, read, _⟩ : ¬sequence = 0 ∧ ¬start = 0 ∧ ¬stop < start ∧
      ¬30000000 < stop - start := by
    simpa [StampFailure] using valid
  constructor
  · rfl
  · exact magic_written
  · exact readU64_eq_zero_iff.mpr (slice_written (by omega))
  · rw [sequence_written]
    exact fun zero => numbered (UInt64.toNat.inj zero)
  · rwa [sequence_written]
  · rw [start_written]
    exact fun zero => started (UInt64.toNat.inj zero)
  · rw [start_written, stop_written]
    exact Nat.le_of_not_lt read
  · rwa [stop_written]
  · rw [start_written]
    omega

end ImuPacket

end SpriteRuntime
