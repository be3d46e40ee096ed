import Mathlib.Data.List.OfFn
import Mathlib.Tactic.Ring
import SpriteRuntime.Foundation.Wire

/-!
# Writing numbers into a byte message

The bytes of a little-endian field and the messages that consist of a header and 64-bit words.
A message of words is determined by the words that are read at its offsets, and the reading at
each offset gives the word that was written there.
-/

namespace Foundation

/-- The `width` bytes of a number, least significant first. -/
def bytesOf : ℕ → ℕ → List UInt8
  | 0, _ => []
  | width + 1, value => UInt8.ofNat value :: bytesOf width (value / 256)

@[simp] theorem length_bytesOf (width value : ℕ) : (bytesOf width value).length = width := by
  induction width generalizing value with
  | zero => rfl
  | succ width induction => simp [bytesOf, induction]

theorem littleEndian_bytesOf (width value : ℕ) :
    littleEndian (bytesOf width value) = value % 256 ^ width := by
  induction width generalizing value with
  | zero => simp [bytesOf, littleEndian, Nat.mod_one]
  | succ width induction =>
      have split : value % 256 ^ (width + 1) = value % 256 + 256 * (value / 256 % 256 ^ width) := by
        rw [pow_succ', Nat.mod_mul]
      rw [bytesOf, littleEndian, induction, UInt8.toNat_ofNat', split]

theorem littleEndian_lt (bytes : List UInt8) : littleEndian bytes < 256 ^ bytes.length := by
  induction bytes with
  | nil => decide
  | cons byte bytes induction =>
      have bounded : byte.toNat < 256 := byte.toNat_lt
      rw [littleEndian, List.length_cons, pow_succ']
      omega

theorem bytesOf_littleEndian (bytes : List UInt8) :
    bytesOf bytes.length (littleEndian bytes) = bytes := by
  induction bytes with
  | nil => rfl
  | cons byte bytes induction =>
      have bounded : byte.toNat < 256 := byte.toNat_lt
      have first : UInt8.ofNat (byte.toNat + 256 * littleEndian bytes) = byte := by
        apply UInt8.toNat.inj
        rw [UInt8.toNat_ofNat']
        omega
      have rest : (byte.toNat + 256 * littleEndian bytes) / 256 = littleEndian bytes := by
        omega
      rw [List.length_cons, littleEndian, bytesOf, first, rest, induction]

theorem littleEndian_eq_zero_iff (bytes : List UInt8) :
    littleEndian bytes = 0 ↔ ∀ byte ∈ bytes, byte = 0 := by
  induction bytes with
  | nil => simp [littleEndian]
  | cons byte bytes induction =>
      have first : byte.toNat = 0 ↔ byte = 0 :=
        ⟨fun zero => UInt8.toNat.inj zero, fun zero => zero ▸ rfl⟩
      simp [littleEndian, induction, first]

/-! ## Fields of a message -/

section Fields

variable {message front back : List UInt8} {offset width value : ℕ}

theorem unsignedField_lt (message : List UInt8) (offset width : ℕ) :
    unsignedField message offset width < 256 ^ width := by
  apply (littleEndian_lt _).trans_le
  exact Nat.pow_le_pow_right (by decide) (List.length_take_le _ _)

/-- Behind the front the offsets are those of the rest. -/
theorem unsignedField_append_right (front back : List UInt8) (offset width : ℕ) :
    unsignedField (front ++ back) (front.length + offset) width =
      unsignedField back offset width := by
  rw [unsignedField, unsignedField, List.drop_append, List.drop_of_length_le (by omega),
    List.nil_append, Nat.add_sub_cancel_left]

theorem unsignedField_bytesOf (back : List UInt8) (bounded : value < 256 ^ width) :
    unsignedField (bytesOf width value ++ back) 0 width = value := by
  rw [unsignedField, List.drop_zero, List.take_left' (length_bytesOf width value),
    littleEndian_bytesOf, Nat.mod_eq_of_lt bounded]

theorem bytesOf_unsignedField (inside : offset + width ≤ message.length) :
    bytesOf width (unsignedField message offset width) = (message.drop offset).take width := by
  have length : ((message.drop offset).take width).length = width := by
    rw [List.length_take, List.length_drop]
    omega
  have bytes := bytesOf_littleEndian ((message.drop offset).take width)
  rwa [length] at bytes

end Fields

/-! ## Words -/

def wordBytes (word : UInt64) : List UInt8 := bytesOf 8 word.toNat

@[simp] theorem length_wordBytes (word : UInt64) : (wordBytes word).length = 8 :=
  length_bytesOf 8 _

@[simp] theorem ofNat_littleEndian_wordBytes (word : UInt64) :
    UInt64.ofNat (littleEndian (wordBytes word)) = word := by
  have bounded : word.toNat < 256 ^ 8 := word.toNat_lt
  rw [wordBytes, littleEndian_bytesOf, Nat.mod_eq_of_lt bounded, UInt64.ofNat_toNat]

theorem wordBytes_ofNat_littleEndian {bytes : List UInt8} (length : bytes.length = 8) :
    wordBytes (UInt64.ofNat (littleEndian bytes)) = bytes := by
  have bounded : littleEndian bytes < 2 ^ 64 := by
    have small := littleEndian_lt bytes
    rwa [length] at small
  rw [wordBytes, UInt64.toNat_ofNat', Nat.mod_eq_of_lt bounded, ← length, bytesOf_littleEndian]

/-- The word at an offset. -/
def wordField (message : List UInt8) (offset : ℕ) : UInt64 :=
  UInt64.ofNat (unsignedField message offset 8)

theorem toNat_wordField (message : List UInt8) (offset : ℕ) :
    (wordField message offset).toNat = unsignedField message offset 8 := by
  rw [wordField, UInt64.toNat_ofNat']
  exact Nat.mod_eq_of_lt (unsignedField_lt message offset 8)

theorem wordBytes_wordField {message : List UInt8} {offset : ℕ}
    (inside : offset + 8 ≤ message.length) :
    wordBytes (wordField message offset) = (message.drop offset).take 8 := by
  rw [wordBytes, toNat_wordField, bytesOf_unsignedField inside]

/-- The words one after the other. -/
def wordsBytes (words : List UInt64) : List UInt8 := words.flatMap wordBytes

@[simp] theorem wordsBytes_nil : wordsBytes [] = [] := rfl

@[simp] theorem wordsBytes_cons (word : UInt64) (words : List UInt64) :
    wordsBytes (word :: words) = wordBytes word ++ wordsBytes words :=
  List.flatMap_cons

@[simp] theorem wordsBytes_append (left right : List UInt64) :
    wordsBytes (left ++ right) = wordsBytes left ++ wordsBytes right :=
  List.flatMap_append

@[simp] theorem length_wordsBytes (words : List UInt64) :
    (wordsBytes words).length = 8 * words.length := by
  induction words with
  | nil => rfl
  | cons word words induction =>
      rw [wordsBytes_cons, List.length_append, length_wordBytes, induction, List.length_cons]
      ring

theorem wordField_wordsBytes {words : List UInt64} {index : ℕ} {word : UInt64}
    (found : words[index]? = some word) : wordField (wordsBytes words) (8 * index) = word := by
  induction words generalizing index with
  | nil => simp at found
  | cons first words induction =>
      rw [wordsBytes_cons]
      cases index with
      | zero =>
          obtain rfl : first = word := by simpa using found
          have bounded : first.toNat < 256 ^ 8 := first.toNat_lt
          rw [wordField, mul_zero, wordBytes, unsignedField_bytesOf _ bounded,
            UInt64.ofNat_toNat]
      | succ index =>
          have shifted := unsignedField_append_right (wordBytes first) (wordsBytes words)
            (8 * index) 8
          rw [length_wordBytes] at shifted
          rw [wordField, show 8 * (index + 1) = 8 + 8 * index by ring, shifted]
          exact induction found

/-- Reading the words of a message whose header has the given length. -/
theorem wordField_append {front : List UInt8} {words : List UInt64} {start index : ℕ}
    {word : UInt64} (length : front.length = start) (found : words[index]? = some word) :
    wordField (front ++ wordsBytes words) (start + 8 * index) = word := by
  rw [wordField, ← length, unsignedField_append_right]
  exact wordField_wordsBytes found

/-- The words from an offset on. -/
def wordsFrom (message : List UInt8) (start count : ℕ) : List UInt64 :=
  List.ofFn fun index : Fin count => wordField message (start + 8 * index)

@[simp] theorem length_wordsFrom (message : List UInt8) (start count : ℕ) :
    (wordsFrom message start count).length = count := by
  simp [wordsFrom]

theorem wordsFrom_succ (message : List UInt8) (start count : ℕ) :
    wordsFrom message start (count + 1) =
      wordField message start :: wordsFrom message (start + 8) count := by
  rw [wordsFrom, List.ofFn_succ]
  congr 1
  rw [wordsFrom]
  congr 1
  funext index
  congr 1
  rw [Fin.val_succ]
  ring

theorem wordsFrom_add (message : List UInt8) (start left right : ℕ) :
    wordsFrom message start (left + right) =
      wordsFrom message start left ++ wordsFrom message (start + 8 * left) right := by
  induction left generalizing start with
  | zero =>
      rw [zero_add, mul_zero, add_zero]
      rfl
  | succ left induction =>
      have next : start + 8 + 8 * left = start + 8 * (left + 1) := by ring
      rw [Nat.add_right_comm, wordsFrom_succ, induction, wordsFrom_succ, List.cons_append, next]

theorem wordsFrom_drop (message : List UInt8) (start count : ℕ) :
    wordsFrom (message.drop start) 0 count = wordsFrom message start count := by
  simp only [wordsFrom, wordField, unsignedField, List.drop_drop, zero_add]

theorem forall_mem_wordsFrom {message : List UInt8} {start count : ℕ} {holds : UInt64 → Prop} :
    (∀ word ∈ wordsFrom message start count, holds word) ↔
      ∀ index < count, holds (wordField message (start + 8 * index)) := by
  simp only [wordsFrom, List.mem_ofFn, forall_exists_index, forall_apply_eq_imp_iff]
  exact ⟨fun all index inside => all ⟨index, inside⟩, fun all index => all index index.isLt⟩

/-- A message is its header and the words that are read from it. -/
theorem wordsBytes_wordsFrom {message : List UInt8} {start count : ℕ}
    (length : message.length = start + 8 * count) :
    wordsBytes (wordsFrom message start count) = message.drop start := by
  induction count generalizing start with
  | zero =>
      rw [List.drop_of_length_le (by omega)]
      rfl
  | succ count induction =>
      rw [wordsFrom_succ, wordsBytes_cons, induction (by omega),
        wordBytes_wordField (by omega), ← List.drop_drop]
      exact List.take_append_drop 8 _

/-- The words that are read from a message of words. -/
theorem wordsFrom_append {front : List UInt8} {words : List UInt64} {start count : ℕ}
    (length : front.length = start) (counted : words.length = count) :
    wordsFrom (front ++ wordsBytes words) start count = words := by
  subst counted
  apply List.ext_getElem (by simp)
  intro index _ inside
  simp only [wordsFrom, List.getElem_ofFn]
  exact wordField_append length (List.getElem?_eq_getElem inside)

/-! ## Writing into a buffer -/

theorem littleEndian_concat (bytes : List UInt8) (byte : UInt8) :
    littleEndian (bytes ++ [byte]) = littleEndian bytes + 256 ^ bytes.length * byte.toNat := by
  induction bytes with
  | nil => simp [littleEndian]
  | cons first bytes induction =>
      rw [List.cons_append, littleEndian, induction, littleEndian, List.length_cons, pow_succ']
      ring

/-- The bytes written over those at an offset. -/
def writeAt (buffer : List UInt8) (offset : ℕ) (bytes : List UInt8) : List UInt8 :=
  buffer.take offset ++ bytes ++ buffer.drop (offset + bytes.length)

/-- Writing where the written part ends. -/
theorem writeAt_append {done rest : List UInt8} {offset : ℕ} (length : done.length = offset)
    (bytes : List UInt8) :
    writeAt (done ++ rest) offset bytes = (done ++ bytes) ++ rest.drop bytes.length := by
  rw [writeAt, List.take_left' length, ← length, List.drop_append,
    List.drop_of_length_le (by omega), List.nil_append, Nat.add_sub_cancel_left]

end Foundation
