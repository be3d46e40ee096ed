import SpriteRuntime.Foundation.Dictionary
import SpriteRuntime.Foundation.Fnv
import SpriteRuntime.Native.Kinematics

/-!
# The hash of an ordered list of names

Python, the client and the controller each fold the names into a word, with the terminator
written in three ways.  All of them compute FNV-1a over the same stream of bytes.
-/

namespace SpriteRuntime

open Foundation

/-- The bytes of a text: `name.encode("utf-8")`, and the characters of a `std::string`. -/
def utf8Bytes (name : String) : List UInt8 := name.toList.flatMap String.utf8EncodeChar

theorem utf8Bytes_injective {name other : String} (same : utf8Bytes name = utf8Bytes other) :
    name = other := by
  apply String.toByteArray_inj.mp
  rw [← String.utf8Encode_toList, ← String.utf8Encode_toList, List.utf8Encode, List.utf8Encode]
  exact congrArg List.toByteArray same

/-- A byte with a marker bit is not zero. -/
theorem zero_ne_ofNat {value : ℕ} (positive : 0 < value) (small : value < 256) :
    (0 : UInt8) ≠ UInt8.ofNat value := by
  intro zero
  have number := congrArg UInt8.toNat zero
  rw [UInt8.toNat_ofNat_of_lt' small] at number
  exact absurd number.symm positive.ne'

/-- Only the character zero has a zero byte. -/
theorem zero_mem_utf8EncodeChar {character : Char} :
    0 ∈ String.utf8EncodeChar character ↔ character = '\x00' := by
  constructor
  · intro member
    unfold String.utf8EncodeChar at member
    dsimp only at member
    split_ifs at member with one two three
    · have zero := congrArg UInt8.toNat (List.mem_singleton.mp member)
      rw [UInt8.toNat_ofNat_of_lt' (Nat.lt_of_le_of_lt one (by decide))] at zero
      exact Char.ext (UInt32.toNat_inj.mp zero.symm)
    -- the leading and the continuation bytes of longer encodings carry marker bits
    all_goals
      simp only [List.mem_cons, List.not_mem_nil, or_false] at member
    · rcases member with first | second
      · exact absurd first (zero_ne_ofNat (by omega) (by omega))
      · exact absurd second (zero_ne_ofNat (by omega) (by omega))
    · rcases member with first | second | third
      · exact absurd first (zero_ne_ofNat (by omega) (by omega))
      · exact absurd second (zero_ne_ofNat (by omega) (by omega))
      · exact absurd third (zero_ne_ofNat (by omega) (by omega))
    · rcases member with first | second | third | fourth
      · exact absurd first (zero_ne_ofNat (by omega) (by omega))
      · exact absurd second (zero_ne_ofNat (by omega) (by omega))
      · exact absurd third (zero_ne_ofNat (by omega) (by omega))
      · exact absurd fourth (zero_ne_ofNat (by omega) (by omega))
  · rintro rfl
    decide

theorem zero_mem_utf8Bytes {name : String} : 0 ∈ utf8Bytes name ↔ '\x00' ∈ name.toList := by
  simp only [utf8Bytes, List.mem_flatMap, zero_mem_utf8EncodeChar, exists_eq_right]

/-! ## The four loops -/

/-- One name of `ordered_name_hash` of the Python side, on unbounded integers with a mask. -/
def orderedNameHashStep (result : ℕ) (name : String) : Except String ℕ := do
  raiseIf (name = "" ∨ '\x00' ∈ name.toList) "IPC names must be non-empty and contain no NUL"
  return (utf8Bytes name ++ [0]).foldl (fun (result : ℕ) (byte : UInt8) =>
    ((result ^^^ byte.toNat) * 0x100000001B3) &&& 0xFFFFFFFFFFFFFFFF) result

def orderedNameHash (names : List String) : Except String ℕ := do
  raiseIf (names.length ≠ kJointCount ∨ names.dedup.length ≠ kJointCount)
    "ordered IPC name list must contain 31 unique names"
  names.foldlM orderedNameHashStep 0xCBF29CE484222325

/-- One name of `name_hash`: the terminator is a bare multiplication. -/
def nameHashStep (progress : List String × UInt64) (name : String) :
    Except String (List String × UInt64) := do
  raiseIf (name = "" ∨ 0 ∈ utf8Bytes name ∨ name ∈ progress.1) "invalid IPC name order"
  let hash := (utf8Bytes name).foldl
    (fun hash character => (hash ^^^ character.toUInt64) * 0x100000001B3) progress.2
  return (name :: progress.1, hash * 0x100000001B3)

/-- `name_hash` of the client. -/
def nameHash (names : Index → String) : Except String UInt64 := do
  let progress ← (List.ofFn names).foldlM nameHashStep ([], 0xCBF29CE484222325)
  return progress.2

/-- The loop of the controller, over the names in any container. -/
def controllerHash (names : List String) : UInt64 :=
  names.foldl (fun result name =>
      ((utf8Bytes name).foldl (fun result byte => (result ^^^ byte.toUInt64) * 0x100000001B3)
        result ^^^ 0) * 0x100000001B3)
    0xCBF29CE484222325

/-- `ordered_name_hash` of the controller. -/
def controllerNameHash (motors : List MotorDescriptor) : UInt64 :=
  controllerHash (motors.map MotorDescriptor.name)

/-- `ordered_joint_name_hash` of the joint limits. -/
def orderedJointNameHash (limits : List JointSafety) : UInt64 :=
  controllerHash (limits.map JointSafety.name)

/-- `ordered_joint_name_hash` of the names in the kinematics. -/
def kinematicsNameHash (names : Index → String) : UInt64 := controllerHash (List.ofFn names)

/-! ## The stream -/

/-- The bytes of each name followed by a zero byte. -/
def nameStream (names : List String) : List UInt8 := terminated 0 (names.map utf8Bytes)

theorem nameStream_cons (name : String) (rest : List String) :
    nameStream (name :: rest) = (utf8Bytes name ++ [0]) ++ nameStream rest := by
  simp [nameStream]

/-- Different lists have different streams. -/
theorem nameStream_injective {names others : List String}
    (free : ∀ name ∈ names, '\x00' ∉ name.toList)
    (othersFree : ∀ name ∈ others, '\x00' ∉ name.toList)
    (same : nameStream names = nameStream others) : names = others := by
  have bytesFree {list : List String} (listFree : ∀ name ∈ list, '\x00' ∉ name.toList) :
      ∀ bytes ∈ list.map utf8Bytes, 0 ∉ bytes := by
    intro bytes member
    obtain ⟨name, inside, rfl⟩ := List.mem_map.mp member
    rw [zero_mem_utf8Bytes]
    exact listFree name inside
  have bytes := terminated_injective (bytesFree free) (bytesFree othersFree) same
  exact List.map_injective_iff.mpr (fun _ _ => utf8Bytes_injective) bytes

/-! ## All loops hash the stream -/

theorem fnvFrom_name (hash : UInt64) (name : String) (rest : List String) :
    fnvFrom hash (nameStream (name :: rest)) =
      fnvFrom (fnvFrom hash (utf8Bytes name) * fnvPrime) (nameStream rest) := by
  rw [nameStream_cons, fnvFrom_append, fnvFrom_append, ← fnvStep_zero]
  rfl

theorem controllerHash_eq (names : List String) :
    controllerHash names = fnvFrom fnvOffset (nameStream names) := by
  have run (hash : UInt64) : names.foldl (fun result name =>
      ((utf8Bytes name).foldl (fun result byte => (result ^^^ byte.toUInt64) * 0x100000001B3)
        result ^^^ 0) * 0x100000001B3) hash = fnvFrom hash (nameStream names) := by
    induction names generalizing hash with
    | nil => rfl
    | cons name rest induction =>
        rw [List.foldl_cons, induction, fnvFrom_name, UInt64.xor_zero]
        rfl
  exact run fnvOffset

/-- The client accepts names that it has not seen, and hashes their stream. -/
theorem foldlM_nameHashStep {names seen : List String} (hash : UInt64) (distinct : names.Nodup)
    (fresh : ∀ name ∈ names, name ∉ seen)
    (valid : ∀ name ∈ names, name ≠ "" ∧ '\x00' ∉ name.toList) :
    ∃ final, names.foldlM nameHashStep (seen, hash) =
      .ok (final, fnvFrom hash (nameStream names)) := by
  induction names generalizing seen hash with
  | nil => exact ⟨seen, rfl⟩
  | cons name rest induction =>
      obtain ⟨notInRest, others⟩ := List.nodup_cons.mp distinct
      obtain ⟨nonempty, free⟩ := valid name List.mem_cons_self
      have passes : ¬(name = "" ∨ 0 ∈ utf8Bytes name ∨ name ∈ seen) := by
        rw [zero_mem_utf8Bytes]
        rintro (empty | zero | old)
        · exact nonempty empty
        · exact free zero
        · exact fresh name List.mem_cons_self old
      have step : nameHashStep (seen, hash) name =
          .ok (name :: seen, fnvFrom hash (utf8Bytes name) * fnvPrime) := by
        rw [nameHashStep, raiseIf, if_neg passes]
        rfl
      have unseen : ∀ other ∈ rest, other ∉ name :: seen := by
        intro other member old
        rcases List.mem_cons.mp old with rfl | old
        · exact notInRest member
        · exact fresh other (List.mem_cons_of_mem _ member) old
      obtain ⟨final, ran⟩ := induction (fnvFrom hash (utf8Bytes name) * fnvPrime) others unseen
        fun other member => valid other (List.mem_cons_of_mem _ member)
      refine ⟨final, ?_⟩
      rw [List.foldlM_cons, step, fnvFrom_name]
      exact ran

/-- The mask is the remainder, so a name moves the integer as it moves the word. -/
theorem orderedNameHashStep_eq (hash : UInt64) {name : String} (nonempty : name ≠ "")
    (free : '\x00' ∉ name.toList) :
    orderedNameHashStep hash.toNat name =
      .ok (fnvFrom hash (utf8Bytes name) * fnvPrime).toNat := by
  have passes : ¬(name = "" ∨ '\x00' ∈ name.toList) := by
    rintro (empty | zero)
    · exact nonempty empty
    · exact free zero
  have mask (result : ℕ) : result &&& 0xFFFFFFFFFFFFFFFF = result % 2 ^ 64 :=
    Nat.and_two_pow_sub_one_eq_mod result 64
  have bytes := toNat_fnvFrom hash (utf8Bytes name ++ [0])
  rw [fnvFrom_append] at bytes
  rw [orderedNameHashStep, raiseIf, if_neg passes, ← fnvStep_zero]
  simp only [mask, ← bytes]
  rfl

theorem orderedNameHash_eq {names : List String} (size : names.length = kJointCount)
    (distinct : names.Nodup) (valid : ∀ name ∈ names, name ≠ "" ∧ '\x00' ∉ name.toList) :
    orderedNameHash names = .ok (fnvFrom fnvOffset (nameStream names)).toNat := by
  have run (hash : UInt64) : names.foldlM orderedNameHashStep hash.toNat =
      .ok (fnvFrom hash (nameStream names)).toNat := by
    clear size distinct
    induction names generalizing hash with
    | nil => rfl
    | cons name rest induction =>
        obtain ⟨nonempty, free⟩ := valid name List.mem_cons_self
        rw [List.foldlM_cons, orderedNameHashStep_eq hash nonempty free, fnvFrom_name]
        exact induction (fun other member => valid other (List.mem_cons_of_mem _ member)) _
  have passes : ¬(names.length ≠ kJointCount ∨ names.dedup.length ≠ kJointCount) := by
    rw [distinct.dedup, size]
    simp
  rw [orderedNameHash, raiseIf, if_neg passes]
  exact run fnvOffset

/-- **The hashes agree.**  Python, the client and the controller give 31 valid names the same
word, FNV-1a over their stream, and different names have different streams. -/
theorem orderedNameHash_agree (names : Index → String) (distinct : Function.Injective names)
    (valid : ∀ joint, names joint ≠ "" ∧ '\x00' ∉ (names joint).toList) :
    ∃ hash : UInt64,
      orderedNameHash (List.ofFn names) = .ok hash.toNat ∧
      nameHash names = .ok hash ∧
      (∀ motors : List MotorDescriptor, motors.map MotorDescriptor.name = List.ofFn names →
        controllerNameHash motors = hash) ∧
      (∀ limits : List JointSafety, limits.map JointSafety.name = List.ofFn names →
        orderedJointNameHash limits = hash) ∧
      kinematicsNameHash names = hash ∧
      hash.toNat = fnv1a (nameStream (List.ofFn names)) ∧
      ∀ others : Index → String, (∀ joint, '\x00' ∉ (others joint).toList) →
        others ≠ names → nameStream (List.ofFn others) ≠ nameStream (List.ofFn names) := by
  have each : ∀ name ∈ List.ofFn names, name ≠ "" ∧ '\x00' ∉ name.toList := by
    intro name member
    obtain ⟨joint, rfl⟩ := List.mem_ofFn.mp member
    exact valid joint
  have nodup : (List.ofFn names).Nodup := List.nodup_ofFn.mpr distinct
  have size : (List.ofFn names).length = kJointCount := List.length_ofFn
  refine ⟨fnvFrom fnvOffset (nameStream (List.ofFn names)), orderedNameHash_eq size nodup each,
    ?_, ?_, ?_, controllerHash_eq _, toNat_fnvFrom_offset _, ?_⟩
  · obtain ⟨final, ran⟩ := @foldlM_nameHashStep _ [] fnvOffset nodup (by simp) each
    rw [nameHash]
    exact except_bind_eq_ok.mpr ⟨_, ran, rfl⟩
  · intro motors same
    rw [controllerNameHash, same, controllerHash_eq]
  · intro limits same
    rw [orderedJointNameHash, same, controllerHash_eq]
  · intro others othersFree different same
    apply different
    apply List.ofFn_injective
    apply nameStream_injective _ (fun name member => (each name member).2) same
    intro name member
    obtain ⟨joint, rfl⟩ := List.mem_ofFn.mp member
    exact othersFree joint

/-- Names of one to 31 letters. -/
theorem orderedNameHash_agree_letters :
    ∃ hash : UInt64,
      orderedNameHash
          (List.ofFn fun joint : Index => String.ofList (List.replicate (joint + 1) 'j')) =
        .ok hash.toNat ∧
      nameHash (fun joint => String.ofList (List.replicate (joint + 1) 'j')) = .ok hash := by
  have distinct : Function.Injective fun joint : Index =>
      String.ofList (List.replicate (joint + 1) 'j') := by
    intro first second same
    have sizes := congrArg (fun name => name.toList.length) same
    simp only [String.toList_ofList, List.length_replicate] at sizes
    exact Fin.ext (Nat.add_right_cancel sizes)
  have valid (joint : Index) : String.ofList (List.replicate (joint + 1) 'j') ≠ "" ∧
      '\x00' ∉ (String.ofList (List.replicate (joint + 1) 'j')).toList := by
    constructor
    · intro empty
      have sizes := congrArg (fun name => name.toList.length) empty
      simp at sizes
    · rw [String.toList_ofList]
      intro zero
      exact absurd (List.eq_of_mem_replicate zero) (by decide)
  obtain ⟨hash, python, client, _⟩ := orderedNameHash_agree _ distinct valid
  exact ⟨hash, python, client⟩

end SpriteRuntime
