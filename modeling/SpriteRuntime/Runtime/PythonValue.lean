import Mathlib.Algebra.Order.Field.Rat
import Mathlib.Tactic.Positivity
import SpriteRuntime.Foundation.Audit

/-!
# Python values

What `json.loads` gives, and what the built-in functions and NumPy make of it.  A truth value is
an integer, and a number is equal to another one of a different type.  Arithmetic is exact; a
double has the range of a double.
-/

namespace SpriteRuntime

open Foundation

/-- The exceptions that the inventory code raises or meets. -/
inductive PyException where
  | keyError
  | typeError
  | indexError
  | attributeError
  | overflowError
  | valueError (text : String)
  deriving DecidableEq

/-- `except (KeyError, TypeError, ValueError)`. -/
def PyException.isMalformed : PyException → Bool
  | keyError => true
  | typeError => true
  | valueError _ => true
  | _ => false

/-- `except (TypeError, ValueError)`. -/
def PyException.isTypeOrValue : PyException → Bool
  | typeError => true
  | valueError _ => true
  | _ => false

inductive PyFloat where
  | finite (value : ℚ)
  | infinite (negative : Bool)
  | nan
  deriving DecidableEq

/-- The first number that is too large for a double after rounding. -/
def doubleLimit : ℚ := 2 ^ 1024 - 2 ^ 970

/-- The largest number that is rounded to zero. -/
def doubleVanishing : ℚ := 1 / 2 ^ 1075

/-- The finite numbers that are positive and stay so as doubles. -/
def InDoubleRange (value : ℚ) : Prop := doubleVanishing < value ∧ value < doubleLimit

instance (value : ℚ) : Decidable (InDoubleRange value) :=
  inferInstanceAs (Decidable (_ ∧ _))

theorem InDoubleRange.positive {value : ℚ} (inRange : InDoubleRange value) : 0 < value := by
  have vanishing : 0 < doubleVanishing := by
    unfold doubleVanishing
    positivity
  exact vanishing.trans inRange.1

namespace PyFloat

/-- `isfinite`. -/
def finite? : PyFloat → Option ℚ
  | finite value => some value
  | _ => none

/-- `left * right`. -/
def times : PyFloat → PyFloat → PyFloat
  | finite left, finite right =>
      let product := left * right
      if doubleLimit ≤ |product| then infinite (product < 0)
      else if |product| ≤ doubleVanishing then finite 0
      else finite product
  | finite number, infinite negative =>
      if number = 0 then nan else infinite (negative != (number < 0))
  | infinite negative, finite number =>
      if number = 0 then nan else infinite (negative != (number < 0))
  | infinite left, infinite right => infinite (left != right)
  | _, _ => nan

/-- The product of positive numbers is finite and positive within the range of a double. -/
theorem times_positive {left right : ℚ} (leftPositive : 0 < left) (rightPositive : 0 < right) :
    (∃ product, times (finite left) (finite right) = finite product ∧ 0 < product) ↔
      InDoubleRange (left * right) := by
  have positive := mul_pos leftPositive rightPositive
  simp only [times, abs_of_pos positive, InDoubleRange]
  by_cases large : doubleLimit ≤ left * right
  · simp [large]
  · by_cases small : left * right ≤ doubleVanishing
    · simp [large, small]
    · simp [large, small, positive, not_le.mp small, not_le.mp large]

end PyFloat

inductive Value where
  | none
  | bool (value : Bool)
  | int (value : ℤ)
  | float (value : PyFloat)
  | str (text : String)
  | list (items : List Value)
  | dict (entries : List (String × Value))

/-- The functions on strings that depend on the tables of Unicode, `str` of the values that are
not strings, and the text of a sorted list of addresses. -/
structure PythonStrings where
  parseFloat : String → Option PyFloat
  parseInt : String → Option ℤ
  strip : String → String
  upper : String → String
  str : Value → String
  reprSorted : List (String × ℤ) → String

def containsChars (needle : List Char) : List Char → Bool
  | [] => needle.isEmpty
  | first :: rest => needle.isPrefixOf (first :: rest) || containsChars needle rest

/-- `needle in text`. -/
def containsText (needle text : String) : Bool := containsChars needle.toList text.toList

/-! ## Dictionaries -/

theorem mem_of_lookup {α : Type} {entries : List (String × α)} {name : String} {value : α}
    (found : entries.lookup name = some value) : (name, value) ∈ entries := by
  obtain ⟨before, after, rfl, _⟩ := List.lookup_eq_some_iff.mp found
  simp

/-- `record.get(name)`. -/
def field (record : List (String × Value)) (name : String) : Value :=
  (record.lookup name).getD .none

/-- `record[name]`. -/
def item (record : List (String × Value)) (name : String) : Except PyException Value :=
  match record.lookup name with
  | some value => .ok value
  | none => .error .keyError

namespace Value

variable (strings : PythonStrings)

def isNone : Value → Bool
  | none => true
  | _ => false

/-- `value is True`. -/
def isTrue : Value → Bool
  | bool true => true
  | _ => false

/-- `value == text`. -/
def isText (text : String) : Value → Bool
  | str other => other = text
  | _ => false

/-- `isinstance(value, str)`. -/
def text? : Value → Option String
  | str text => some text
  | _ => Option.none

/-- `isinstance(value, dict)`. -/
def dict? : Value → Option (List (String × Value))
  | dict entries => some entries
  | _ => Option.none

/-- `isinstance(value, list)`. -/
def list? : Value → Option (List Value)
  | list items => some items
  | _ => Option.none

/-- `isinstance(value, int)`, and the number. -/
def int? : Value → Option ℤ
  | bool value => some (if value then 1 else 0)
  | int value => some value
  | _ => Option.none

/-- The text of an integer in a format string. -/
def intText : Value → String
  | bool true => "True"
  | bool false => "False"
  | int value => toString value
  | _ => ""

/-- `value == number`. -/
def isNumber (number : ℤ) : Value → Bool
  | bool value => (if value then 1 else 0) = number
  | int value => value = number
  | float (.finite value) => value = number
  | _ => false

/-- `value in (-1, 1)`. -/
def isSign (value : Value) : Bool := value.isNumber (-1) || value.isNumber 1

/-- A list or a dictionary cannot be looked up in a set. -/
def isHashable : Value → Bool
  | list _ => false
  | dict _ => false
  | _ => true

/-- `float(value)`. -/
def toFloat : Value → Except PyException PyFloat
  | bool value => .ok (.finite (if value then 1 else 0))
  | int value => if doubleLimit ≤ |(value : ℚ)| then .error .overflowError else .ok (.finite value)
  | float value => .ok value
  | str text =>
      match strings.parseFloat text with
      | some value => .ok value
      | Option.none => .error (.valueError "could not convert string to float")
  | _ => .error .typeError

/-- `int(value)`. -/
def toInt : Value → Except PyException ℤ
  | bool value => .ok (if value then 1 else 0)
  | int value => .ok value
  | float (.finite value) => .ok (value.num.tdiv value.den)
  | float (.infinite _) => .error .overflowError
  | float .nan => .error (.valueError "cannot convert float NaN to integer")
  | str text =>
      match strings.parseInt text with
      | some value => .ok value
      | Option.none => .error (.valueError "invalid literal for int()")
  | _ => .error .typeError

/-- `tuple(value)`. -/
def toTuple : Value → Except PyException (List Value)
  | list items => .ok items
  | str text => .ok (text.toList.map fun letter => str (String.singleton letter))
  | dict entries => .ok (entries.map fun entry => str entry.1)
  | _ => .error .typeError

/-- `str(value)`. -/
def toText : Value → String
  | str text => text
  | value => strings.str value

/-! ## Arrays -/

mutual

/-- The shape of nested lists, none when they are ragged. -/
def shape : Value → Option (List ℕ)
  | list items =>
      match shapes items with
      | [] => some [0]
      | first :: rest =>
          if rest.all (· = first) then first.map fun inner => (rest.length + 1) :: inner
          else Option.none
  | _ => some []

def shapes : List Value → List (Option (List ℕ))
  | [] => []
  | value :: rest => value.shape :: shapes rest

end

mutual

/-- The entries of nested lists. -/
def leaves : Value → List Value
  | list items => leavesOf items
  | none => [none]
  | bool value => [bool value]
  | int value => [int value]
  | float value => [float value]
  | str text => [str text]
  | dict entries => [dict entries]

def leavesOf : List Value → List Value
  | [] => []
  | value :: rest => value.leaves ++ leavesOf rest

end

/-- An entry of an array of doubles. -/
def element : Value → Except PyException PyFloat
  | none => .ok .nan
  | value => value.toFloat strings

end Value

structure NdArray where
  shape : List ℕ
  data : List PyFloat
  deriving DecidableEq

/-- `np.asarray(value, dtype=float)`. -/
def asArray (strings : PythonStrings) (value : Value) : Except PyException NdArray :=
  match value.shape with
  | none => .error (.valueError "setting an array element with a sequence")
  | some shape => do
      let data ← value.leaves.mapM (Value.element strings)
      return { shape, data }

namespace NdArray

/-- The numbers of an array when all of them are finite. -/
def finite? (array : NdArray) : Option (List ℚ) := array.data.mapM PyFloat.finite?

end NdArray

end SpriteRuntime
