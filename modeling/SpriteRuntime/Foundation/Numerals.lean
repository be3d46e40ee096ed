import Mathlib.Algebra.GroupWithZero.Nat
import Mathlib.Data.Nat.Init

/-!
# Numerals

A numeral of a field or of a finite type rests on a bound of its number.  The bounds of the
numerals that several modules use have names of their own here, and every definition refers to
these.
-/

namespace Foundation

instance (priority := 1100) nonzero_two : NeZero 2 := ⟨by decide⟩
instance (priority := 1100) nonzero_three : NeZero 3 := ⟨by decide⟩
instance (priority := 1100) nonzero_four : NeZero 4 := ⟨by decide⟩
instance (priority := 1100) nonzero_eight : NeZero 8 := ⟨by decide⟩

instance (priority := 1100) numeral_2 : Nat.AtLeastTwo 2 := ⟨by decide⟩
instance (priority := 1100) numeral_3 : Nat.AtLeastTwo 3 := ⟨by decide⟩
instance (priority := 1100) numeral_4 : Nat.AtLeastTwo 4 := ⟨by decide⟩
instance (priority := 1100) numeral_5 : Nat.AtLeastTwo 5 := ⟨by decide⟩
instance (priority := 1100) numeral_6 : Nat.AtLeastTwo 6 := ⟨by decide⟩
instance (priority := 1100) numeral_8 : Nat.AtLeastTwo 8 := ⟨by decide⟩
instance (priority := 1100) numeral_10 : Nat.AtLeastTwo 10 := ⟨by decide⟩
instance (priority := 1100) numeral_12 : Nat.AtLeastTwo 12 := ⟨by decide⟩
instance (priority := 1100) numeral_15 : Nat.AtLeastTwo 15 := ⟨by decide⟩
instance (priority := 1100) numeral_20 : Nat.AtLeastTwo 20 := ⟨by decide⟩
instance (priority := 1100) numeral_25 : Nat.AtLeastTwo 25 := ⟨by decide⟩
instance (priority := 1100) numeral_30 : Nat.AtLeastTwo 30 := ⟨by decide⟩
instance (priority := 1100) numeral_50 : Nat.AtLeastTwo 50 := ⟨by decide⟩
instance (priority := 1100) numeral_60 : Nat.AtLeastTwo 60 := ⟨by decide⟩
instance (priority := 1100) numeral_100 : Nat.AtLeastTwo 100 := ⟨by decide⟩
instance (priority := 1100) numeral_180 : Nat.AtLeastTwo 180 := ⟨by decide⟩
instance (priority := 1100) numeral_900 : Nat.AtLeastTwo 900 := ⟨by decide⟩
instance (priority := 1100) numeral_1000 : Nat.AtLeastTwo 1000 := ⟨by decide⟩
instance (priority := 1100) numeral_16384 : Nat.AtLeastTwo 16384 := ⟨by decide⟩
instance (priority := 1100) numeral_100000 : Nat.AtLeastTwo 100000 := ⟨by decide⟩
instance (priority := 1100) numeral_980665 : Nat.AtLeastTwo 980665 := ⟨by decide⟩
instance (priority := 1100) numeral_100000000 : Nat.AtLeastTwo 100000000 := ⟨by decide⟩
instance (priority := 1100) numeral_1000000000 : Nat.AtLeastTwo 1000000000 := ⟨by decide⟩

end Foundation
