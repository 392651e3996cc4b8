/-
**The ranges of fixed-width integers.**

Numbers are unbounded here; a bound is stated where a format or a setting has one.
-/

namespace TryConfirmCancel

/-- The largest unsigned number of 32 bits. -/
def maxWord32 : Nat := 4294967295

/-- The largest unsigned number of 64 bits. -/
def maxWord64 : Nat := 18446744073709551615

/-- The largest unsigned number of 128 bits. -/
def maxWord128 : Nat := 340282366920938463463374607431768211455

/-- The largest signed number of 32 bits. -/
def maxSigned32 : Nat := 2147483647

/-- The smallest signed number of 64 bits. -/
def minSigned64 : Int := -9223372036854775808

/-- The largest signed number of 64 bits. -/
def maxSigned64 : Int := 9223372036854775807

/-- The smallest signed number of 128 bits. -/
def minSigned128 : Int := -170141183460469231731687303715884105728

end TryConfirmCancel
