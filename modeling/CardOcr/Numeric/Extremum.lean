/-! # Larger of two numbers, ignoring NaN

`Float.maxNum` and `Float32.maxNum` are the IEEE 754 `maxNum` operation: the larger of two
numbers, where a NaN operand is ignored in favour of the other one.  Lean's `max` instead
returns its first operand when the comparison fails, so it differs on NaN.
-/

namespace Float

/-- The larger of two numbers, ignoring a NaN operand. -/
def maxNum (a b : Float) : Float :=
  if a.isNaN then b else if b.isNaN then a else if a < b then b else a

end Float

namespace Float32

/-- The larger of two numbers, ignoring a NaN operand. -/
def maxNum (a b : Float32) : Float32 :=
  if a.isNaN then b else if b.isNaN then a else if a < b then b else a

end Float32
