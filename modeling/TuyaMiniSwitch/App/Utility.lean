import Mathlib.Tactic.Common

/-!
# Application - Utilities

The helpers of {lit}`app_utility.c` and of the SDK's clock that several parts of
the firmware use.
-/

namespace Utility

/-- {lit}`checksum`: the sum of all bytes but the last one. -/
def checksum (data : List UInt8) : UInt8 :=
  (data.take (data.length - 1)).foldl (· + ·) 0

/-- {lit}`clock_time_exceed` at a given clock time: more than {lit}`us`
microseconds, of 16 ticks each, have passed since {lit}`ref`. -/
def clockTimeExceed (clock ref us : UInt32) : Bool :=
  decide (clock - ref > us * 16)

end Utility
