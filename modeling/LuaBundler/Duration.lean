import LuaBundler.Text.Digits

/-!
# Durations

Lengths of time, counted in microseconds and written in whole milliseconds, rounded down.
-/

namespace LuaBundler

/-- A length of time. -/
structure Duration where
  micros : Nat
  deriving Repr, DecidableEq

namespace Duration

/-- The duration of a number of milliseconds. -/
def ofMillis (n : Nat) : Duration := ⟨n * 1000⟩

/-- The whole milliseconds of a duration. -/
def millis (d : Duration) : Nat := d.micros / 1000

/-- A duration as it is written in messages. -/
def text (d : Duration) : String :=
  Text.decimal d.millis ++ "ms"

@[simp] theorem millis_ofMillis (n : Nat) : (ofMillis n).millis = n := by
  simp [millis, ofMillis]

end Duration

end LuaBundler
