/-! # The monotonic clock -/

namespace YrSandbox.Python

/-! Times and durations are whole nanoseconds, in which every constant of the
program can be written. -/

abbrev seconds (count : Int) : Int := count * 1000000000

/-- What `time.monotonic()` returns at the successive points at which a call may
look at it. -/
structure Clock where
  reading : Nat → Int
  monotone : ∀ {earlier later : Nat}, earlier ≤ later →
    reading earlier ≤ reading later

namespace Clock

def frozen (now : Int) : Clock where
  reading _ := now
  monotone _ := Int.le_refl now

end Clock

end YrSandbox.Python
