/-!
# Durations

Spans of time with a sign, exact to the nanosecond.
-/

namespace SignIn

/-- A span of time. -/
structure Duration where
  /-- The length in nanoseconds. -/
  nanoseconds : Int
deriving DecidableEq

namespace Duration

/-- The nanoseconds of a second. -/
def perSecond : Int := 1000000000

/-- A whole number of seconds. -/
def ofSeconds (seconds : Int) : Duration := ⟨seconds * perSecond⟩

/-- Whole seconds and further nanoseconds. -/
def ofParts (seconds nanoseconds : Int) : Duration := ⟨seconds * perSecond + nanoseconds⟩

/-- The whole seconds, rounded toward zero. -/
def seconds (duration : Duration) : Int := duration.nanoseconds.tdiv perSecond

/-- The nanoseconds beyond the whole seconds, with the sign of the duration. -/
def subseconds (duration : Duration) : Int := duration.nanoseconds.tmod perSecond

/-- The two parts make up the whole. -/
theorem ofParts_seconds_subseconds (duration : Duration) :
    ofParts duration.seconds duration.subseconds = duration := by
  simp only [ofParts, seconds, subseconds, Int.mul_comm, Int.mul_tdiv_add_tmod]

end Duration

end SignIn
