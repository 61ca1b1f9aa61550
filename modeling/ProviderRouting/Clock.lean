import ProviderRouting.Millis

/-!
# The hand-driven clock

Simulations read the time from a clock that moves only when it is told to.  Moving it past the
last instant leads to the first one.
-/

namespace ProviderRouting

structure Clock where
  now : Millis
deriving DecidableEq, Inhabited

namespace Clock

/-- Jump to a time. -/
def set (_clock : Clock) (time : Millis) : Clock :=
  ⟨time⟩

/-- Move by some milliseconds. -/
def advance (clock : Clock) (amount : Int) : Clock :=
  ⟨.wrap (clock.now.value + amount)⟩

/-- Move by whole seconds. -/
def advanceSeconds (clock : Clock) (seconds : Int) : Clock :=
  clock.advance (seconds * 1000)

end Clock

end ProviderRouting
