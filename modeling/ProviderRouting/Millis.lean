/-!
# Milliseconds

Every instant and every length of time is a signed 64-bit count of milliseconds.  Sums and
differences stop at the ends of that range instead of wrapping, so a window that would end
beyond the last instant ends at it.  Only the hand-driven clock wraps.
-/

namespace ProviderRouting

/-- An instant or a length of time, in milliseconds. -/
structure Millis where
  value : Int
  least_le : -9223372036854775808 ≤ value := by omega
  le_greatest : value ≤ 9223372036854775807 := by omega
deriving DecidableEq

namespace Millis

@[ext]
theorem ext {left right : Millis} (equality : left.value = right.value) : left = right := by
  cases left; cases right; cases equality; rfl

instance : LE Millis := ⟨fun left right => left.value ≤ right.value⟩
instance : LT Millis := ⟨fun left right => left.value < right.value⟩
instance : DecidableLE Millis := fun left right => Int.decLe left.value right.value
instance : DecidableLT Millis := fun left right => Int.decLt left.value right.value
instance : Max Millis := ⟨fun left right => if left ≤ right then right else left⟩
instance : BEq Millis := ⟨fun left right => decide (left = right)⟩

theorem le_iff {left right : Millis} : left ≤ right ↔ left.value ≤ right.value := Iff.rfl

theorem lt_iff {left right : Millis} : left < right ↔ left.value < right.value := Iff.rfl

theorem value_max (left right : Millis) :
    (max left right).value = max left.value right.value := by
  change (if left ≤ right then right else left).value = _
  simp only [le_iff]
  split <;> omega

instance : Std.Commutative (max : Millis → Millis → Millis) where
  comm left right := by
    apply ext
    simp only [value_max]
    omega

instance : Std.Associative (max : Millis → Millis → Millis) where
  assoc first second third := by
    apply ext
    simp only [value_max]
    omega

/-- The nearest representable number of milliseconds. -/
def clamp (value : Int) : Millis where
  value := max (-9223372036854775808) (min 9223372036854775807 value)

instance (literal : Nat) : OfNat Millis literal := ⟨clamp literal⟩

instance : Inhabited Millis := ⟨0⟩

/-- The last representable instant. -/
def greatest : Millis where
  value := 9223372036854775807

/-- The number itself when it is representable. -/
def ofInt? (value : Int) : Option Millis :=
  if h : -9223372036854775808 ≤ value ∧ value ≤ 9223372036854775807 then
    some ⟨value, h.1, h.2⟩
  else
    none

theorem ofInt?_value (time : Millis) : ofInt? time.value = some time := by
  simp [ofInt?, time.least_le, time.le_greatest]

/-- The end of a window of the given length. -/
def plus (start length : Millis) : Millis :=
  clamp (start.value + length.value)

theorem value_plus (start length : Millis) :
    (start.plus length).value =
      max (-9223372036854775808) (min 9223372036854775807 (start.value + length.value)) :=
  rfl

/-- The time passed since an earlier instant. -/
def since (now earlier : Millis) : Millis :=
  clamp (now.value - earlier.value)

/-- The representative of a number modulo 2^64. -/
def wrap (value : Int) : Millis where
  value := Int.bmod value 18446744073709551616
  least_le := by
    have := Int.le_bmod (x := value) (m := 18446744073709551616) (by omega)
    omega
  le_greatest := by
    have := Int.bmod_lt (x := value) (m := 18446744073709551616) (by omega)
    omega

/-- Whole seconds as milliseconds. -/
def ofSeconds (seconds : UInt64) : Millis :=
  clamp (seconds.toNat * 1000)

end Millis

end ProviderRouting
