import ProviderRouting.ProviderKey
import ProviderRouting.Table

/-!
# Weighted rotation

Each candidate is credited its weight, the candidate with the most credit is picked, and the
pick is debited the sum of all weights.  The shares of the picks thus follow the weights, evenly
spread.  A candidate that has waited for almost as many picks as the bound allows is picked
before all others, so none waits longer than the bound.

Credits and waits have no largest value here.  Those that occur fit into 64 bits: a wait grows by
one with each pick, and the credits of the same candidates stay within the sum of all weights times
the number of candidates, as long as the bound leaves each candidate its share.  A weight has 32
bits.
-/

namespace ProviderRouting

/-- A key that may be picked, with its weight. -/
abbrev Candidate := ProviderKey × Nat

/-- What a rotation remembers between picks. -/
structure Rotation where
  credits : Table ProviderKey Int := ∅
  /-- Picks since each key was picked itself. -/
  waits : Table ProviderKey Nat := ∅
deriving Inhabited

/-- The earliest item of greatest measure. -/
def firstGreatest? {α : Type} (measure : α → Int) : List α → Option α
  | [] => none
  | item :: rest =>
    match firstGreatest? measure rest with
    | none => some item
    | some later => some (if measure later ≤ measure item then item else later)

/-- A whole number of picks in which each of the candidates gets its turn, when every weight is
at least `leastMultiplier` of the greatest.  It is computed with any numbers that count, divide and
can be rounded up. -/
def turnBoundOver {Number : Type} [Div Number] (ofCount : Nat → Number) (roundUp : Number → Nat)
    (candidates : Nat) (leastMultiplier : Number) : Nat :=
  if candidates = 0 then 0
  else max (roundUp (ofCount candidates / leastMultiplier)) candidates

/-- The bound that selections go by.  A quotient of floats is rounded before it is rounded up, so
the bound may be one less than in exact arithmetic. -/
def turnBound (candidates : Nat) (leastMultiplier : Float) : Nat :=
  turnBoundOver Float.ofNat (fun quotient => quotient.ceil.toUInt64.toNat) candidates
    leastMultiplier

namespace Rotation

def credit (rotation : Rotation) (key : ProviderKey) : Int :=
  (rotation.credits.get? key).getD 0

def wait (rotation : Rotation) (key : ProviderKey) : Nat :=
  (rotation.waits.get? key).getD 0

def totalWeight (candidates : List Candidate) : Nat :=
  candidates.foldr (fun candidate total => candidate.2 + total) 0

/-- A key that left the candidates starts anew when it comes back. -/
def retain (rotation : Rotation) (candidates : List Candidate) : Rotation :=
  let present (key : ProviderKey) : Bool := candidates.any fun candidate => candidate.1 == key
  { credits := rotation.credits.filter fun key _ => present key
    waits := rotation.waits.filter fun key _ => present key }

def addCredit (rotation : Rotation) (key : ProviderKey) (amount : Int) : Rotation :=
  { rotation with credits := rotation.credits.insert key (rotation.credit key + amount) }

/-- Credit every candidate its weight. -/
def accrue (rotation : Rotation) (candidates : List Candidate) : Rotation :=
  candidates.foldl (fun state candidate => state.addCredit candidate.1 candidate.2) rotation

/-- The candidate has a weight and must be picked now to keep the bound. -/
def isOverdue (rotation : Rotation) (bound : Nat) (candidate : Candidate) : Bool :=
  candidate.2 != 0 && bound ≤ rotation.wait candidate.1 + 1

/-- The key to pick once the credits are given: the overdue candidate that waited longest, or
else the candidate with the most credit. -/
def choose (rotation : Rotation) (candidates : List Candidate) (bound : Nat) :
    Option ProviderKey :=
  let overdue := candidates.filter (rotation.isOverdue bound)
  match firstGreatest? (fun candidate => (rotation.wait candidate.1 : Int)) overdue with
  | some candidate => some candidate.1
  | none =>
    (firstGreatest? (fun candidate : Candidate => rotation.credit candidate.1) candidates).map
      Prod.fst

/-- Let everyone but the pick wait one more time. -/
def passTurn (rotation : Rotation) (candidates : List Candidate) (picked : ProviderKey) :
    Rotation :=
  let waits := candidates.foldl
    (fun waits candidate =>
      waits.insert candidate.1 ((waits.get? candidate.1).getD 0 + 1)) rotation.waits
  { rotation with waits := waits.insert picked 0 }

/-- Debit the pick by the weights of all candidates, and let the others wait. -/
def settle (rotation : Rotation) (candidates : List Candidate) (picked : ProviderKey) :
    Rotation :=
  (rotation.addCredit picked (-(totalWeight candidates : Int))).passTurn candidates picked

/-- Pick one of the candidates; none without a weight. -/
def select (rotation : Rotation) (candidates : List Candidate) (bound : Nat) :
    Option ProviderKey × Rotation :=
  if totalWeight candidates = 0 then (none, rotation)
  else
    let credited := (rotation.retain candidates).accrue candidates
    match credited.choose candidates bound with
    | none => (none, credited)
    | some picked => (some picked, credited.settle candidates picked)

end Rotation

end ProviderRouting
