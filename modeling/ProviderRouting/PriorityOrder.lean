import ProviderRouting.ConfigError
import ProviderRouting.Decode
import ProviderRouting.Rotation

/-!
# Priority selection

Neighbouring targets of one provider and model form a group.  The first group stands ten points
above the second, and so on, and inside a group each alias stands one point above the next.
What recent errors cost a key is taken off its score, so a key falls behind the next group only
after repeated errors.
-/

namespace ProviderRouting

structure PrioritySettings where
  /-- How long an error counts against a key, unless the tier says otherwise. -/
  penaltyWindowSeconds : UInt64 := 600
deriving DecidableEq, Inhabited

namespace PrioritySettings

def validate (settings : PrioritySettings) : Except ConfigError Unit :=
  ensurePositive settings.penaltyWindowSeconds.toNat "priority.penalty_window_secs"

def encode (settings : PrioritySettings) : Document :=
  .fields [("penalty_window_secs", .int settings.penaltyWindowSeconds.toNat)]

def decode : Decoder PrioritySettings := fun document => do
  let given ← Decode.record [⟨"penalty_window_secs", []⟩] document
  some { penaltyWindowSeconds :=
    ← Decode.defaulted given "penalty_window_secs" Decode.uint64 600 }

end PrioritySettings

namespace Priority

/-- The score of an alias in a group, both counted from zero. -/
def scoreAt (group keyAlias : Nat) : Int :=
  100 - 10 * group + (100 - keyAlias)

/-- The scores of the targets that follow `last`, which has this group and alias. -/
def scoresAfter (last : ProviderKey) (group keyAlias : Nat) : List ProviderKey → List Int
  | [] => []
  | key :: rest =>
    if key.sharesModel last then
      scoreAt group (keyAlias + 1) :: scoresAfter key group (keyAlias + 1) rest
    else
      scoreAt (group + 1) 0 :: scoresAfter key (group + 1) 0 rest

/-- The score of every target before penalties. -/
def scores : List ProviderKey → List Int
  | [] => []
  | key :: rest => scoreAt 0 0 :: scoresAfter key 0 0 rest

/-- The selectable target with the best score after penalties, the earlier one on a tie. -/
def select (targets : List ProviderKey) (selectable : ProviderKey → Bool)
    (penalty : ProviderKey → Nat) : Option ProviderKey :=
  let scored := (targets.zip (scores targets)).filter fun target => selectable target.1
  (firstGreatest? (fun target : ProviderKey × Int => target.2 - penalty target.1) scored).map
    Prod.fst

end Priority

end ProviderRouting
