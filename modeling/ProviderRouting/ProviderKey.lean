/-!
# Provider keys

A provider key names one routable combination: a provider, a credential alias at that
provider, and a model served through that credential.  Its text is the three parts joined by
slashes; only the model may contain a slash itself.
-/

namespace ProviderRouting

open Std

structure ProviderKey where
  provider : String
  keyAlias : String
  model : String
deriving DecidableEq, Inhabited, Hashable

namespace ProviderKey

/-- Keys are ordered by provider, then alias, then model. -/
instance : Ord ProviderKey where
  compare left right :=
    (compare left.provider right.provider).then <|
      (compare left.keyAlias right.keyAlias).then (compare left.model right.model)

theorem compare_def (left right : ProviderKey) :
    compare left right =
      (compare left.provider right.provider).then
        ((compare left.keyAlias right.keyAlias).then (compare left.model right.model)) :=
  rfl

instance : LawfulEqOrd ProviderKey where
  compare_self := by simp [compare_def]
  eq_of_compare := by
    intro left right equality
    simp only [compare_def, Ordering.then_eq_eq, Std.compare_eq_iff_eq] at equality
    cases left; cases right; simp_all

instance : TransOrd ProviderKey where
  eq_swap := by
    intro left right
    simp only [compare_def, Ordering.swap_then]
    rw [@OrientedCmp.eq_swap _ compare _ left.provider,
      @OrientedCmp.eq_swap _ compare _ left.keyAlias,
      @OrientedCmp.eq_swap _ compare _ left.model]
  isLE_trans := by
    intro first second third
    have trans := @TransCmp.isLE_trans _
      (compareLex (compareOn ProviderKey.provider)
        (compareLex (compareOn ProviderKey.keyAlias) (compareOn ProviderKey.model)))
      _ first second third
    exact trans

/-- The text of a key. -/
def text (key : ProviderKey) : String :=
  key.provider ++ "/" ++ key.keyAlias ++ "/" ++ key.model

/-- The part before the first slash and the part after it; without a slash, all and
nothing. -/
def cut : List Char → List Char × List Char
  | [] => ([], [])
  | '/' :: rest => ([], rest)
  | character :: rest => (character :: (cut rest).1, (cut rest).2)

/-- The key that a text names.  No part may be empty. -/
def parse? (text : String) : Option ProviderKey :=
  let (provider, rest) := cut text.toList
  let (keyAlias, model) := cut rest
  if provider.isEmpty || keyAlias.isEmpty || model.isEmpty then
    none
  else
    some ⟨.ofList provider, .ofList keyAlias, .ofList model⟩

/-- Both keys reach the same model of the same provider. -/
def sharesModel (left right : ProviderKey) : Bool :=
  left.provider == right.provider && left.model == right.model

/-- The key reaches this model of this provider. -/
def reaches (key : ProviderKey) (provider model : String) : Bool :=
  key.provider == provider && key.model == model

end ProviderKey

end ProviderRouting
