import ProviderRouting.ProviderKey
import Mathlib.Data.List.Basic
import Mathlib.Data.Set.Function

/-!
# Keys and their texts

A key is well formed when its text shows where its parts begin and end: provider and alias hold
no slash, and no part is empty.  The text of such a key names this key and no other one, and
every key that a text names is well formed.
-/

namespace ProviderRouting

/-! ## Separators -/

/-- Two texts around a separator are the same when their parts are, or when one separator stands
within a part of the other text, and what lies between the two separators belongs to both. -/
theorem append_separator_eq_iff {α : Type} {separator : α} {before after before' after' : List α} :
    before ++ separator :: after = before' ++ separator :: after' ↔
      (before = before' ∧ after = after') ∨
        (∃ part, before = before' ++ separator :: part ∧ after' = part ++ separator :: after) ∨
        ∃ part, before' = before ++ separator :: part ∧ after = part ++ separator :: after' := by
  constructor
  · intro hsame
    rcases List.append_eq_append_iff.mp hsame with ⟨rest, hbefore, hrest⟩ | ⟨rest, hbefore, hrest⟩
    · cases rest with
      | nil =>
          rw [List.append_nil] at hbefore
          exact .inl ⟨hbefore.symm, (List.cons.inj hrest).2⟩
      | cons head part =>
          obtain ⟨rfl, hafter⟩ := List.cons.inj hrest
          exact .inr (.inr ⟨part, hbefore, hafter⟩)
    · cases rest with
      | nil =>
          rw [List.append_nil] at hbefore
          exact .inl ⟨hbefore, (List.cons.inj hrest).2.symm⟩
      | cons head part =>
          obtain ⟨rfl, hafter⟩ := List.cons.inj hrest
          exact .inr (.inl ⟨part, hbefore, hafter⟩)
  · rintro (⟨rfl, rfl⟩ | ⟨part, rfl, rfl⟩ | ⟨part, rfl, rfl⟩)
    · rfl
    · simp
    · simp

namespace ProviderKey

variable {key other : ProviderKey} {text : String} {first rest : List Char}

/-! ## Cutting at the first slash -/

theorem cut_slash (hfirst : '/' ∉ first) : cut (first ++ '/' :: rest) = (first, rest) := by
  induction first with
  | nil => rfl
  | cons character first ih =>
      rw [List.mem_cons, not_or] at hfirst
      rw [List.cons_append, cut, ih hfirst.2]
      exact fun hslash => hfirst.1 hslash.symm

theorem slash_not_mem_cut (characters : List Char) : '/' ∉ (cut characters).1 := by
  fun_induction cut characters with
  | case1 => exact List.not_mem_nil
  | case2 rest => exact List.not_mem_nil
  | case3 character rest hcharacter ih =>
      rw [List.mem_cons, not_or]
      exact ⟨fun hslash => hcharacter hslash.symm, ih⟩

/-- What stands before and after the first slash makes up the whole. -/
theorem cut_append {characters : List Char} (hrest : (cut characters).2 ≠ []) :
    (cut characters).1 ++ '/' :: (cut characters).2 = characters := by
  fun_induction cut characters with
  | case1 => exact absurd rfl hrest
  | case2 rest => rfl
  | case3 character rest hcharacter ih => rw [List.cons_append, ih hrest]

/-! ## Well-formed keys -/

/-- The parts of the key can be read off its text. -/
structure WellFormed (key : ProviderKey) : Prop where
  provider_nonempty : key.provider ≠ ""
  provider_slash : '/' ∉ key.provider.toList
  keyAlias_nonempty : key.keyAlias ≠ ""
  keyAlias_slash : '/' ∉ key.keyAlias.toList
  model_nonempty : key.model ≠ ""

theorem toList_text (key : ProviderKey) :
    key.text.toList =
      key.provider.toList ++ '/' :: (key.keyAlias.toList ++ '/' :: key.model.toList) := by
  simp [ProviderKey.text]

/-- The text of a well-formed key names it. -/
theorem parse?_text (hkey : key.WellFormed) : parse? key.text = some key := by
  have hprovider : key.provider.toList.isEmpty = false := by simp [hkey.provider_nonempty]
  have halias : key.keyAlias.toList.isEmpty = false := by simp [hkey.keyAlias_nonempty]
  have hmodel : key.model.toList.isEmpty = false := by simp [hkey.model_nonempty]
  simp only [parse?, toList_text, cut_slash hkey.provider_slash, cut_slash hkey.keyAlias_slash,
    hprovider, halias, hmodel, Bool.or_self, Bool.false_eq_true, if_false, String.ofList_toList]

/-- Different well-formed keys have different texts. -/
theorem WellFormed.eq_of_text (hkey : key.WellFormed) (hother : other.WellFormed)
    (htext : key.text = other.text) : key = other := by
  have hparse : some key = some other := by
    rw [← parse?_text hkey, htext, parse?_text hother]
  exact Option.some.inj hparse

theorem wellFormed_of_parse? (hparse : parse? text = some key) : key.WellFormed := by
  simp only [parse?, Option.ite_none_left_eq_some, Bool.or_eq_true, List.isEmpty_iff, not_or,
    Option.some.injEq] at hparse
  obtain ⟨⟨⟨hprovider, halias⟩, hmodel⟩, rfl⟩ := hparse
  have hnonempty {characters : List Char} (hne : characters ≠ []) :
      String.ofList characters ≠ "" := by
    simpa using hne
  refine ⟨hnonempty hprovider, ?_, hnonempty halias, ?_, hnonempty hmodel⟩
  · rw [String.toList_ofList]
    exact slash_not_mem_cut _
  · rw [String.toList_ofList]
    exact slash_not_mem_cut _

/-- A text names no key but the one it is the text of. -/
theorem text_of_parse? (hparse : parse? text = some key) : key.text = text := by
  simp only [parse?, Option.ite_none_left_eq_some, Bool.or_eq_true, List.isEmpty_iff, not_or,
    Option.some.injEq] at hparse
  obtain ⟨⟨⟨-, halias⟩, hmodel⟩, rfl⟩ := hparse
  have hrest : (cut text.toList).2 ≠ [] := by
    intro hempty
    rw [hempty] at halias
    exact halias rfl
  apply String.toList_injective
  rw [toList_text, String.toList_ofList, String.toList_ofList, String.toList_ofList,
    cut_append hmodel, cut_append hrest]

theorem parse?_eq_some_iff : parse? text = some key ↔ key.WellFormed ∧ key.text = text := by
  constructor
  · intro hparse
    exact ⟨wellFormed_of_parse? hparse, text_of_parse? hparse⟩
  · rintro ⟨hkey, rfl⟩
    exact parse?_text hkey

theorem parse?_text_iff (key : ProviderKey) : parse? key.text = some key ↔ key.WellFormed :=
  parse?_eq_some_iff.trans (and_iff_left rfl)

/-! ## Texts that name a key -/

/-- The text has two slashes or more, and something stands before the first one, between it and the
second one, and after that. -/
def HasThreeParts (text : String) : Prop :=
  ∃ before between after : String, text = before ++ "/" ++ between ++ "/" ++ after ∧
    ('/' ∉ before.toList ∧ '/' ∉ between.toList) ∧ before ≠ "" ∧ between ≠ "" ∧ after ≠ ""

theorem hasThreeParts_iff :
    HasThreeParts text ↔ ∃ key : ProviderKey, key.WellFormed ∧ key.text = text := by
  constructor
  · rintro ⟨before, between, after, rfl, ⟨hbefore, hbetween⟩, hfirst, hsecond, hthird⟩
    exact ⟨⟨before, between, after⟩, ⟨hfirst, hbefore, hsecond, hbetween, hthird⟩, rfl⟩
  · rintro ⟨key, hkey, rfl⟩
    exact ⟨key.provider, key.keyAlias, key.model, rfl, ⟨hkey.provider_slash, hkey.keyAlias_slash⟩,
      hkey.provider_nonempty, hkey.keyAlias_nonempty, hkey.model_nonempty⟩

theorem isSome_parse?_iff : (parse? text).isSome = true ↔ HasThreeParts text := by
  rw [Option.isSome_iff_exists, hasThreeParts_iff]
  exact exists_congr fun key => parse?_eq_some_iff

/-- Texts and keys stand for each other, one for one.  A text is read as a key exactly if it has
three parts, and that key has this text; a key is read back from its text exactly if provider and
alias hold no slash and no part is empty. -/
theorem text_bijOn :
    (∀ text, (parse? text).isSome = true ↔ HasThreeParts text) ∧
    (∀ text key, parse? text = some key ↔ key.WellFormed ∧ key.text = text) ∧
    (∀ key : ProviderKey, parse? key.text = some key ↔
      (key.provider ≠ "" ∧ '/' ∉ key.provider.toList) ∧
        (key.keyAlias ≠ "" ∧ '/' ∉ key.keyAlias.toList) ∧ key.model ≠ "") ∧
    Set.BijOn ProviderKey.text {key | key.WellFormed} {text | HasThreeParts text} ∧
    Set.InjOn parse? {text | HasThreeParts text} := by
  refine ⟨fun _ => isSome_parse?_iff, fun _ _ => parse?_eq_some_iff, fun key => ?_, ⟨?_, ?_, ?_⟩,
    ?_⟩
  · rw [parse?_text_iff]
    constructor
    · rintro ⟨hprovider, hfirst, halias, hsecond, hmodel⟩
      exact ⟨⟨hprovider, hfirst⟩, ⟨halias, hsecond⟩, hmodel⟩
    · rintro ⟨⟨hprovider, hfirst⟩, ⟨halias, hsecond⟩, hmodel⟩
      exact ⟨hprovider, hfirst, halias, hsecond, hmodel⟩
  · intro key hkey
    exact hasThreeParts_iff.mpr ⟨key, hkey, rfl⟩
  · intro key hkey other hother htext
    exact WellFormed.eq_of_text hkey hother htext
  · intro text htext
    exact hasThreeParts_iff.mp htext
  · intro text htext other hother hsame
    obtain ⟨key, hkey, rfl⟩ := hasThreeParts_iff.mp htext
    rw [parse?_text hkey] at hsame
    exact text_of_parse? hsame.symm

end ProviderKey

end ProviderRouting
