import Mathlib.Data.List.Basic
import ProviderRouting.Text.Lowercase

/-!
# What lowercase does to the parts of a text

Texts are the same but for case if they are written with the same letters.  Whoever looks for a part
in lowercase finds it in lowercase wherever the text holds it but for case, as long as the part has
no sigma: a capital sigma that ends the part may stand within a word of the text, and its lowercase
is another one there.  The other way round, what is found in lowercase is held but for case, as long
as the text has no dotted capital I, whose lowercase is two letters that can be found one by one.
-/

namespace ProviderRouting

namespace Lowercase

/-- The sigma that ends a word is the same letter as any other one. -/
def unended (character : Char) : Char :=
  if character = 'ς' then 'σ' else character

/-- The letters of a character, in whatever case it is written. -/
def letters (character : Char) : List Char :=
  (Lowercase.character character).map unended

def SameButForCase (one other : List Char) : Prop :=
  one.flatMap letters = other.flatMap letters

/-- A part of the text is the same as another text, but for case. -/
def HoldsButForCase (text part : List Char) : Prop :=
  ∃ piece, piece <:+: text ∧ SameButForCase piece part

variable {before text part piece : List Char}

theorem character_sigma : character 'Σ' = ['σ'] := by
  decide +kernel

/-- Lowercase keeps the letters. -/
theorem map_unended_after (before text : List Char) :
    (after before text).map unended = text.flatMap letters := by
  induction text generalizing before with
  | nil => rfl
  | cons next rest ih =>
      rw [after, List.map_append, ih, List.flatMap_cons]
      congr 1
      by_cases hsigma : next = 'Σ'
      · rw [if_pos hsigma, letters, hsigma, character_sigma]
        split <;> rfl
      · rw [if_neg hsigma, letters]

/-- What is put before a text becomes lowercase before it. -/
theorem exists_after_append (before first rest : List Char) :
    ∃ lowered, after before (first ++ rest) = lowered ++ after (first.reverse ++ before) rest := by
  induction first generalizing before with
  | nil => exact ⟨[], rfl⟩
  | cons next first ih =>
      obtain ⟨lowered, hlowered⟩ := ih (next :: before)
      rw [List.cons_append, after, hlowered, List.reverse_cons, List.append_assoc,
        List.singleton_append, ← List.append_assoc]
      exact ⟨_, rfl⟩

/-- Only a sigma has a lowercase that depends on its neighbours. -/
theorem after_append_of_no_sigma (hsigma : 'σ' ∉ piece.flatMap letters)
    (before rest : List Char) :
    after before (piece ++ rest) =
      piece.flatMap letters ++ after (piece.reverse ++ before) rest := by
  induction piece generalizing before with
  | nil => rfl
  | cons next piece ih =>
      rw [List.flatMap_cons, List.mem_append, not_or] at hsigma
      have hnext : next ≠ 'Σ' := by
        rintro rfl
        apply hsigma.1
        rw [letters, character_sigma]
        decide
      have hkept : character next = letters next := by
        have hunended : ∀ lowered ∈ character next, unended lowered = lowered := by
          intro lowered hlowered
          have hended : lowered ≠ 'ς' := by
            rintro rfl
            exact hsigma.1 (List.mem_map_of_mem hlowered)
          exact if_neg hended
        rw [letters, List.map_congr_left hunended, List.map_id']
      rw [List.cons_append, after, if_neg hnext, ih hsigma.2, hkept, List.flatMap_cons,
        List.append_assoc, List.reverse_cons, List.append_assoc, List.singleton_append]

/-- A part without a sigma is found in lowercase wherever the text holds it. -/
theorem infix_of_holdsButForCase (hsigma : 'σ' ∉ part.flatMap letters)
    (hholds : HoldsButForCase text part) : after [] part <:+: after [] text := by
  obtain ⟨piece, ⟨first, last, rfl⟩, hsame⟩ := hholds
  have hpart : after [] part = part.flatMap letters := by
    have happend := after_append_of_no_sigma hsigma [] []
    rwa [List.append_nil, after, List.append_nil] at happend
  have hpiece : 'σ' ∉ piece.flatMap letters := by rwa [hsame]
  obtain ⟨lowered, hlowered⟩ := exists_after_append [] first (piece ++ last)
  rw [List.append_assoc, hlowered, after_append_of_no_sigma hpiece, hpart, ← hsame,
    ← List.append_assoc]
  exact List.infix_append ..

/-- All characters but one have one letter. -/
theorem exists_letters_eq {character : Char} (hdotted : character ≠ 'İ') :
    ∃ letter, letters character = [letter] := by
  have hcode : character.toNat ≠ 0x130 := by
    intro hcode
    apply hdotted
    rw [← Char.ofNat_toNat character, hcode]
  rw [letters, Lowercase.character, if_neg hcode]
  split
  · exact ⟨_, rfl⟩
  · split
    · exact ⟨_, rfl⟩
    · exact ⟨_, rfl⟩

/-- What is found in lowercase is held by a text in which every character has one letter. -/
theorem holdsButForCase_of_infix (hdotted : 'İ' ∉ text)
    (hfound : after [] part <:+: after [] text) : HoldsButForCase text part := by
  have hletters := hfound.map unended
  rw [map_unended_after, map_unended_after] at hletters
  let letter (character : Char) : Char := (letters character).headD character
  have hone (character : Char) (hmem : character ∈ text) :
      letters character = [letter character] := by
    have hother : character ≠ 'İ' := by
      rintro rfl
      exact hdotted hmem
    obtain ⟨only, honly⟩ := exists_letters_eq hother
    simp only [letter, honly, List.headD_cons]
  rw [List.flatMap_congr hone, ← List.map_eq_flatMap, List.infix_map_iff] at hletters
  obtain ⟨piece, hpiece, hsame⟩ := hletters
  refine ⟨piece, hpiece, ?_⟩
  rw [SameButForCase, hsame, List.map_eq_flatMap]
  exact List.flatMap_congr fun character hmem => hone character (hpiece.subset hmem)

end Lowercase

end ProviderRouting
