import ProviderRouting.Json.Printer
import ProviderRouting.Json.Token
import Mathlib.Data.List.Basic

/-!
# Tokens of printed text

Every piece of text that the printer puts together falls into the same tokens wherever it stands.
Quoted strings, punctuation and line starts do so whatever follows them.  A number or a word does
so if what follows does not go on with it.
-/

namespace ProviderRouting.Json

variable {state : State} {text first second chars rest : List Char}
  {tokens earlier later : List Token} {token : Token} {character : Char} {part : Partial}

theorem scanFrom_cons (state : State) (character : Char) (rest : List Char) :
    scanFrom state (character :: rest) =
      (step state character).bind fun result =>
        (scanFrom result.2 rest).map (result.1 ++ ·) := by
  rw [scanFrom]
  refine Option.bind_congr fun ⟨tokens, next⟩ _ => ?_
  exact Option.map_eq_bind.symm

/-- The text falls into these tokens, whatever follows it. -/
def ScansAnywhere (text : List Char) (tokens : List Token) : Prop :=
  ∀ rest, scanFrom .between (text ++ rest) = (scanFrom .between rest).map (tokens ++ ·)

/-- No number and no word goes on with this text. -/
def EndsToken (rest : List Char) : Prop :=
  ∀ character ∈ rest.head?, isNumberPart character = false ∧ character.isLower = false

/-- The text falls into these tokens, if what follows ends the last of them. -/
def Scans (text : List Char) (tokens : List Token) : Prop :=
  ∀ rest, EndsToken rest →
    scanFrom .between (text ++ rest) = (scanFrom .between rest).map (tokens ++ ·)

theorem ScansAnywhere.scans (hscans : ScansAnywhere text tokens) : Scans text tokens :=
  fun rest _ => hscans rest

theorem ScansAnywhere.append (hfirst : ScansAnywhere first earlier)
    (hsecond : ScansAnywhere second later) :
    ScansAnywhere (first ++ second) (earlier ++ later) := by
  intro rest
  rw [List.append_assoc, hfirst, hsecond, Option.map_map]
  simp only [Function.comp_def, List.append_assoc]

theorem scansAnywhere_nil : ScansAnywhere [] [] := by
  intro rest
  simp

/-! ## Punctuation and blanks -/

theorem scansAnywhere_punctuation (htoken : punctuation? character = some token) :
    ScansAnywhere [character] [token] := by
  intro rest
  rw [List.singleton_append, scanFrom_cons, step, start, htoken]
  rfl

theorem scansAnywhere_blanks (hblank : ∀ character ∈ text, character = ' ' ∨ character = '\n') :
    ScansAnywhere text [] := by
  induction text with
  | nil => exact scansAnywhere_nil
  | cons character text ih =>
      obtain ⟨hcharacter, htext⟩ := List.forall_mem_cons.mp hblank
      have hsingle : ScansAnywhere [character] [] := by
        intro rest
        have hstep : step .between character = some ([], .between) := by
          rcases hcharacter with rfl | rfl <;> rfl
        rw [List.singleton_append, scanFrom_cons, hstep]
        rfl
      exact hsingle.append (ih htext)

/-! ## Strings -/

theorem hexValue?_hexDigit {value : Nat} (hvalue : value < 16) :
    hexValue? (hexDigit value) = some value := by
  have hall : ∀ value < 16, hexValue? (hexDigit value) = some value := by decide
  exact hall value hvalue

theorem scanFrom_shortEscape {letter : Char} (hletter : letter ≠ 'u')
    (hescape : escape? letter = some character) (characters rest : List Char) :
    scanFrom (.string { characters }) ('\\' :: letter :: rest) =
      scanFrom (.string { characters := character :: characters }) rest := by
  have hopen : step (.string { characters }) '\\' = some ([], .escape { characters }) := rfl
  have hclose : step (.escape { characters }) letter =
      some ([], .string { characters := character :: characters }) := by
    rw [step, if_neg hletter, hescape]
    rfl
  rw [scanFrom_cons, hopen, Option.bind_some, scanFrom_cons, hclose, Option.bind_some]
  simp

theorem pushUnit_control (hcontrol : character.toNat < 32) (characters : List Char) :
    ({ characters } : Partial).pushUnit character.toNat =
      { characters := character :: characters } := by
  rw [Partial.pushUnit, if_neg (by omega), if_neg (by omega), Char.ofNat_toNat]
  rfl

/-- A control character is read from the number of its code unit. -/
theorem scanFrom_unitEscape (hcontrol : character.toNat < 32) (characters rest : List Char) :
    scanFrom (.string { characters })
        (['\\', 'u', '0', '0', hexDigit (character.toNat / 16), hexDigit (character.toNat % 16)] ++
          rest) =
      scanFrom (.string { characters := character :: characters }) rest := by
  have hhigh : hexValue? (hexDigit (character.toNat / 16)) = some (character.toNat / 16) :=
    hexValue?_hexDigit (by omega)
  have hlow : hexValue? (hexDigit (character.toNat % 16)) = some (character.toNat % 16) :=
    hexValue?_hexDigit (by omega)
  have hvalue : 16 * (character.toNat / 16) + character.toNat % 16 = character.toNat := by omega
  have hzero : hexValue? '0' = some 0 := by decide
  simp [scanFrom_cons, step, hhigh, hlow, hzero, hvalue, pushUnit_control hcontrol,
    Function.comp_def]

/-- An escaped character is read as itself. -/
theorem scanFrom_escape (characters : List Char) (character : Char) (rest : List Char) :
    scanFrom (.string { characters }) (escape character ++ rest) =
      scanFrom (.string { characters := character :: characters }) rest := by
  have hshort {letter character : Char} (hescape : escape? letter = some character)
      (hletter : letter ≠ 'u') :
      scanFrom (.string { characters }) (['\\', letter] ++ rest) =
        scanFrom (.string { characters := character :: characters }) rest :=
    scanFrom_shortEscape hletter hescape characters rest
  unfold escape
  split
  · exact hshort rfl (by decide)
  · exact hshort rfl (by decide)
  · exact hshort rfl (by decide)
  · exact hshort rfl (by decide)
  · exact hshort rfl (by decide)
  · exact hshort rfl (by decide)
  · exact hshort rfl (by decide)
  · next hquote hbackslash _ _ _ _ _ =>
    split
    · next hcontrol => exact scanFrom_unitEscape hcontrol characters rest
    · next hplain =>
      have hstep : step (.string { characters }) character =
          some ([], .string { characters := character :: characters }) := by
        rw [step, if_neg hquote, if_neg hbackslash, if_neg hplain]
        rfl
      rw [List.singleton_append, scanFrom_cons, hstep]
      simp

/-- Between quotes, escaped characters are read one after the other. -/
theorem scanFrom_escaped (text characters rest : List Char) :
    scanFrom (.string { characters }) (text.flatMap escape ++ '"' :: rest) =
      (scanFrom .between rest).map (.text (.ofList (characters.reverse ++ text)) :: ·) := by
  induction text generalizing characters with
  | nil =>
      have hclose : step (.string { characters }) '"' =
          some ([.text (.ofList characters.reverse)], .between) := rfl
      rw [List.flatMap_nil, List.nil_append, scanFrom_cons, hclose, Option.bind_some,
        List.append_nil]
      rfl
  | cons character text ih =>
      rw [List.flatMap_cons, List.append_assoc, scanFrom_escape, ih, List.reverse_cons,
        List.append_assoc, List.singleton_append]

/-- A quoted string is read as the string. -/
theorem scansAnywhere_quote (text : String) :
    ScansAnywhere (quote text).toList [.text text] := by
  intro rest
  have hopen : step .between '"' = some ([], .string {}) := rfl
  have hquote : (quote text).toList ++ rest =
      '"' :: (text.toList.flatMap escape ++ '"' :: rest) := by
    simp [quote]
  rw [hquote, scanFrom_cons, hopen, Option.bind_some, scanFrom_escaped, Option.map_map,
    List.reverse_nil, List.nil_append, String.ofList_toList]
  rfl

/-! ## Words and numbers -/

/-- An unfinished token that does not go on is finished. -/
theorem scanFrom_ended (hfinish : finish state = some [token])
    (hstep : ∀ character ∈ rest.head?,
      step state character = (start character).map fun result => (token :: result.1, result.2)) :
    scanFrom state rest = (scanFrom .between rest).map (token :: ·) := by
  cases rest with
  | nil =>
      rw [scanFrom, scanFrom, hfinish]
      rfl
  | cons character rest =>
      rw [scanFrom_cons, scanFrom_cons, hstep character rfl, step, Option.bind_map,
        Option.map_bind]
      simp [Function.comp_def]

theorem scanFrom_word (hrest : EndsToken rest) (htoken : wordToken? chars = some token) :
    scanFrom (.word chars.reverse) rest = (scanFrom .between rest).map (token :: ·) := by
  refine scanFrom_ended ?_ fun character hcharacter => ?_
  · rw [finish, List.reverse_reverse, htoken]
    rfl
  · rw [step, (hrest character hcharacter).2, List.reverse_reverse, htoken]
    exact Option.map_eq_bind.symm

theorem scanFrom_number (hrest : EndsToken rest) (htoken : numberToken? chars = some token) :
    scanFrom (.number chars.reverse) rest = (scanFrom .between rest).map (token :: ·) := by
  refine scanFrom_ended ?_ fun character hcharacter => ?_
  · rw [finish, List.reverse_reverse, htoken]
    rfl
  · rw [step, (hrest character hcharacter).1, List.reverse_reverse, htoken]
    exact Option.map_eq_bind.symm

/-- A token that goes on with every character of a text takes in all of it. -/
theorem scanFrom_gathered (unfinished : List Char → State)
    (hstep : ∀ begun, ∀ character ∈ text,
      step (unfinished begun) character = some ([], unfinished (character :: begun)))
    (begun : List Char) :
    scanFrom (unfinished begun) (text ++ rest) =
      scanFrom (unfinished (text.reverse ++ begun)) rest := by
  induction text generalizing begun with
  | nil => rfl
  | cons character text ih =>
      have hhead := hstep begun character List.mem_cons_self
      have htail := ih fun begun character hcharacter =>
        hstep begun character (List.mem_cons_of_mem _ hcharacter)
      rw [List.cons_append, scanFrom_cons, hhead, Option.bind_some, htail, List.reverse_cons,
        List.append_assoc, List.singleton_append]
      simp

theorem scans_word (hstart : start character = some ([], .word [character]))
    (hlower : ∀ character ∈ text, character.isLower = true)
    (htoken : wordToken? (character :: text) = some token) :
    Scans (character :: text) [token] := by
  intro rest hrest
  have hstep (begun : List Char) : ∀ character ∈ text,
      step (.word begun) character = some ([], .word (character :: begun)) :=
    fun character hcharacter => by rw [step, if_pos (hlower character hcharacter)]
  rw [List.cons_append, scanFrom_cons, step, hstart, Option.bind_some,
    scanFrom_gathered .word hstep]
  have hfinished := scanFrom_word hrest htoken
  rw [List.reverse_cons] at hfinished
  rw [hfinished, Option.map_map]
  rfl

theorem scans_number (hstart : start character = some ([], .number [character]))
    (hparts : ∀ character ∈ text, isNumberPart character = true)
    (htoken : numberToken? (character :: text) = some token) :
    Scans (character :: text) [token] := by
  intro rest hrest
  have hstep (begun : List Char) : ∀ character ∈ text,
      step (.number begun) character = some ([], .number (character :: begun)) :=
    fun character hcharacter => by rw [step, if_pos (hparts character hcharacter)]
  rw [List.cons_append, scanFrom_cons, step, hstart, Option.bind_some,
    scanFrom_gathered .number hstep]
  have hfinished := scanFrom_number hrest htoken
  rw [List.reverse_cons] at hfinished
  rw [hfinished, Option.map_map]
  rfl

theorem scans_null : Scans "null".toList [.null] :=
  scans_word rfl (List.all_eq_true.mp rfl) rfl

theorem scans_bool (value : Bool) :
    Scans (if value then "true" else "false").toList [.bool value] := by
  cases value
  · exact scans_word rfl (List.all_eq_true.mp rfl) rfl
  · exact scans_word rfl (List.all_eq_true.mp rfl) rfl

end ProviderRouting.Json
