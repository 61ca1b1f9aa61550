import ProviderRouting.Proofs.Decimal
import ProviderRouting.Proofs.Json.Scanning

/-!
# Printed numbers

An integer of 64 bits is read as itself.  A double between zero and one is read as some double
again, which may differ from it in its last digit: what matters is that the text of such a double
is never refused and never stands for a number out of range.
-/

namespace ProviderRouting.Json

variable {negative : Bool} {digits whole places rest : List Char} {character : Char}

/-! ## The parts of a number -/

/-- Digits that may begin a number. -/
structure IsWhole (digits : List Char) : Prop where
  digit : ∀ character ∈ digits, character.isDigit = true
  nonempty : digits ≠ []
  leading : digits.head? = some '0' → digits.length = 1

def signed (negative : Bool) (body : List Char) : List Char :=
  if negative then '-' :: body else body

theorem start_digit (hdigit : character.isDigit = true) :
    start character = some ([], .number [character]) := by
  have hpunctuation : punctuation? character = none := by
    unfold punctuation?
    split <;> first | rfl | exact absurd hdigit (by decide)
  have hblank : isBlank character = false := by
    by_contra hblank
    simp only [isBlank, Bool.not_eq_false, Bool.or_eq_true, decide_eq_true_eq] at hblank
    rcases hblank with ((rfl | rfl) | rfl) | rfl <;> exact absurd hdigit (by decide)
  have hquote : character ≠ '"' := by
    rintro rfl
    exact absurd hdigit (by decide)
  rw [start, hpunctuation]
  simp [hblank, hquote, hdigit]

theorem spanDigits_append (hdigits : ∀ character ∈ digits, character.isDigit = true)
    (hrest : ∀ character ∈ rest.head?, character.isDigit = false) :
    Decimal.spanDigits (digits ++ rest) = (digits, rest) := by
  have hnone : rest.takeWhile Char.isDigit = [] ∧ rest.dropWhile Char.isDigit = rest := by
    cases rest with
    | nil => exact ⟨rfl, rfl⟩
    | cons character rest => simp [hrest character rfl]
  rw [Decimal.spanDigits, List.takeWhile_append_of_pos hdigits,
    List.dropWhile_append_of_pos hdigits, hnone.1, hnone.2, List.append_nil]

theorem numberToken?_signed (hdigit : ∀ character ∈ rest.head?, character.isDigit = true) :
    numberToken? (signed negative rest) = unsignedToken? negative rest := by
  cases negative with
  | true => rfl
  | false =>
      rw [signed]
      unfold numberToken?
      split
      · next body heq =>
        have hrest : rest = '-' :: body := heq
        exact absurd (hdigit '-' (by rw [hrest]; rfl)) (by decide)
      · rfl

theorem IsWhole.accepted (hwhole : IsWhole whole) :
    ¬ (whole.isEmpty = true ∨ (whole.head? = some '0' ∧ whole.length ≠ 1)) := by
  rintro (hempty | ⟨hzero, hlength⟩)
  · exact hwhole.nonempty (List.isEmpty_iff.mp hempty)
  · exact hlength (hwhole.leading hzero)

theorem unsignedToken?_whole (hwhole : IsWhole whole) :
    unsignedToken? negative whole = some (wholeToken negative whole) := by
  have hspan : Decimal.spanDigits (whole ++ []) = (whole, []) :=
    spanDigits_append hwhole.digit (by simp)
  rw [List.append_nil] at hspan
  rw [unsignedToken?, hspan]
  simp only [if_neg hwhole.accepted]

theorem unsignedToken?_places (hwhole : IsWhole whole)
    (hplaces : ∀ character ∈ places, character.isDigit = true) (hnonempty : places ≠ [])
    (hrest : ∀ character ∈ rest.head?, character.isDigit = false) :
    unsignedToken? negative (whole ++ '.' :: (places ++ rest)) =
      exponentToken? negative whole places rest := by
  rw [unsignedToken?, spanDigits_append hwhole.digit (by simp)]
  simp only [if_neg hwhole.accepted, spanDigits_append hplaces hrest]
  rw [if_neg (mt List.isEmpty_iff.mp hnonempty)]

theorem unsignedToken?_exponent (hwhole : IsWhole whole) (power : List Char) :
    unsignedToken? negative (whole ++ 'e' :: power) =
      exponentToken? negative whole [] ('e' :: power) := by
  rw [unsignedToken?, spanDigits_append hwhole.digit (by simp)]
  simp only [if_neg hwhole.accepted]
  rfl

theorem isNumberPart_of_isDigit (hdigit : character.isDigit = true) :
    isNumberPart character = true := by
  simp [isNumberPart, hdigit]

/-- A number is scanned as a whole, whatever its parts are. -/
theorem scans_signed {body : List Char} {token : Token} (hnonempty : body ≠ [])
    (hfirst : ∀ character ∈ body.head?, character.isDigit = true)
    (hparts : ∀ character ∈ body, isNumberPart character = true)
    (htoken : unsignedToken? negative body = some token) :
    Scans (signed negative body) [token] := by
  have hnumber : numberToken? (signed negative body) = some token :=
    (numberToken?_signed hfirst).trans htoken
  cases negative with
  | true => exact scans_number rfl hparts hnumber
  | false =>
      obtain ⟨first, others, rfl⟩ := List.exists_cons_of_ne_nil hnonempty
      exact scans_number (start_digit (hfirst first rfl))
        (fun character hcharacter => hparts character (List.mem_cons_of_mem _ hcharacter)) hnumber

/-! ## Integers -/

/-- Decimal digits do not begin with a zero, except those of zero. -/
theorem head?_toDigits (value : Nat) :
    (Nat.toDigits 10 value).head? = some '0' → value = 0 := by
  induction value using Nat.strongRecOn with
  | ind value ih =>
      by_cases hvalue : value < 10
      · rw [Nat.toDigits_of_lt_base hvalue]
        have hall : ∀ value < 10, [Nat.digitChar value].head? = some '0' → value = 0 := by decide
        exact hall value hvalue
      · rw [Nat.toDigits_of_base_le (by decide) (by omega)]
        intro hzero
        have hhead : (Nat.toDigits 10 (value / 10)).head? = some '0' := by
          rwa [List.head?_append_of_ne_nil _ Nat.toDigits_ne_nil] at hzero
        have hquotient := ih (value / 10) (by omega) hhead
        omega

theorem isWhole_toDigits (value : Nat) : IsWhole (Nat.toDigits 10 value) where
  digit := fun _ hdigit => Nat.isDigit_of_mem_toDigits (by decide) (by decide) hdigit
  nonempty := Nat.toDigits_ne_nil
  leading := fun hzero => by
    rw [head?_toDigits value hzero]
    rfl

theorem digitsValue_toDigits (value : Nat) :
    Decimal.digitsValue (Nat.toDigits 10 value) = value :=
  Nat.ofDigitChars_ten_toDigits

theorem toList_toString_int (value : Int) :
    (toString value).toList = signed (decide (value < 0)) (Nat.toDigits 10 value.natAbs) := by
  cases value with
  | ofNat value =>
      rw [Int.toString_eq_repr, Int.repr]
      simp [signed]
  | negSucc value =>
      rw [Int.toString_eq_repr, Int.repr]
      simp [signed, Int.negSucc_lt_zero]

/-- An integer that 64 bits can hold, signed or not. -/
def FitsInteger (value : Int) : Prop :=
  -9223372036854775808 ≤ value ∧ value ≤ 18446744073709551615

theorem wholeToken_toDigits {value : Int} (hfits : FitsInteger value) :
    wholeToken (decide (value < 0)) (Nat.toDigits 10 value.natAbs) = .int value := by
  obtain ⟨hleast, hgreatest⟩ := hfits
  rw [wholeToken, digitsValue_toDigits]
  by_cases hnegative : value < 0
  · have hrange : 0 < value.natAbs ∧ value.natAbs ≤ 9223372036854775808 := by omega
    have hvalue : -(value.natAbs : Int) = value := by omega
    rw [decide_eq_true hnegative, if_pos ⟨rfl, hrange⟩, hvalue]
  · have hrange : value.natAbs ≤ 18446744073709551615 := by omega
    have hvalue : (value.natAbs : Int) = value := by omega
    rw [decide_eq_false hnegative, if_neg (fun hnever => Bool.false_ne_true hnever.1),
      if_pos ⟨Bool.false_ne_true, hrange⟩, hvalue]

theorem scans_int {value : Int} (hfits : FitsInteger value) :
    Scans (toString value).toList [.int value] := by
  have hwhole := isWhole_toDigits value.natAbs
  rw [toList_toString_int]
  refine scans_signed hwhole.nonempty ?_ ?_ ?_
  · exact fun character hcharacter =>
      hwhole.digit character (List.mem_of_mem_head? hcharacter)
  · exact fun character hcharacter =>
      isNumberPart_of_isDigit (hwhole.digit character hcharacter)
  · rw [unsignedToken?_whole hwhole, wholeToken_toDigits hfits]

/-! ## Doubles -/

theorem digit_le_nine (hdigit : character.isDigit = true) : character.toNat - 48 ≤ 9 := by
  obtain ⟨-, hgreatest⟩ := Char.isDigit_iff_toNat.mp hdigit
  have hnine : '9'.toNat = 57 := rfl
  omega

theorem gather_le_length (significand : Nat) (digits : List Char) :
    (gather significand digits).2 ≤ digits.length := by
  induction digits generalizing significand with
  | nil => exact Nat.le_refl 0
  | cons digit rest ih =>
      rw [gather]
      split
      · exact Nat.le_refl _
      · exact Nat.le_succ_of_le (ih _)

/-- Up to nineteen digits fit into 64 bits. -/
theorem gather_of_short (hdigits : ∀ character ∈ digits, character.isDigit = true)
    {significand length : Nat} (hsignificand : significand < 10 ^ length)
    (hlength : length + digits.length ≤ 19) :
    (gather significand digits).2 = 0 ∧
      (gather significand digits).1 < 10 ^ (length + digits.length) := by
  induction digits generalizing significand length with
  | nil => exact ⟨rfl, hsignificand⟩
  | cons digit rest ih =>
      rw [List.forall_mem_cons] at hdigits
      rw [List.length_cons] at hlength ⊢
      have hdigit := digit_le_nine hdigits.1
      have hnext : 10 * significand + (digit.toNat - 48) < 10 ^ (length + 1) := by
        rw [Nat.pow_succ]
        omega
      have hbound : 10 ^ (length + 1) ≤ 10 ^ 19 := Nat.pow_le_pow_right (by decide) (by omega)
      have hfits : ¬ 18446744073709551615 < 10 * significand + (digit.toNat - 48) := by omega
      rw [gather, if_neg hfits]
      have hrest := ih hdigits.2 hnext (by omega)
      rwa [Nat.add_assoc, Nat.add_comm 1] at hrest

/-- Dividing never leads out of the range of doubles. -/
theorem exists_scale {exponent : Int} (hexponent : exponent < 0) (significand : Float) :
    ∃ value, scale significand exponent = some value := by
  have hnegative : ¬ 0 ≤ exponent := by omega
  rw [scale, if_neg hnegative, if_neg hnegative]
  split
  · exact ⟨_, rfl⟩
  · split <;> exact ⟨_, rfl⟩

/-- A number that is not above its last digit is in the range of doubles. -/
theorem exists_floatToken (negative : Bool)
    (hwhole : ∀ character ∈ whole, character.isDigit = true) (hlength : whole.length ≤ 16)
    (hplaces : ∀ character ∈ places, character.isDigit = true) {exponent : Int}
    (hexponent : exponent < 0 ∨ (exponent ≤ 0 ∧ places ≠ [])) :
    ∃ value, floatToken negative whole places exponent = .float value := by
  obtain ⟨hdropped, hlead⟩ := gather_of_short hwhole (by decide : 0 < 10 ^ 0) (by omega)
  rw [Nat.zero_add] at hlead
  have hnegative : (((gather 0 whole).2 : Int) + (gather (gather 0 whole).1 places).2 -
      places.length) + exponent < 0 := by
    have hle := gather_le_length (gather 0 whole).1 places
    rcases hexponent with hexponent | ⟨hexponent, hnonempty⟩
    · omega
    · obtain ⟨digit, rest, rfl⟩ := List.exists_cons_of_ne_nil hnonempty
      have hdigit := digit_le_nine (List.forall_mem_cons.mp hplaces).1
      have hbound : 10 ^ whole.length ≤ 10 ^ 16 := Nat.pow_le_pow_right (by decide) hlength
      have hfits : ¬ 18446744073709551615 < 10 * (gather 0 whole).1 + (digit.toNat - 48) := by
        omega
      have hrest := gather_le_length (10 * (gather 0 whole).1 + (digit.toNat - 48)) rest
      rw [gather, if_neg hfits, List.length_cons]
      omega
  obtain ⟨value, hvalue⟩ := exists_scale hnegative
    (gather (gather 0 whole).1 places).1.toUInt64.toFloat
  rw [floatToken]
  simp only [hvalue]
  exact ⟨_, rfl⟩

/-- A text that is read as a double, with a minus before it or not. -/
structure IsDouble (body : List Char) : Prop where
  nonempty : body ≠ []
  first : ∀ character ∈ body.head?, character.isDigit = true
  part : ∀ character ∈ body, isNumberPart character = true
  token : ∀ negative, ∃ value, unsignedToken? negative body = some (.float value)

theorem IsDouble.scans {body : List Char} (hbody : IsDouble body) (negative : Bool) :
    ∃ value, Scans (signed negative body) [.float value] := by
  obtain ⟨value, hvalue⟩ := hbody.token negative
  exact ⟨value, scans_signed hbody.nonempty hbody.first hbody.part hvalue⟩

theorem isDouble_of_token {tail : List Char} (hwhole : IsWhole whole)
    (htail : ∀ character ∈ tail, isNumberPart character = true)
    (htoken : ∀ negative, ∃ value, unsignedToken? negative (whole ++ tail) = some (.float value)) :
    IsDouble (whole ++ tail) where
  nonempty := List.append_ne_nil_of_left_ne_nil hwhole.nonempty tail
  first := by
    obtain ⟨digit, others, rfl⟩ := List.exists_cons_of_ne_nil hwhole.nonempty
    rintro character hcharacter
    obtain rfl := Option.some.inj hcharacter
    exact hwhole.digit digit List.mem_cons_self
  part := fun character hcharacter => by
    rcases List.mem_append.mp hcharacter with hdigit | hpart
    · exact isNumberPart_of_isDigit (hwhole.digit character hdigit)
    · exact htail character hpart
  token := htoken

/-- Digits with a point among them. -/
theorem isDouble_places (hwhole : IsWhole whole) (hlength : whole.length ≤ 16)
    (hplaces : ∀ character ∈ places, character.isDigit = true) (hnonempty : places ≠ []) :
    IsDouble (whole ++ '.' :: places) := by
  refine isDouble_of_token hwhole ?_ fun negative => ?_
  · rintro character (_ | ⟨_, hdigit⟩)
    · rfl
    · exact isNumberPart_of_isDigit (hplaces character hdigit)
  · have htoken : unsignedToken? negative (whole ++ '.' :: (places ++ [])) =
        exponentToken? negative whole places [] :=
      unsignedToken?_places hwhole hplaces hnonempty (by simp)
    rw [List.append_nil] at htoken
    obtain ⟨value, hvalue⟩ := exists_floatToken negative hwhole.digit hlength hplaces
      (.inr ⟨Int.le_refl 0, hnonempty⟩)
    exact ⟨value, htoken.trans (congrArg some hvalue)⟩

theorem toList_toString_negative {power : Int} (hpower : power < 0) :
    (toString power).toList = '-' :: Nat.toDigits 10 power.natAbs := by
  rw [toList_toString_int, decide_eq_true hpower]
  rfl

/-- Digits, with a point among them or not, and a negative exponent. -/
theorem exists_exponentToken (negative : Bool)
    (hwhole : ∀ character ∈ whole, character.isDigit = true) (hlength : whole.length ≤ 16)
    (hplaces : ∀ character ∈ places, character.isDigit = true) {power : Int} (hpower : power < 0) :
    ∃ value, exponentToken? negative whole places ('e' :: (toString power).toList) =
      some (.float value) := by
  have hdigits := isWhole_toDigits power.natAbs
  have hall : (Nat.toDigits 10 power.natAbs).all Char.isDigit = true :=
    List.all_eq_true.mpr hdigits.digit
  have hexponent : boundedExponent true (Nat.toDigits 10 power.natAbs) < 0 := by
    rw [boundedExponent, digitsValue_toDigits]
    simp only [if_true]
    omega
  obtain ⟨value, hvalue⟩ := exists_floatToken negative hwhole hlength hplaces (.inl hexponent)
  refine ⟨value, ?_⟩
  rw [toList_toString_negative hpower, exponentToken?, Decimal.readExponent]
  simp only [Decimal.splitSign, hall, hvalue, List.isEmpty_iff, hdigits.nonempty]
  simp

theorem isNumberPart_power {power : Int} (hpower : power < 0) :
    ∀ character ∈ 'e' :: (toString power).toList, isNumberPart character = true := by
  rw [toList_toString_negative hpower]
  simp only [List.mem_cons]
  rintro character (rfl | rfl | hdigit)
  · rfl
  · rfl
  · exact isNumberPart_of_isDigit ((isWhole_toDigits power.natAbs).digit character hdigit)

/-- Digits with a negative exponent. -/
theorem isDouble_exponent (hwhole : IsWhole whole) (hlength : whole.length ≤ 16) {power : Int}
    (hpower : power < 0) : IsDouble (whole ++ 'e' :: (toString power).toList) := by
  refine isDouble_of_token hwhole (isNumberPart_power hpower) fun negative => ?_
  obtain ⟨value, hvalue⟩ := exists_exponentToken negative hwhole.digit hlength
    (List.forall_mem_nil _) hpower
  exact ⟨value, (unsignedToken?_exponent hwhole _).trans hvalue⟩

/-- Digits with a point among them and a negative exponent. -/
theorem isDouble_places_exponent (hwhole : IsWhole whole) (hlength : whole.length ≤ 16)
    (hplaces : ∀ character ∈ places, character.isDigit = true) (hnonempty : places ≠ [])
    {power : Int} (hpower : power < 0) :
    IsDouble (whole ++ '.' :: (places ++ 'e' :: (toString power).toList)) := by
  refine isDouble_of_token hwhole ?_ fun negative => ?_
  · rintro character (_ | ⟨_, hcharacter⟩)
    · rfl
    · rcases List.mem_append.mp hcharacter with hdigit | hpart
      · exact isNumberPart_of_isDigit (hplaces character hdigit)
      · exact isNumberPart_power hpower character hpart
  · obtain ⟨value, hvalue⟩ := exists_exponentToken negative hwhole.digit hlength hplaces hpower
    refine ⟨value, (unsignedToken?_places hwhole hplaces hnonempty ?_).trans hvalue⟩
    rintro character hcharacter
    obtain rfl := Option.some.inj hcharacter
    rfl

theorem isDigit_of_mem_replicate {count : Nat} :
    ∀ character ∈ List.replicate count '0', character.isDigit = true := by
  intro character hcharacter
  rw [List.eq_of_mem_replicate hcharacter]
  rfl

/-- Zeros may follow the digits of every number but zero. -/
theorem isWhole_append_zeros {number count : Nat} (hzeros : 0 < count → number ≠ 0) :
    IsWhole (Nat.toDigits 10 number ++ List.replicate count '0') where
  digit := fun character hcharacter => by
    rcases List.mem_append.mp hcharacter with hdigit | hzero
    · exact (isWhole_toDigits number).digit character hdigit
    · exact isDigit_of_mem_replicate character hzero
  nonempty := List.append_ne_nil_of_left_ne_nil Nat.toDigits_ne_nil _
  leading := fun hhead => by
    rw [List.head?_append_of_ne_nil _ Nat.toDigits_ne_nil] at hhead
    have hnumber := head?_toDigits number hhead
    have hcount : count = 0 := by
      by_contra hcount
      exact hzeros (Nat.pos_of_ne_zero hcount) hnumber
    rw [hnumber, hcount]
    rfl

/-- The first digits of a number with more of them. -/
theorem isWhole_take {number count : Nat} (hpositive : 0 < count)
    (hcount : count < (Nat.toDigits 10 number).length) :
    IsWhole ((Nat.toDigits 10 number).take count) where
  digit := fun character hcharacter =>
    (isWhole_toDigits number).digit character (List.mem_of_mem_take hcharacter)
  nonempty := by
    simp only [ne_eq, List.take_eq_nil_iff, not_or]
    exact ⟨Nat.ne_of_gt hpositive, Nat.toDigits_ne_nil⟩
  leading := fun hhead => by
    rw [List.head?_take, if_neg (Nat.ne_of_gt hpositive)] at hhead
    rw [head?_toDigits number hhead] at hcount
    have hlength : (Nat.toDigits 10 0).length = 1 := rfl
    omega

/-- The shortest decimal of a number below two is read as a double. -/
theorem scans_render {value : Float} (hscale : Decimal.scaleOf value ≤ 1023) :
    ∃ reread, Scans (numberStyle.render value).toList [.float reread] := by
  obtain ⟨hpoint, hnonzero⟩ := Decimal.shortest_isShort hscale
  unfold Decimal.Style.render
  extract_lets decimal digits point lead body
  have hdigits : IsWhole digits := isWhole_toDigits decimal.digits
  have hplaces (count : Nat) : ∀ character ∈ digits.drop count, character.isDigit = true :=
    fun character hcharacter => hdigits.digit character (List.mem_of_mem_drop hcharacter)
  have hlength : 0 < digits.length := List.length_pos_iff.mpr hdigits.nonempty
  have hbody : IsDouble body.toList := by
    change point ≤ 16 at hpoint
    change 0 < decimal.exponent → decimal.digits ≠ 0 at hnonzero
    have hpoint_eq : point = (digits.length : Int) + decimal.exponent := rfl
    have hmost : numberStyle.most = 16 := rfl
    have hleast : numberStyle.least = -5 := rfl
    simp only [body, hmost, hleast, Decimal.withPoint, Decimal.zeros]
    split
    · next hwhole =>
      -- a whole number, filled up with zeros
      have hfilled : IsWhole (digits ++ List.replicate decimal.exponent.toNat '0') :=
        isWhole_append_zeros fun hcount => hnonzero (by omega)
      have hshort : (digits ++ List.replicate decimal.exponent.toNat '0').length ≤ 16 := by
        rw [List.length_append, List.length_replicate]
        omega
      have hzero : ∀ character ∈ ['0'], character.isDigit = true :=
        List.forall_mem_singleton.mpr rfl
      have hnumber := isDouble_places hfilled hshort hzero (List.cons_ne_nil _ _)
      simpa using hnumber
    · split
      · next hfraction hwithin =>
        -- the point stands among the digits
        have hcount : point.toNat < digits.length := by omega
        have htaken : IsWhole (digits.take point.toNat) := isWhole_take (by omega) hcount
        have hshort : (digits.take point.toNat).length ≤ 16 := by
          rw [List.length_take]
          omega
        have hnonempty := mt List.drop_eq_nil_iff.mp (Nat.not_le.mpr hcount)
        have hnumber := isDouble_places htaken hshort (hplaces _) hnonempty
        simpa using hnumber
      · split
        · -- the digits stand after the point and some zeros
          have hshort : (Nat.toDigits 10 0).length ≤ 16 := by decide
          have hall : ∀ character ∈ List.replicate (-point).toNat '0' ++ digits,
              character.isDigit = true := by
            intro character hcharacter
            rcases List.mem_append.mp hcharacter with hzero | hdigit
            · exact isDigit_of_mem_replicate character hzero
            · exact hdigits.digit character hdigit
          have hnumber := isDouble_places (isWhole_toDigits 0) hshort hall
            (List.append_ne_nil_of_right_ne_nil _ hdigits.nonempty)
          simpa using hnumber
        · -- a power of ten follows the digits
          have hpower : point - 1 < 0 := by omega
          simp only [lead, Decimal.withPoint]
          split
          · next hsingle =>
            have hnumber := isDouble_exponent hdigits (by omega) hpower
            simpa using hnumber
          · next hmany =>
            have hcount : 1 < digits.length := by omega
            have hshort : (digits.take 1).length ≤ 16 := by
              rw [List.length_take]
              omega
            have hnumber := isDouble_places_exponent (isWhole_take Nat.one_pos hcount) hshort
              (hplaces 1) (mt List.drop_eq_nil_iff.mp (Nat.not_le.mpr hcount)) hpower
            simpa using hnumber
  obtain ⟨reread, hreread⟩ := hbody.scans (Decimal.isNegative value)
  refine ⟨reread, ?_⟩
  split
  · next hnegative => simpa [hnegative, signed] using hreread
  · next hpositive => simpa [hpositive, signed] using hreread

end ProviderRouting.Json
