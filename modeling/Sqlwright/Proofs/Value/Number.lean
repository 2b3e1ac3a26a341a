import Mathlib
import Sqlwright.Value.Integer

/-! The numbers that values stand for, and what is read of them as integers. A floating point number
stands for its significand times a power of two, a decimal for its mantissa over a power of ten, and
a text for the numeral in it. An integer is read as it is, if there is one to read; but a whole
floating point number beyond the range is read as an end of the range, and of a decimal the part
before the point. -/
namespace Sqlwright

theorem castTwoTo (n : Nat) : (twoTo n : ℚ) = 2 ^ n := by
  rw [twoTo, Nat.pow_eq, Nat.cast_pow, Nat.cast_ofNat]

namespace Binary64

def rational? (x : Binary64) : Option ℚ :=
  match x.parts with
  | .finite negative significand exponent => some (signed negative significand * 2 ^ exponent)
  | _ => none

theorem signedScaled (negative : Bool) (magnitude factor : Nat) :
    signed negative (magnitude * factor) = signed negative magnitude * factor := by
  cases negative <;> simp [signed]

theorem signedSize (negative : Bool) (magnitude : Nat) :
    (signed negative magnitude).natAbs = magnitude := by
  cases negative <;> simp [signed]

theorem halvedIff {number n : Int} {scale : Nat} :
    (number : ℚ) * 2 ^ Int.negSucc scale = n ↔ number = n * twoTo (scale + 1) := by
  have positive : (2 : ℚ) ^ (scale + 1) ≠ 0 := by positivity
  rw [zpow_negSucc, ← div_eq_mul_inv, div_eq_iff positive, ← castTwoTo]
  exact_mod_cast Iff.rfl

theorem integerIff {x : Binary64} {n : Int} :
    x.integer? = some n ↔ x.rational? = some (n : ℚ) := by
  unfold integer? rational?
  cases x.parts with
  | nan => simp
  | infinite negative => simp
  | finite negative significand exponent =>
    cases exponent with
    | ofNat scale =>
      have whole : (signed negative significand : ℚ) * 2 ^ (Int.ofNat scale) =
          ((signed negative (significand * twoTo scale) : Int) : ℚ) := by
        rw [signedScaled, Int.cast_mul, Int.cast_natCast, castTwoTo]
        simp
      simp only [whole, Option.some.injEq, Int.cast_inj]
    | negSucc scale =>
      have positive : (twoTo (scale + 1) : Int) ≠ 0 := by
        exact_mod_cast (twoToPositive (scale + 1)).ne'
      simp only [Option.some.injEq, halvedIff]
      split
      · rename_i even
        obtain ⟨half, rfl⟩ := Nat.dvd_of_mod_eq_zero even
        rw [Nat.mul_div_cancel_left half (twoToPositive _), Nat.mul_comm, signedScaled,
          Int.mul_eq_mul_right_iff positive, Option.some.injEq]
      · rename_i odd
        refine iff_of_false (by simp) fun scaled => odd (Nat.mod_eq_zero_of_dvd ?_)
        refine ⟨n.natAbs, ?_⟩
        rw [← signedSize negative significand, scaled, Int.natAbs_mul, Int.natAbs_natCast,
          Nat.mul_comm]

end Binary64

def wholePart (number : ℚ) : Int := number.num.tdiv number.den

theorem wholePartOfInt (n : Int) : wholePart n = n := by simp [wholePart]

namespace Decimal

def rational (d : Decimal) : ℚ := d.mantissa / 10 ^ d.scale

theorem truncatedIs (d : Decimal) : d.truncated = wholePart d.rational := by
  have positive : (tenTo d.scale : Int) ≠ 0 := by exact_mod_cast (tenToPositive d.scale).ne'
  have own : d.rational = (d.mantissa : ℚ) / ((tenTo d.scale : Int) : ℚ) := by
    simp [Decimal.rational, tenTo]
  obtain ⟨common, top, bottom⟩ :=
    Rat.exists_eq_mul_div_num_and_eq_mul_div_den d.mantissa positive
  rw [← own] at top bottom
  have above : 0 < common := by
    have product : 0 < common * (d.rational.den : Int) := by
      rw [← bottom]
      exact_mod_cast tenToPositive d.scale
    exact pos_of_mul_pos_left product (by positivity)
  calc d.truncated = d.mantissa.tdiv (tenTo d.scale) := rfl
    _ = (common * d.rational.num).tdiv (common * d.rational.den) := by rw [← top, ← bottom]
    _ = wholePart d.rational := Int.mul_tdiv_mul_of_pos _ _ above

end Decimal

namespace Numeral

def unsigned? (text : List Char) : Option ℚ :=
  let digits := text.erase '.'
  let places := (text.dropWhile (· ≠ '.')).tail.length
  if digits.isEmpty || !digits.all Char.isDigit then none
  else some (Nat.ofDigitChars 10 digits 0 / 10 ^ places)

def rational? : List Char → Option ℚ
  | '-' :: text => (unsigned? text).map (- ·)
  | '+' :: text => unsigned? text
  | text => unsigned? text

theorem unsignedPointless {text : List Char} (pointless : '.' ∉ text) :
    unsigned? text = (Integer.digitsValue? text).map fun n : Nat => (n : ℚ) := by
  have places : text.dropWhile (· ≠ '.') = [] := by
    rw [List.dropWhile_eq_nil_iff]
    intro c member
    have other : c ≠ '.' := fun same => pointless (same ▸ member)
    simpa using other
  rw [unsigned?, List.erase_of_not_mem pointless, places, Integer.digitsValue?]
  split <;> simp [Nat.ofDigitChars]

theorem rationalPointless {text : List Char} (pointless : '.' ∉ text) :
    rational? text = (Integer.parse? text).map fun n : Int => (n : ℚ) := by
  cases text with
  | nil => rfl
  | cons c rest =>
    have later : '.' ∉ rest := fun member => pointless (List.mem_cons_of_mem _ member)
    by_cases minus : c = '-'
    · rw [minus, rational?, Integer.parse?, unsignedPointless later]
      cases Integer.digitsValue? rest <;> simp
    · by_cases plus : c = '+'
      · rw [plus, rational?, Integer.parse?, unsignedPointless later]
        cases Integer.digitsValue? rest <;> simp
      · have unsigned : rational? (c :: rest) = unsigned? (c :: rest) := by
          simp [rational?, minus, plus]
        have read : Integer.parse? (c :: rest) =
            (Integer.digitsValue? (c :: rest)).map Int.ofNat := by
          simp [Integer.parse?, minus, plus]
        rw [unsigned, read, unsignedPointless pointless]
        cases Integer.digitsValue? (c :: rest) <;> simp

theorem digitsPointless {text : List Char} (digits : Integer.digitsValue? text ≠ none) :
    '.' ∉ text := by
  rintro member
  refine digits (if_pos ?_)
  have other : text.all Char.isDigit = false :=
    List.all_eq_false.mpr ⟨'.', member, by decide⟩
  rw [other, Bool.not_false, Bool.or_true]

theorem parsedPointless {text : List Char} {n : Int} (parsed : Integer.parse? text = some n) :
    '.' ∉ text := by
  unfold Integer.parse? at parsed
  split at parsed
  · rename_i digits
    have pointless : '.' ∉ digits := digitsPointless fun none => by simp [none] at parsed
    simpa using pointless
  · rename_i digits
    have pointless : '.' ∉ digits := digitsPointless fun none => by simp [none] at parsed
    simpa using pointless
  · exact digitsPointless fun none => by simp [none] at parsed

end Numeral

namespace Integer

def Fits (number : ℚ) : Prop := number.den = 1 ∧ least ≤ number.num ∧ number.num ≤ greatest

instance (number : ℚ) : Decidable (Fits number) := inferInstanceAs (Decidable (_ ∧ _))

theorem toIntInRange {n : Int} (low : least ≤ n) (high : n ≤ greatest) :
    (Int64.ofInt n).toInt = n := by
  have ends : least = -2 ^ 63 ∧ greatest = 2 ^ 63 - 1 := ⟨rfl, rfl⟩
  exact Int64.toInt_ofInt_of_le (by omega) (by omega)

theorem fitsIff {number : ℚ} : Fits number ↔ ∃ n : Int64, number = n.toInt := by
  constructor
  · rintro ⟨whole, low, high⟩
    exact ⟨Int64.ofInt number.num, by rw [toIntInRange low high, (Rat.den_eq_one_iff _).mp whole]⟩
  · rintro ⟨n, rfl⟩
    have ends : least = -2 ^ 63 ∧ greatest = 2 ^ 63 - 1 := ⟨rfl, rfl⟩
    have bounds := And.intro n.le_toInt n.toInt_lt
    rw [Fits, Rat.num_intCast, Rat.den_intCast]
    exact ⟨rfl, by omega, by omega⟩

theorem fitsInt {n : Int} : Fits n ↔ least ≤ n ∧ n ≤ greatest := by
  rw [Fits, Rat.num_intCast, Rat.den_intCast]
  exact and_iff_right rfl

theorem clampInside {n : Int} (low : least ≤ n) (high : n ≤ greatest) : clamp n = n := by
  rw [clamp, min_eq_right high, max_eq_right low]

theorem ofIntIff {number : Int} {n : Int64} : ofInt? number = some n ↔ number = n.toInt := by
  unfold ofInt?
  constructor
  · intro read
    split at read
    · rename_i range
      rw [← Option.some.inj read, toIntInRange range.1 range.2]
    · cases read
  · rintro rfl
    obtain ⟨-, low, high⟩ := fitsIff.mpr ⟨n, rfl⟩
    rw [Rat.num_intCast] at low high
    rw [if_pos ⟨low, high⟩, Int64.ofInt_toInt]

end Integer

namespace Value

def rational? : Value → Option ℚ
  | .int value => some value.toInt
  | .float value => value.rational?
  | .string value => Numeral.rational? (Text.trim value.toList)
  | .decimal value => some value.rational
  | _ => none

/-- Whether an integer is read that is not the number. -/
def Bends : Value → ℚ → Prop
  | .float _, number => number.den = 1 ∧ ¬ Integer.Fits number
  | .decimal _, number => number.den ≠ 1 ∧ Integer.Fits (wholePart number)
  | _, _ => False

inductive Reads (value : Value) (number : ℚ) : Prop
  | exact (n : Int64) (straight : ¬ value.Bends number) (same : number = n.toInt)
      (read : value.integer? = some n)
  | bent (bends : value.Bends number) (unfit : ¬ Integer.Fits number)
      (read : value.integer? = some (Int64.ofInt (Integer.clamp (wholePart number))))
  | refused (straight : ¬ value.Bends number) (read : value.integer? = none)
      (pointed : Integer.Fits number → ∃ text, value = .string text ∧ '.' ∈ text.toList)

theorem readsInt (n : Int64) : (Value.int n).Reads n.toInt := .exact n not_false rfl rfl

theorem readsFloat {x : Binary64} {number : ℚ} (denotes : x.rational? = some number) :
    (Value.float x).Reads number := by
  by_cases whole : number.den = 1
  · have own : (number.num : ℚ) = number := (Rat.den_eq_one_iff _).mp whole
    have read : (Value.float x).integer? = some (Int64.ofInt (Integer.clamp number.num)) := by
      rw [integer?, Binary64.integerIff.mpr (denotes.trans (congrArg some own.symm))]
      rfl
    by_cases fits : Integer.Fits number
    · have range := fits.2
      rw [Integer.clampInside range.1 range.2] at read
      refine .exact _ (fun bends => bends.2 fits) ?_ read
      rw [Integer.toIntInRange range.1 range.2, own]
    · refine .bent ⟨whole, fits⟩ fits ?_
      rwa [← own, wholePartOfInt]
  · have none : x.integer? = none := by
      refine Option.eq_none_iff_forall_ne_some.mpr fun n read => whole ?_
      have same := denotes.symm.trans (Binary64.integerIff.mp read)
      rw [Option.some.inj same, Rat.den_intCast]
    refine .refused (fun bends => whole bends.1) ?_ (fun fits => absurd fits.1 whole)
    rw [integer?, none]
    rfl

theorem readsString {text : String} {number : ℚ}
    (denotes : Numeral.rational? (Text.trim text.toList) = some number) :
    (Value.string text).Reads number := by
  cases read : (Value.string text).integer? with
  | some n =>
    obtain ⟨parsed, found, inside⟩ := Option.bind_eq_some_iff.mp read
    have same := Numeral.rationalPointless (Numeral.parsedPointless found)
    rw [found, denotes, Integer.ofIntIff.mp inside] at same
    exact .exact n not_false (Option.some.inj same) read
  | none =>
    refine .refused not_false read fun fits => ⟨text, rfl, ?_⟩
    obtain ⟨n, rfl⟩ := Integer.fitsIff.mp fits
    by_contra absent
    have pointless : '.' ∉ Text.trim text.toList := fun member => absent (Text.trimSubset _ member)
    rw [Numeral.rationalPointless pointless] at denotes
    obtain ⟨parsed, found, same⟩ := Option.map_eq_some_iff.mp denotes
    have taken : (Value.string text).integer? = some n := by
      rw [integer?, found, Option.bind_some, Integer.ofIntIff]
      exact_mod_cast same
    cases read.symm.trans taken

theorem readsDecimal (d : Decimal) : (Value.decimal d).Reads d.rational := by
  have read : (Value.decimal d).integer? = Integer.ofInt? (wholePart d.rational) := by
    rw [integer?, Decimal.truncatedIs]
  by_cases fits : Integer.Fits d.rational
  · obtain ⟨n, same⟩ := Integer.fitsIff.mp fits
    refine .exact n (fun bends => bends.1 fits.1) same ?_
    rw [read, same, wholePartOfInt, Integer.ofIntIff]
  · by_cases part : Integer.Fits (wholePart d.rational)
    · have broken : d.rational.den ≠ 1 := by
        intro whole
        have own : d.rational = (d.rational.num : ℚ) := ((Rat.den_eq_one_iff _).mp whole).symm
        rw [own, wholePartOfInt, ← own] at part
        exact fits part
      obtain ⟨low, high⟩ := Integer.fitsInt.mp part
      refine .bent ⟨broken, part⟩ fits ?_
      rw [read, Integer.clampInside low high, Integer.ofInt?, if_pos ⟨low, high⟩]
    · refine .refused (fun bends => part bends.2) ?_ (fun whole => absurd whole fits)
      rw [read, Integer.ofInt?, if_neg (fun range => part (Integer.fitsInt.mpr range))]

theorem reads {value : Value} {number : ℚ} (denotes : value.rational? = some number) :
    value.Reads number := by
  cases value with
  | int n => exact Option.some.inj denotes ▸ readsInt n
  | float x => exact readsFloat denotes
  | string text => exact readsString denotes
  | decimal d => exact Option.some.inj denotes ▸ readsDecimal d
  | _ => cases denotes

theorem unread {value : Value} (numberless : value.rational? = none) : value.integer? = none := by
  cases value with
  | int n => cases numberless
  | float x =>
    have none : x.integer? = none := by
      refine Option.eq_none_iff_forall_ne_some.mpr fun n read => ?_
      cases numberless.symm.trans (Binary64.integerIff.mp read)
    rw [integer?, none]
    rfl
  | string text =>
    have none : Integer.parse? (Text.trim text.toList) = none := by
      refine Option.eq_none_iff_forall_ne_some.mpr fun n read => ?_
      have same := Numeral.rationalPointless (Numeral.parsedPointless read)
      rw [read] at same
      cases numberless.symm.trans same
    rw [integer?, none]
    rfl
  | decimal d => cases numberless
  | _ => rfl

theorem integerDenotes {value : Value} {n : Int64} (read : value.integer? = some n) :
    ∃ number, value.rational? = some number ∧ (¬ value.Bends number → number = n.toInt) := by
  cases denotes : value.rational? with
  | none => cases (unread denotes).symm.trans read
  | some number =>
    refine ⟨number, rfl, fun straight => ?_⟩
    cases reads denotes with
    | exact own _ same found =>
      cases Option.some.inj (found.symm.trans read)
      exact same
    | bent bends => exact absurd bends straight
    | refused _ none => cases none.symm.trans read

theorem unfitUnread {value : Value} {number : ℚ} (denotes : value.rational? = some number)
    (unfit : ¬ Integer.Fits number) (straight : ¬ value.Bends number) : value.integer? = none := by
  cases reads denotes with
  | exact n _ same => exact absurd (Integer.fitsIff.mpr ⟨n, same⟩) unfit
  | bent bends => exact absurd bends straight
  | refused _ read => exact read

theorem bentRead {value : Value} {number : ℚ} (denotes : value.rational? = some number)
    (bends : value.Bends number) : ¬ Integer.Fits number ∧
      value.integer? = some (Int64.ofInt (Integer.clamp (wholePart number))) := by
  cases reads denotes with
  | exact _ straight => exact absurd bends straight
  | bent _ unfit read => exact ⟨unfit, read⟩
  | refused straight => exact absurd bends straight

theorem wholeRead {value : Value} {n : Int64} (denotes : value.rational? = some (n.toInt : ℚ)) :
    value.integer? = some n ∨ ∃ text, value = .string text ∧ '.' ∈ text.toList := by
  have fits : Integer.Fits n.toInt := Integer.fitsIff.mpr ⟨n, rfl⟩
  cases reads denotes with
  | exact own _ same read =>
    rw [Int64.toInt_inj.mp (Int.cast_injective same)]
    exact .inl read
  | bent _ unfit => exact absurd fits unfit
  | refused _ _ pointed => exact .inr (pointed fits)

end Value

end Sqlwright
