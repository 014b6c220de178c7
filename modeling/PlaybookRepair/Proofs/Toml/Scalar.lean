import Mathlib.Tactic.Common
import PlaybookRepair.Proofs.Path
import PlaybookRepair.Toml.Scalar

/-!
# Scalars read back

The decimal numeral of a natural number is read as that number, up to the greatest that fits. Its
characters are digits, so it is none of the names and moments that are tried first, and it starts
with a zero only if it is zero.
-/

namespace PlaybookRepair

namespace Numeral

variable {n : Nat}

theorem digitValue?_digitChar : ∀ n < 10, digitValue? 10 n.digitChar = some n := by decide

theorem natOfDigits?_toDigits (n : Nat) : natOfDigits? 10 (Nat.toDigits 10 n) = some n := by
  have reads : (Nat.toDigits 10 n).foldlM
      (fun value c => (digitValue? 10 c).map (value * 10 + ·)) 0 = some n := by
    induction n using Nat.strong_induction_on with
    | _ n ih =>
      rw [Nat.toDigits_eq_if (by decide)]
      split_ifs with small
      · simp [digitValue?_digitChar n small]
      · rw [List.foldlM_append, ih (n / 10) (by omega)]
        simpa [digitValue?_digitChar (n % 10) (by omega)] using Nat.div_add_mod' n 10
  unfold natOfDigits?
  split
  · next empty => simp at empty
  · exact reads

/-- Only the numeral of zero starts with a zero. -/
theorem toDigits_eq_zero (starts : (Nat.toDigits 10 n).head? = some '0') :
    Nat.toDigits 10 n = ['0'] := by
  induction n using Nat.strong_induction_on with
  | _ n ih =>
    rw [Nat.toDigits_eq_if (by decide)] at starts ⊢
    split_ifs at starts ⊢ with small
    · rw [Option.some.inj starts]
    · rw [List.head?_append_of_ne_nil _ Nat.toDigits_ne_nil] at starts
      have zero := natOfDigits?_toDigits (n / 10)
      rw [ih (n / 10) (by omega) starts] at zero
      have : 0 = n / 10 := Option.some.inj zero
      omega

end Numeral

namespace Toml.Scalar

variable {text : Text} {n : Nat}

theorem all_isDigit_ofNat (n : Nat) : ∀ c ∈ Text.ofNat n, c.isDigit := fun _ member =>
  Nat.isDigit_of_mem_toDigits (by decide) (by decide) member

theorem not_mem_of_digits {mark : Char} (digits : ∀ c ∈ text, c.isDigit)
    (noDigit : mark.isDigit = false) : mark ∉ text := fun member => by
  rw [digits mark member] at noDigit
  exact Bool.noConfusion noDigit

theorem ne_of_digits {other : Text} (digits : ∀ c ∈ text, c.isDigit)
    (noDigits : other.all Char.isDigit = false) : text ≠ other := by
  rintro rfl
  rw [List.all_eq_true.mpr digits] at noDigits
  exact Bool.noConfusion noDigits

theorem splitSign_digits (digits : ∀ c ∈ text, c.isDigit) :
    Numeral.splitSign text = (false, text) := by
  unfold Numeral.splitSign
  split
  · exact absurd List.mem_cons_self (not_mem_of_digits digits rfl)
  · exact absurd List.mem_cons_self (not_mem_of_digits digits rfl)
  · rfl

theorem isNamedNumber_digits (digits : ∀ c ∈ text, c.isDigit) : isNamedNumber text = false := by
  have noInfinity : text ≠ "inf".toList := ne_of_digits digits rfl
  have noNan : text ≠ "nan".toList := ne_of_digits digits rfl
  simp only [isNamedNumber, splitSign_digits digits, noInfinity, noNan, decide_false, Bool.or_false]

theorem isDate_digits (digits : ∀ c ∈ text, c.isDigit) : isDate text = false := by
  rw [isDate, Text.pieces_unmarked (not_mem_of_digits digits rfl)]

theorem isMoment_digits (digits : ∀ c ∈ text, c.isDigit) : isMoment text = false := by
  have isTime : isTime text = false := by
    rw [isTime, Text.pieces_unmarked (not_mem_of_digits digits rfl)]
  have front : isDate (text.take dateLength) = false :=
    isDate_digits fun c member => digits c (List.mem_of_mem_take member)
  rw [isMoment, isDate_digits digits, isTime, front]
  rfl

theorem ungrouped?_digits (digits : ∀ c ∈ text, c.isDigit) (notNil : text ≠ []) :
    ungrouped? Char.isDigit text = some text := by
  have isDigits : text.all Char.isDigit := List.all_eq_true.mpr digits
  rw [ungrouped?, Text.pieces_unmarked (not_mem_of_digits digits rfl)]
  simp only [List.all_cons, List.isEmpty_eq_false_iff.mpr notNil, isDigits, List.all_nil,
    List.flatten_cons, List.flatten_nil, List.append_nil]
  rfl

theorem integer?_ofNat (n : Nat) : integer? (Text.ofNat n) = some (n : Int) := by
  have digits := all_isDigit_ofNat n
  have plain : decimalDigits? (Text.ofNat n) = some (Text.ofNat n) := by
    rw [decimalDigits?, if_neg, ungrouped?_digits digits Nat.toDigits_ne_nil]
    simp only [Bool.and_eq_true, decide_eq_true_eq, not_and]
    exact fun starts other => other (Numeral.toDigits_eq_zero starts)
  have noBase : ∀ mark, mark.isDigit = false → ∀ later, Text.ofNat n ≠ '0' :: mark :: later := by
    intro mark noDigit later based
    refine not_mem_of_digits digits noDigit ?_
    rw [based]
    exact List.mem_cons_of_mem _ List.mem_cons_self
  unfold integer?
  split
  case h_4 =>
    rw [splitSign_digits digits]
    change ((decimalDigits? (Text.ofNat n)).bind (Numeral.natOfDigits? 10)).map (signed false) = _
    rw [plain, Option.bind_some, Text.ofNat, Numeral.natOfDigits?_toDigits]
    rfl
  case h_1 later based => exact absurd based (noBase 'x' rfl later)
  case h_2 later based => exact absurd based (noBase 'o' rfl later)
  case h_3 later based => exact absurd based (noBase 'b' rfl later)

/-- The numeral of a natural number is read as that number. -/
theorem value_ofNat (small : n < 2 ^ 128) : value (Text.ofNat n) = .ok (.integer n) := by
  have digits := all_isDigit_ofNat n
  have least : (-(Int.pow 2 127) : Int) ≤ n := by
    have : (-(Int.pow 2 127) : Int) ≤ 0 := by decide
    omega
  have greatest : (n : Int) < Int.pow 2 128 := Int.ofNat_lt.mpr small
  have inRange : isIntegerInRange n := by
    simp only [isIntegerInRange, least, greatest, decide_true, Bool.and_self]
  rw [value, if_neg (ne_of_digits digits rfl), if_neg (ne_of_digits digits rfl),
    isNamedNumber_digits digits, isMoment_digits digits, integer?_ofNat]
  simp only [inRange]
  rfl

/-- A scalar ends where the line does. -/
theorem read_line (areScalar : ∀ c ∈ text, isScalarChar c) (rest : Text) :
    read (text ++ '\n' :: rest) = (value text).map fun value => (value, '\n' :: rest) := by
  have first : (text ++ '\n' :: rest).takeWhile isScalarChar = text := by
    rw [List.takeWhile_append_of_pos areScalar, List.takeWhile_cons_of_neg (by decide),
      List.append_nil]
  simp only [read, first, List.drop_left]
  rfl

theorem read_ofNat (small : n < 2 ^ 128) (rest : Text) :
    read (Text.ofNat n ++ '\n' :: rest) = .ok (.integer n, '\n' :: rest) := by
  have areScalar : ∀ c ∈ Text.ofNat n, isScalarChar c := fun c member => by
    rw [isScalarChar, Char.isAlphanum, all_isDigit_ofNat n c member, Bool.or_true, Bool.true_or]
  rw [read_line areScalar, value_ofNat small]
  rfl

end Toml.Scalar

end PlaybookRepair
