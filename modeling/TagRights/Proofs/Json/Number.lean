import Mathlib.Data.List.TakeWhile
import TagRights.Json.Number
import TagRights.Json.Text

namespace TagRights.Json

theorem isDigit_of_mem_toDigits {n : Nat} {c : Char} (h : c ∈ Nat.toDigits 10 n) : c.isDigit :=
  Nat.isDigit_of_mem_toDigits (by decide) (by decide) h

/-- Only zero begins with a zero. -/
theorem head?_toDigits_ne_zero {n : Nat} (h : 0 < n) : (Nat.toDigits 10 n).head? ≠ some '0' := by
  induction n using Nat.strongRecOn with
  | ind n ih =>
    by_cases small : n < 10
    · have digits : ∀ d : Fin 10, 0 < d.val → Nat.digitChar d ≠ '0' := by decide
      rw [Nat.toDigits_of_lt_base small, List.head?_cons, ne_eq, Option.some.injEq]
      exact digits ⟨n, small⟩ h
    · have shorter := ih (n / 10) (by omega) (by omega)
      rw [Nat.toDigits_of_base_le (by decide) (by omega), List.head?_append]
      cases first : (Nat.toDigits 10 (n / 10)).head? with
      | none => exact absurd (List.head?_eq_none_iff.1 first) Nat.toDigits_ne_nil
      | some c =>
        rw [first] at shorter
        exact shorter

/-- A number is written without leading zeros. -/
theorem toDigits_leading (n : Nat) :
    (Nat.toDigits 10 n).length = 1 ∨ (Nat.toDigits 10 n).head? ≠ some '0' := by
  rcases Nat.eq_zero_or_pos n with rfl | positive
  · exact .inl (by rw [Nat.toDigits_zero]; rfl)
  · exact .inr (head?_toDigits_ne_zero positive)

/-- The sign of a number as it is written. -/
def sign (negative : Bool) : List Char :=
  if negative then ['-'] else []

theorem intChars_eq (n : Int) :
    intChars n = sign (decide (n < 0)) ++ Nat.toDigits 10 n.natAbs := by
  by_cases h : n < 0 <;> simp [intChars, sign, h]

namespace NumberText

theorem readSign_sign (negative : Bool) {digits : List Char} (h : ∀ c ∈ digits, c.isDigit) :
    readSign (sign negative ++ digits) = (negative, digits) := by
  cases negative with
  | true => rfl
  | false =>
    cases digits with
    | nil => rfl
    | cons c cs =>
      have digit : c ≠ '-' := by
        rintro rfl
        exact absurd (h '-' List.mem_cons_self) (by decide)
      rw [sign, if_neg Bool.false_ne_true, List.nil_append, readSign]
      intro ds same
      exact digit (List.cons.inj same).1

theorem guard_of_pos {p : Prop} [Decidable p] (h : p) : (guard p : Option Unit) = some () :=
  if_pos h

theorem read?_toDigits (negative : Bool) (n : Nat) :
    read? (sign negative ++ Nat.toDigits 10 n) =
      some ⟨negative, Nat.toDigits 10 n, none, none⟩ := by
  have digits : ∀ c ∈ Nat.toDigits 10 n, c.isDigit := fun _ => isDigit_of_mem_toDigits
  have start := readSign_sign negative digits
  have whole : (Nat.toDigits 10 n).takeWhile Char.isDigit = Nat.toDigits 10 n :=
    List.takeWhile_eq_self_iff.2 digits
  have rest : (Nat.toDigits 10 n).dropWhile Char.isDigit = [] :=
    List.dropWhile_eq_nil_iff.2 digits
  have leading := toDigits_leading n
  have first : !((Nat.toDigits 10 n).takeWhile Char.isDigit).isEmpty &&
      (((Nat.toDigits 10 n).takeWhile Char.isDigit).length == 1 ||
        ((Nat.toDigits 10 n).takeWhile Char.isDigit).head? != some '0') := by
    rw [whole]
    simpa [Nat.toDigits_ne_nil] using leading
  rw [read?, start]
  dsimp only
  rw [guard_of_pos first, rest, whole]
  rfl

/-- A whole number that fits 64 bits stays exact. -/
theorem toJson?_toDigits {n : Int} (low : -Decimal.twoPow 63 ≤ n) (high : n < Decimal.twoPow 64) :
    toJson? ⟨decide (n < 0), Nat.toDigits 10 n.natAbs, none, none⟩ = some (.int n) := by
  have half : Decimal.twoPow 63 = 9223372036854775808 := rfl
  have whole : Decimal.twoPow 64 = 18446744073709551616 := rfl
  have size : n.natAbs < Decimal.twoPow 64 := by omega
  by_cases negative : n < 0
  · have bound : 0 < n.natAbs ∧ n.natAbs ≤ Decimal.twoPow 63 := by omega
    have value : -(n.natAbs : Int) = n := by omega
    simp only [toJson?, Nat.ofDigitChars_ten_toDigits, size, negative, bound, decide_true,
      Option.isNone_none, Bool.and_self, Bool.not_true, Bool.false_eq_true, if_true, if_false]
    exact congrArg (fun n => some (Json.int n)) value
  · have value : (n.natAbs : Int) = n := by omega
    simp only [toJson?, Nat.ofDigitChars_ten_toDigits, size, negative, decide_true, decide_false,
      Option.isNone_none, Bool.and_self, Bool.not_false, if_true]
    exact congrArg (fun n => some (Json.int n)) value

end NumberText

/-- Whole numbers from -2^63 to 2^64-1 are read back. -/
theorem number?_intChars {n : Int} (low : -Decimal.twoPow 63 ≤ n) (high : n < Decimal.twoPow 64) :
    number? (intChars n) = some (.int n) := by
  rw [number?, intChars_eq, NumberText.read?_toDigits]
  exact NumberText.toJson?_toDigits low high

end TagRights.Json
