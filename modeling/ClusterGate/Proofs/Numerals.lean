import ClusterGate.Proofs.Trimming
import ClusterGate.Text.Decimal
import Mathlib.Data.List.Basic

/-!
# Numerals

A numeral is an optional plus sign and one or more decimal digits, leading zeros allowed. Reading a
whole number below a bound accepts exactly the numerals of the numbers below the bound
(`readDecimal_eq_ok_iff`). The reader gives up at the digit that reaches the bound, which is no
loss, since further digits never make a number smaller.
-/

namespace ClusterGate.Text

/-- The text is a numeral of `n`. -/
def Numeral (cs : List Char) (n : Nat) : Prop :=
  ∃ sign digits, cs = sign ++ digits ∧ (sign = [] ∨ sign = ['+']) ∧ digits ≠ [] ∧
    (∀ c ∈ digits, c.isDigit = true) ∧ digitsValue digits = n

theorem digitValue?_of_isDigit {c : Char} (h : c.isDigit = true) :
    digitValue? c = some (c.toNat - '0'.toNat) := if_pos h

theorem digitValue?_of_not_isDigit {c : Char} (h : ¬c.isDigit = true) : digitValue? c = none :=
  if_neg h

/-! ## Reading digits -/

/-- The value of digits that follow a value read already. -/
def digitsFrom (value : Nat) (digits : List Char) : Nat :=
  digits.foldl (fun n c => 10 * n + (digitValue? c).getD 0) value

theorem le_digitsFrom (value : Nat) (digits : List Char) : value ≤ digitsFrom value digits := by
  induction digits generalizing value with
  | nil => exact Nat.le_refl value
  | cons c r ih =>
    have hrest : 10 * value + (digitValue? c).getD 0 ≤ digitsFrom value (c :: r) := ih _
    omega

/-- Digits are read exactly if their value lies below the bound, though the bound is looked at after
each of them. -/
theorem readDigits_eq_ok_iff {bound value n : Nat} (hvalue : value < bound) (digits : List Char) :
    readDigits bound value digits = .ok n ↔
      (∀ c ∈ digits, c.isDigit = true) ∧ digitsFrom value digits = n ∧ n < bound := by
  induction digits generalizing value with
  | nil =>
    rw [readDigits, Except.ok.injEq]
    constructor
    · rintro rfl
      exact ⟨List.forall_mem_nil _, rfl, hvalue⟩
    · exact fun h => h.2.1
  | cons c r ih =>
    rw [readDigits, List.forall_mem_cons]
    by_cases hc : c.isDigit = true
    · have hfrom : digitsFrom value (c :: r) =
          digitsFrom (value * 10 + (c.toNat - '0'.toNat)) r := by
        rw [digitsFrom, List.foldl_cons, digitValue?_of_isDigit hc, Option.getD_some, Nat.mul_comm]
        rfl
      rw [digitValue?_of_isDigit hc, hfrom]
      by_cases hnext : value * 10 + (c.toNat - '0'.toNat) < bound
      · simp only [if_pos hnext, ih hnext, hc, true_and]
      · -- The number only grows from here.
        have hlarge := le_digitsFrom (value * 10 + (c.toNat - '0'.toNat)) r
        simp only [if_neg hnext, reduceCtorEq, false_iff]
        rintro ⟨-, rfl, hsmall⟩
        omega
    · rw [digitValue?_of_not_isDigit hc]
      simp [hc]

/-- A whole number below a bound is read from its numerals and from nothing else. -/
theorem readDecimal_eq_ok_iff {bound : Nat} (hbound : 0 < bound) {cs : List Char} {n : Nat} :
    readDecimal bound cs = .ok n ↔ Numeral cs n ∧ n < bound := by
  constructor
  · intro h
    have hread {sign digits : List Char} (hsign : sign = [] ∨ sign = ['+']) (hne : digits ≠ [])
        (hdigits : readDigits bound 0 digits = .ok n) : Numeral (sign ++ digits) n ∧ n < bound := by
      obtain ⟨hall, hvalue, hn⟩ := (readDigits_eq_ok_iff hbound digits).mp hdigits
      exact ⟨⟨sign, digits, rfl, hsign, hne, hall, hvalue⟩, hn⟩
    unfold readDecimal at h
    split at h
    · cases h
    · cases h
    · next r hr => exact hread (.inr rfl) (fun hnil => hr (by rw [hnil])) h
    · next c r _ _ => exact hread (.inl rfl) (List.cons_ne_nil c r) h
  · rintro ⟨⟨sign, digits, rfl, hsign, hne, hall, hvalue⟩, hn⟩
    have hdigits : readDigits bound 0 digits = .ok n :=
      (readDigits_eq_ok_iff hbound digits).mpr ⟨hall, hvalue, hn⟩
    obtain ⟨c, r, rfl⟩ := List.exists_cons_of_ne_nil hne
    rcases hsign with rfl | rfl
    · -- A digit is no plus sign.
      have hc : c ≠ '+' := by
        rintro rfl
        exact absurd (hall _ List.mem_cons_self) (by decide)
      rw [List.nil_append, readDecimal]
      · exact hdigits
      · exact fun h => absurd h hc
      · exact hc
    · exact hdigits

/-! ## Numerals that are printed -/

theorem digitsValue_eq_ofDigitChars {digits : List Char} (h : ∀ c ∈ digits, c.isDigit = true) :
    digitsValue digits = Nat.ofDigitChars 10 digits 0 := by
  rw [digitsValue, Nat.ofDigitChars_eq_foldl]
  refine List.foldl_ext _ _ _ fun n c hc => ?_
  rw [digitValue?_of_isDigit (h c hc), Option.getD_some]

/-- A number is printed as one of its numerals. -/
theorem numeral_toString (n : Nat) : Numeral (toString n).toList n := by
  have hdigits : ∀ c ∈ Nat.toDigits 10 n, c.isDigit = true := fun c hc =>
    Nat.isDigit_of_mem_toDigits (by decide) (by decide) hc
  refine ⟨[], Nat.toDigits 10 n, ?_, .inl rfl, Nat.toDigits_ne_nil, hdigits, ?_⟩
  · rw [Nat.toString_eq_ofList_toDigits, String.toList_ofList, List.nil_append]
  · rw [digitsValue_eq_ofDigitChars hdigits, Nat.ofDigitChars_ten_toDigits]

/-- A numeral holds digits and plus signs only. -/
theorem Numeral.isDigit_or {cs : List Char} {n : Nat} (h : Numeral cs n) {c : Char} (hc : c ∈ cs) :
    c.isDigit = true ∨ c = '+' := by
  obtain ⟨sign, digits, rfl, hsign, -, hall, -⟩ := h
  rcases List.mem_append.mp hc with hc | hc
  · rcases hsign with rfl | rfl
    · cases hc
    · exact .inr (List.mem_singleton.mp hc)
  · exact .inl (hall c hc)

theorem Numeral.not_mem {cs : List Char} {n : Nat} (h : Numeral cs n) {c : Char}
    (hdigit : ¬c.isDigit = true) (hplus : c ≠ '+') : c ∉ cs :=
  fun hc => (h.isDigit_or hc).elim hdigit hplus

theorem Numeral.tight {cs : List Char} {n : Nat} (h : Numeral cs n) : Tight cs := by
  refine tight_of_forall fun c hc => ?_
  rcases h.isDigit_or hc with hdigit | rfl
  · rw [Char.isDigit, Bool.and_eq_true, decide_eq_true_eq, decide_eq_true_eq] at hdigit
    have hlow : 48 ≤ c.toNat := hdigit.1
    have hhigh : c.toNat ≤ 57 := hdigit.2
    exact isBlank_of_between (by omega) (by omega)
  · decide

end ClusterGate.Text
