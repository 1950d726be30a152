import Mathlib.Data.List.Basic
import Mathlib.Data.List.Induction
import SafeLookup.Path.Basic

/-!
# The Spelling of a Position Is Its Decimal Text

`Path.isIndex` tests characters: digits, and no leading zero unless the digit stands alone.
This module shows that the test accepts the decimal texts of the natural numbers and nothing
else (`isIndex_iff`), and that `Path.position` reads back the number (`position_toString`). So a
position has exactly one spelling (`toString_position`).
-/

namespace SafeLookup.Path

/-! ### The test on characters -/

/-- The test for the spelling of a position, condition by condition. -/
theorem isIndexChars_iff {s : List Char} :
    isIndexChars s = true ↔
      s ≠ [] ∧ (∀ c ∈ s, c.isDigit = true) ∧ (s = ['0'] ∨ s.head? ≠ some '0') := by
  simp only [isIndexChars, Bool.and_eq_true, Bool.or_eq_true, Bool.not_eq_true',
    List.isEmpty_eq_false_iff, List.all_eq_true, beq_iff_eq, bne_iff_ne, and_assoc]

/-- The spelling of a position is not empty. -/
theorem ne_nil_of_isIndexChars {s : List Char} (h : isIndexChars s = true) : s ≠ [] :=
  (isIndexChars_iff.mp h).1

/-- A character that is no digit stands in no spelling of a position. -/
theorem notMem_of_isIndexChars {s : List Char} (h : isIndexChars s = true) {c : Char}
    (hc : c.isDigit = false) : c ∉ s := by
  intro hmem
  rw [(isIndexChars_iff.mp h).2.1 c hmem] at hc
  exact Bool.noConfusion hc

/-! ### Decimal texts pass the test -/

/-- The decimal text of a positive number does not start with a zero. -/
theorem head?_toDigits_ne_zero {n : ℕ} (h : 0 < n) : (Nat.toDigits 10 n).head? ≠ some '0' := by
  induction n using Nat.strongRecOn with
  | ind n ih =>
      by_cases hlt : n < 10
      · rw [Nat.toDigits_of_lt_base hlt]
        simp
        omega
      · rw [Nat.toDigits_of_base_le (by omega) (by omega),
          List.head?_append_of_ne_nil _ Nat.toDigits_ne_nil]
        exact ih (n / 10) (by omega) (by omega)

/-- The decimal text of a number is the spelling of a position. -/
theorem isIndexChars_toDigits (n : ℕ) : isIndexChars (Nat.toDigits 10 n) = true := by
  refine isIndexChars_iff.mpr ⟨Nat.toDigits_ne_nil, fun c hc => ?_, ?_⟩
  · exact Nat.isDigit_of_mem_toDigits (by omega) (by omega) hc
  · rcases Nat.eq_zero_or_pos n with rfl | hpos
    · exact Or.inl (Nat.toDigits_zero 10)
    · exact Or.inr (head?_toDigits_ne_zero hpos)

/-! ### What passes the test is a decimal text -/

/-- A digit is the decimal text of its value. -/
theorem toDigits_of_isDigit {c : Char} (h : c.isDigit = true) :
    c.toNat - '0'.toNat < 10 ∧ Nat.toDigits 10 (c.toNat - '0'.toNat) = [c] := by
  obtain ⟨hlo, hhi⟩ := Char.isDigit_iff_toNat.mp h
  have hlo' : 48 ≤ c.toNat := hlo
  have hhi' : c.toNat ≤ 57 := hhi
  have hlt : c.toNat - '0'.toNat < 10 := by
    change c.toNat - 48 < 10
    omega
  refine ⟨hlt, ?_⟩
  rw [Nat.toDigits_of_lt_base hlt, List.cons.injEq]
  refine ⟨Char.toNat_inj.mp ?_, rfl⟩
  rw [Nat.toNat_digitChar_of_lt_ten hlt]
  change 48 + (c.toNat - 48) = c.toNat
  omega

/-- Without its last digit the spelling of a position is one again, of a positive number. -/
theorem isIndexChars_of_append {s : List Char} {c : Char} (hne : s ≠ [])
    (h : isIndexChars (s ++ [c]) = true) : isIndexChars s = true ∧ s.head? ≠ some '0' := by
  obtain ⟨-, hdigits, hzero⟩ := isIndexChars_iff.mp h
  have hhead : s.head? ≠ some '0' := by
    rcases hzero with heq | hhead
    · have := congrArg List.length heq
      simp [hne] at this
    · rwa [List.head?_append_of_ne_nil _ hne] at hhead
  refine ⟨isIndexChars_iff.mpr ⟨hne, fun d hd => ?_, Or.inr hhead⟩, hhead⟩
  exact hdigits d (List.mem_append_left _ hd)

/-- **What spells a position is the decimal text of the number that it is read as.** Induction
from the last digit, the way decimal texts are written. -/
theorem toDigits_ofDigitChars {s : List Char} (h : isIndexChars s = true) :
    Nat.toDigits 10 (Nat.ofDigitChars 10 s 0) = s := by
  induction s using List.reverseRecOn with
  | nil => exact absurd rfl (ne_nil_of_isIndexChars h)
  | append_singleton s c ih =>
      have hc : c.isDigit = true := (isIndexChars_iff.mp h).2.1 c (by simp)
      obtain ⟨hlt, hdigit⟩ := toDigits_of_isDigit hc
      rw [Nat.ofDigitChars_append, Nat.ofDigitChars_cons, Nat.ofDigitChars_nil]
      by_cases hne : s = []
      · subst hne
        rw [Nat.ofDigitChars_nil, Nat.mul_zero, Nat.zero_add, hdigit, List.nil_append]
      · obtain ⟨hs, hhead⟩ := isIndexChars_of_append hne h
        have hpos : 0 < Nat.ofDigitChars 10 s 0 := by
          rw [Nat.pos_iff_ne_zero]
          intro hzero
          have := ih hs
          rw [hzero, Nat.toDigits_zero] at this
          exact hhead (this ▸ rfl)
        rw [← Nat.toDigits_append_toDigits (by omega) hpos hlt, ih hs, hdigit]

/-! ### On strings -/

/-- The position that a decimal text denotes is its number. -/
theorem position_toString (n : ℕ) : position (toString n) = n := by
  rw [position, Nat.toString_eq_ofList_toDigits, String.toList_ofList,
    Nat.ofDigitChars_ten_toDigits]

/-- A decimal text determines its number. -/
theorem toString_inj {k n : ℕ} : toString k = toString n ↔ k = n := by
  constructor
  · intro h
    rw [← position_toString k, h, position_toString]
  · rintro rfl
    rfl

/-- What spells a position is the decimal text of the position. -/
theorem toString_position {s : String} (h : isIndex s = true) : toString (position s) = s := by
  rw [position, Nat.toString_eq_ofList_toDigits, toDigits_ofDigitChars h, String.ofList_toList]

/-- **A position is spelled by its decimal text and by nothing else.** -/
theorem isIndex_iff {s : String} : isIndex s = true ↔ ∃ n : ℕ, s = toString n := by
  constructor
  · intro h
    exact ⟨position s, (toString_position h).symm⟩
  · rintro ⟨n, rfl⟩
    rw [isIndex, Nat.toString_eq_ofList_toDigits, String.toList_ofList]
    exact isIndexChars_toDigits n

/-- What spells a position is the decimal text of one number. -/
theorem isIndex_iff_existsUnique {name : String} :
    isIndex name = true ↔ ∃! n : ℕ, name = toString n := by
  rw [isIndex_iff]
  constructor
  · rintro ⟨n, rfl⟩
    exact ⟨n, rfl, fun k hk => (toString_inj.mp hk).symm⟩
  · exact ExistsUnique.exists

end SafeLookup.Path
