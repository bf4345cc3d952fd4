import LegacyAlphaRemote.Http.Parser
import LegacyAlphaRemote.Http.Response

/-!
# Numbers as text

What the program writes with `%d` it reads again with `strtol`, and so does everybody else: the text
of a number is its decimal digits (`decimal_formatNat`), with a sign in front when it is negative.  As
many digits as there are bound the number (`decimal_lt`), and the number bounds its digits
(`length_formatNat_le`).
-/

namespace LegacyAlpha

variable {n k : ℕ} {digits : Bytes}

lemma isdigit_iff {c : UInt8} : isdigit c = true ↔ 48 ≤ c.toNat ∧ c.toNat ≤ 57 := by
  have h0 : byte '0' = 48 := rfl
  have h9 : byte '9' = 57 := rfl
  rw [isdigit, h0, h9, Bool.and_eq_true, decide_eq_true_eq, decide_eq_true_eq, UInt8.le_iff_toNat_le,
    UInt8.le_iff_toNat_le]
  rfl

/-- A character of a decimal number is one byte. -/
lemma toNat_byte_of_isDigit {c : Char} (h : c.isDigit = true) :
    (byte c).toNat = c.toNat ∧ isdigit (byte c) = true := by
  obtain ⟨hlower, hupper⟩ := by simpa [Char.isDigit] using h
  have hlower : 48 ≤ c.toNat := hlower
  have hupper : c.toNat ≤ 57 := hupper
  have hbyte : (byte c).toNat = c.toNat := by
    simp [byte]
    omega
  rw [isdigit_iff, hbyte]
  exact ⟨rfl, hlower, hupper⟩

lemma formatNat_ne_nil (n : ℕ) : formatNat n ≠ [] := by
  simp [formatNat, Nat.toDigits_ne_nil]

lemma isdigit_of_mem_formatNat {c : UInt8} (h : c ∈ formatNat n) : isdigit c = true := by
  obtain ⟨d, hd, rfl⟩ := List.mem_map.mp h
  exact (toNat_byte_of_isDigit (Nat.isDigit_of_mem_toDigits (by decide) (by decide) hd)).2

/-- **A number is read as it was written**, digit by digit from the last one. -/
theorem decimal_formatNat (n : ℕ) : decimal (formatNat n) = n := by
  have hfold : ∀ (chars : List Char) (init : ℕ), (∀ c ∈ chars, c.isDigit = true) →
      (chars.map byte).foldl (fun n c => 10 * n + (c.toNat - (byte '0').toNat)) init =
        Nat.ofDigitChars 10 chars init := by
    intro chars
    induction chars with
    | nil => exact fun _ _ => rfl
    | cons c chars ih =>
        intro init hdigits
        obtain ⟨hc, hchars⟩ := List.forall_mem_cons.mp hdigits
        rw [List.map_cons, List.foldl_cons, ih _ hchars, (toNat_byte_of_isDigit hc).1]
        rfl
  rw [decimal, formatNat, hfold _ _ fun c hc =>
    Nat.isDigit_of_mem_toDigits (by decide) (by decide) hc]
  exact Nat.ofDigitChars_ten_toDigits

lemma length_formatNat_le (hk : 0 < k) (h : n < 10 ^ k) : (formatNat n).length ≤ k := by
  rw [formatNat, List.length_map]
  exact (Nat.length_toDigits_le_iff (by decide) hk).mpr h

/-- So many digits, so large the number. -/
lemma decimal_lt (hdigits : ∀ c ∈ digits, isdigit c = true) : decimal digits < 10 ^ digits.length := by
  have hfold : ∀ (digits : Bytes) (init : ℕ), (∀ c ∈ digits, isdigit c = true) →
      digits.foldl (fun n c => 10 * n + (c.toNat - (byte '0').toNat)) init <
        (init + 1) * 10 ^ digits.length := by
    intro digits
    induction digits with
    | nil => simp
    | cons c digits ih =>
        intro init hdigits
        obtain ⟨hc, hrest⟩ := List.forall_mem_cons.mp hdigits
        obtain ⟨hlower, hupper⟩ := isdigit_iff.mp hc
        have hzero : (byte '0').toNat = 48 := rfl
        rw [List.foldl_cons, List.length_cons, pow_succ']
        refine (ih _ hrest).trans_le ?_
        rw [← mul_assoc]
        refine Nat.mul_le_mul_right _ ?_
        omega
  have h := hfold digits 0 hdigits
  rwa [zero_add, one_mul] at h

end LegacyAlpha
