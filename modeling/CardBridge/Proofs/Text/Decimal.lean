import CardBridge.Bytes

/-!
# Decimal digits

What decimal digits stand for (`Digits`), and how a number is written in
them.
-/

namespace CardBridge.Text

theorem toNat_of_isDigit {c : Char} (h : c.isDigit = true) :
    48 ≤ c.toNat ∧ c.toNat ≤ 57 := by
  simp only [Char.isDigit, ge_iff_le, Bool.and_eq_true, decide_eq_true_eq,
    UInt32.le_iff_toNat_le] at h
  exact h

/-- Decimal digits, one at least, and their value. -/
structure Digits (digits : List Char) (value : Nat) : Prop where
  ne_nil : digits ≠ []
  all : ∀ c ∈ digits, c.isDigit = true
  value_eq : Nat.ofDigitChars 10 digits 0 = value

theorem digits_toDigits (n : Nat) : Digits (Nat.toDigits 10 n) n where
  ne_nil := Nat.toDigits_ne_nil
  all _ hc := Nat.isDigit_of_mem_toDigits (by decide) (by decide) hc
  value_eq := Nat.ofDigitChars_toDigits (by decide) (by decide)

/-- No zero is written in front of a number. -/
theorem head?_toDigits (n : Nat) (h : (Nat.toDigits 10 n).head? = some '0') :
    n = 0 := by
  induction n using Nat.strongRecOn with
  | _ n ih =>
    by_cases hn : n < 10
    · have hzero : ∀ m < 10, Nat.digitChar m = '0' → m = 0 := by decide
      rw [Nat.toDigits_of_lt_base hn] at h
      exact hzero n hn (Option.some.inj h)
    · obtain ⟨c, front, hfront⟩ := List.exists_cons_of_ne_nil
        (Nat.toDigits_ne_nil (n := n / 10) (b := 10))
      rw [Nat.toDigits_of_base_le (by decide) (by omega), hfront] at h
      have hn' := ih (n / 10) (by omega) (by rw [hfront]; exact h)
      omega

/-- No digit stands in front. -/
def NoDigit (rest : List Char) : Prop :=
  ∀ c ∈ rest.head?, c.isDigit = false

theorem noDigit_nil : NoDigit [] :=
  nofun

theorem noDigit_cons {c : Char} {rest : List Char}
    (hc : c.isDigit = false) : NoDigit (c :: rest) := by
  rintro _ ⟨⟩
  exact hc

variable {digits digits' rest rest' : List Char} {value value' : Nat}

/-- Digits up to where something else begins are told apart. -/
theorem Digits.unique (h : Digits digits value) (h' : Digits digits' value')
    (hrest : NoDigit rest) (hrest' : NoDigit rest')
    (heq : digits ++ rest = digits' ++ rest') :
    value = value' ∧ rest = rest' := by
  have htake {digits rest : List Char} (hall : ∀ c ∈ digits, c.isDigit = true)
      (hrest : NoDigit rest) : (digits ++ rest).takeWhile Char.isDigit =
        digits := by
    rw [List.takeWhile_append_of_pos hall]
    cases rest with
    | nil => simp
    | cons c rest => simp [hrest c rfl]
  have hdigits : digits = digits' := by
    rw [← htake h.all hrest, heq, htake h'.all hrest']
  subst hdigits
  exact ⟨h.value_eq.symm.trans h'.value_eq, List.append_cancel_left heq⟩

end CardBridge.Text
