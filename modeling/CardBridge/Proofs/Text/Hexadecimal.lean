import Mathlib.Data.String.Basic
import CardBridge.Text.Hex

/-!
# Which octets hexadecimal digits stand for

Digits of either case, two to an octet (`Denotes`). Exactly the texts that
consist of such pairs are read (`decode_eq_ok_iff`), and what is read is
written as the same digits in upper case (`denotes_iff_upper`).
-/

namespace CardBridge.Hex

variable {c : Char} {v : Nat} {text : List Char} {bytes bytes' : Bytes}

/-! ## Digits -/

/-- The digits, of either case, with their values. -/
def digits : List (Char × Nat) :=
  "0123456789abcdef".toList.zipIdx ++ "ABCDEF".toList.zipIdx 10

/-- A character in a range, by where it stands there. -/
theorem exists_ofNat {first last : Char} (h : first ≤ c ∧ c ≤ last) :
    ∃ n ≤ last.toNat - first.toNat, c = Char.ofNat (first.toNat + n) ∧
      c.toNat - first.toNat = n := by
  have hfirst : first.toNat ≤ c.toNat := UInt32.le_iff_toNat_le.mp h.1
  have hlast : c.toNat ≤ last.toNat := UInt32.le_iff_toNat_le.mp h.2
  refine ⟨c.toNat - first.toNat, by omega, ?_, rfl⟩
  rw [Nat.add_sub_cancel' hfirst, Char.ofNat_toNat]

theorem mem_digits_of_range {first last : Char} (base : Nat)
    (h : first ≤ c ∧ c ≤ last)
    (hall : ∀ n ≤ last.toNat - first.toNat,
      (Char.ofNat (first.toNat + n), n + base) ∈ digits) :
    (c, c.toNat - first.toNat + base) ∈ digits := by
  obtain ⟨n, hn, hc, hvalue⟩ := exists_ofNat h
  rw [hvalue, hc]
  exact hall n hn

theorem digitValue?_eq_some_iff :
    digitValue? c = some v ↔ (c, v) ∈ digits := by
  constructor
  · intro h
    rw [digitValue?] at h
    split at h
    · cases h
      exact mem_digits_of_range 0 ‹_› (by decide)
    split at h
    · cases h
      exact mem_digits_of_range 10 ‹_› (by decide)
    split at h
    · cases h
      exact mem_digits_of_range 10 ‹_› (by decide)
    · cases h
  · have hall : ∀ digit ∈ digits, digitValue? digit.1 = some digit.2 := by
      decide
    exact hall (c, v)

theorem isDigit_iff : isDigit c = true ↔ ∃ v, (c, v) ∈ digits := by
  simp only [isDigit, Option.isSome_iff_exists, digitValue?_eq_some_iff]

/-- A digit has the same value in either case. -/
theorem digitValue?_toUpper (c : Char) :
    digitValue? c.toUpper = digitValue? c := by
  by_cases h : 'a' ≤ c ∧ c ≤ 'z'
  · obtain ⟨n, hn, rfl, -⟩ := exists_ofNat h
    clear h
    revert n
    decide
  · have hupper : c.toUpper = c := dif_neg h
    rw [hupper]

theorem digitValue?_digitChar (hv : v < 16) :
    digitValue? (Nat.digitChar v) = some v := by
  revert hv v
  decide

theorem toUpper_eq_iff (hv : v < 16) :
    c.toUpper = (Nat.digitChar v).toUpper ↔ (c, v) ∈ digits := by
  rw [← digitValue?_eq_some_iff]
  constructor
  · intro h
    rw [← digitValue?_toUpper, h, digitValue?_toUpper,
      digitValue?_digitChar hv]
  · have hall : ∀ digit ∈ digits,
        digit.1.toUpper = (Nat.digitChar digit.2).toUpper := by
      decide
    rw [digitValue?_eq_some_iff]
    exact hall (c, v)

theorem value_lt (h : (c, v) ∈ digits) : v < 16 := by
  have hall : ∀ digit ∈ digits, digit.2 < 16 := by decide
  exact hall (c, v) h

theorem utf8Size_digit (h : (c, v) ∈ digits) : c.utf8Size = 1 := by
  have hall : ∀ digit ∈ digits, digit.1.utf8Size = 1 := by decide
  exact hall (c, v) h

/-! ## Pairs of digits -/

/-- Digits in pairs, and the octets that these are in base sixteen. -/
inductive Denotes : (text : List Char) → (bytes : Bytes) → Prop
  | nil : Denotes [] []
  | cons {high low : Char} {h l : Nat} {octet : UInt8} {text : List Char}
    {bytes : Bytes} (hhigh : (high, h) ∈ digits) (hlow : (low, l) ∈ digits)
    (hoctet : octet.toNat = 16 * h + l) (rest : Denotes text bytes) :
    Denotes (high :: low :: text) (octet :: bytes)

theorem Denotes.length_eq (h : Denotes text bytes) :
    text.length = 2 * bytes.length := by
  induction h with
  | nil => rfl
  | cons hhigh hlow hoctet rest ih =>
    simp only [List.length_cons, ih]
    omega

theorem Denotes.isDigit (h : Denotes text bytes) :
    ∀ c ∈ text, isDigit c = true := by
  induction h with
  | nil => exact List.forall_mem_nil _
  | cons hhigh hlow hoctet rest ih =>
    exact List.forall_mem_cons.mpr ⟨isDigit_iff.mpr ⟨_, hhigh⟩,
      List.forall_mem_cons.mpr ⟨isDigit_iff.mpr ⟨_, hlow⟩, ih⟩⟩

theorem Denotes.pairs_eq (h : Denotes text bytes) :
    pairs (text.filterMap digitValue?) = bytes := by
  induction h with
  | nil => rfl
  | @cons high low h l octet text bytes hhigh hlow hoctet rest ih =>
    have hvalue : (16 * h + l).toUInt8 = octet := by
      rw [← hoctet]
      exact UInt8.ofNat_toNat
    rw [List.filterMap_cons_some (digitValue?_eq_some_iff.mpr hhigh),
      List.filterMap_cons_some (digitValue?_eq_some_iff.mpr hlow), pairs,
      hvalue, ih]

/-- Digits in pairs always stand for something. -/
theorem exists_denotes :
    (text : List Char) → (∀ c ∈ text, isDigit c = true) →
      text.length % 2 = 0 → ∃ bytes, Denotes text bytes
  | [], _, _ => ⟨[], .nil⟩
  | [_], _, heven => by simp at heven
  | high :: low :: text, hdigits, heven => by
    obtain ⟨hhigh, hdigits⟩ := List.forall_mem_cons.mp hdigits
    obtain ⟨hlow, hdigits⟩ := List.forall_mem_cons.mp hdigits
    obtain ⟨h, hhigh⟩ := isDigit_iff.mp hhigh
    obtain ⟨l, hlow⟩ := isDigit_iff.mp hlow
    obtain ⟨bytes, hrest⟩ := exists_denotes text hdigits (by
      simp only [List.length_cons] at heven
      omega)
    have hlt : 16 * h + l < 256 := by
      have := value_lt hhigh
      have := value_lt hlow
      omega
    exact ⟨UInt8.ofNat (16 * h + l) :: bytes,
      .cons hhigh hlow (UInt8.toNat_ofNat_of_lt hlt) hrest⟩

theorem exists_denotes_iff : (∃ bytes, Denotes text bytes) ↔
    (∀ c ∈ text, isDigit c = true) ∧ text.length % 2 = 0 := by
  constructor
  · rintro ⟨bytes, h⟩
    exact ⟨h.isDigit, by rw [h.length_eq, Nat.mul_mod_right]⟩
  · rintro ⟨hdigits, heven⟩
    exact exists_denotes text hdigits heven

/-! ## Reading -/

/-- The UTF-8 form of digits is as long as they are many. -/
theorem utf8ByteSize_digits (h : ∀ c ∈ text, isDigit c = true) :
    (String.ofList text).utf8ByteSize = text.length := by
  rw [String.utf8ByteSize_ofList]
  induction text with
  | nil => rfl
  | cons c text ih =>
    obtain ⟨hc, htext⟩ := List.forall_mem_cons.mp h
    obtain ⟨v, hv⟩ := isDigit_iff.mp hc
    rw [String.utf8Len_cons, ih htext, utf8Size_digit hv, List.length_cons]

theorem Denotes.decode_eq (h : Denotes text bytes) :
    decode text = .ok bytes := by
  have heven : (String.ofList text).utf8ByteSize % 2 = 0 := by
    rw [utf8ByteSize_digits h.isDigit, h.length_eq, Nat.mul_mod_right]
  have hall : text.find? (!Hex.isDigit ·) = none := by
    simpa using h.isDigit
  rw [decode, if_neg (by omega), hall]
  exact congrArg Except.ok h.pairs_eq

theorem decode_eq_ok_iff : decode text = .ok bytes ↔ Denotes text bytes := by
  refine ⟨fun h => ?_, Denotes.decode_eq⟩
  have hparts := h
  rw [decode] at hparts
  split at hparts
  · cases hparts
  rename_i hodd
  split at hparts
  · cases hparts
  rename_i hall
  have hdigits : ∀ c ∈ text, isDigit c = true := by simpa using hall
  rw [utf8ByteSize_digits hdigits] at hodd
  obtain ⟨bytes', hdenotes⟩ := exists_denotes text hdigits (by omega)
  rw [hdenotes.decode_eq] at h
  cases h
  exact hdenotes

/-! ## Writing -/

/-- Digits stand for what is written as these digits in upper case. -/
theorem denotes_iff_upper :
    Denotes text bytes ↔ text.map Char.toUpper = upperChars bytes := by
  induction bytes generalizing text with
  | nil =>
    constructor
    · rintro ⟨⟩
      rfl
    · intro h
      rw [List.map_eq_nil_iff.mp h]
      exact .nil
  | cons octet bytes ih =>
    have hhigh : octet.toNat / 16 < 16 := by
      have := octet.toNat_lt
      omega
    have hlow : octet.toNat % 16 < 16 := Nat.mod_lt _ (by decide)
    have hupper : upperChars (octet :: bytes) =
        (Nat.digitChar (octet.toNat / 16)).toUpper ::
          (Nat.digitChar (octet.toNat % 16)).toUpper :: upperChars bytes := rfl
    rw [hupper]
    constructor
    · rintro (_ | @⟨high, low, h, l, _, text, _, hh, hl, hoctet, rest⟩)
      have := value_lt hl
      have hh' : octet.toNat / 16 = h := by omega
      have hl' : octet.toNat % 16 = l := by omega
      rw [List.map_cons, List.map_cons, ih.mp rest,
        (toUpper_eq_iff (c := high) hhigh).mpr (hh' ▸ hh),
        (toUpper_eq_iff (c := low) hlow).mpr (hl' ▸ hl)]
    · intro h
      rcases text with _ | ⟨high, _ | ⟨low, text⟩⟩
      · cases h
      · cases (List.cons.inj h).2
      · obtain ⟨hh, h⟩ := List.cons.inj h
        obtain ⟨hl, h⟩ := List.cons.inj h
        exact .cons ((toUpper_eq_iff hhigh).mp hh)
          ((toUpper_eq_iff hlow).mp hl) (by omega) (ih.mpr h)

end CardBridge.Hex
