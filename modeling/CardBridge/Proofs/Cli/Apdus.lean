import CardBridge.Cli.Apdu
import CardBridge.Proofs.Text.Blanks
import CardBridge.Proofs.Text.Hexadecimal

/-!
# How an APDU is written on the command line

Hexadecimal digits of either case, in pairs, with white space anywhere
(`apdus_are_digits`). One pair alone is refused: a single octet would be
taken for a control command.
-/

namespace CardBridge.Cli

open Text Hex

variable {text : String} {bytes : Bytes} {spaced digits : List Char}

theorem isBlank_of_digit {c : Char} {v : Nat} (h : (c, v) ∈ Hex.digits) :
    isBlank c = false := by
  have hall : ∀ digit ∈ Hex.digits, isBlank digit.1 = false := by decide
  exact hall (c, v) h

theorem apdu_eq_ok_iff : apdu text = .ok bytes ↔
    Denotes (squeeze text.toList) bytes ∧
      (squeeze text.toList).length ≠ 2 := by
  constructor
  · intro h
    rw [apdu] at h
    split at h
    · cases h
    · cases h
    · rename_i bytes' hone hdecode
      cases h
      have hdenotes := decode_eq_ok_iff.mp hdecode
      refine ⟨hdenotes, ?_⟩
      intro htwo
      rw [hdenotes.length_eq] at htwo
      obtain ⟨octet, rfl⟩ := List.length_eq_one_iff.mp
        (show bytes.length = 1 by omega)
      exact hone octet rfl
  · rintro ⟨hdenotes, hlength⟩
    rw [hdenotes.length_eq] at hlength
    rw [apdu, hdenotes.decode_eq]
    match bytes, hlength with
    | [], _ | _ :: _ :: _, _ => rfl
    | [_], hlength => exact absurd rfl hlength

/-- Whatever is wrong with an APDU, its data are invalid. -/
theorem code_of_apdu {e : Failure} (h : apdu text = .error e) :
    e.code = .dataInvalid := by
  rw [apdu] at h
  split at h
  · cases h
    rfl
  · cases h
    rfl
  · cases h

theorem apdu_accepted_iff : (∃ bytes, apdu text = .ok bytes) ↔
    (∀ c ∈ squeeze text.toList, ∃ v, (c, v) ∈ Hex.digits) ∧
    (squeeze text.toList).length % 2 = 0 ∧
    (squeeze text.toList).length ≠ 2 := by
  simp only [apdu_eq_ok_iff, exists_and_right, exists_denotes_iff, isDigit_iff,
    and_assoc]

/-- The digits of an APDU, with white space anywhere, are read as it. -/
theorem apdu_of_spaced (hone : bytes.length ≠ 1)
    (hdigits : digits.map Char.toUpper = upperChars bytes)
    (hspaced : Spaced digits spaced) :
    apdu (String.ofList spaced) = .ok bytes := by
  have hdenotes := denotes_iff_upper.mpr hdigits
  have hsqueeze : squeeze spaced = digits := by
    refine hspaced.squeeze_eq fun c hc => ?_
    obtain ⟨v, hv⟩ := isDigit_iff.mp (hdenotes.isDigit c hc)
    exact isBlank_of_digit hv
  rw [apdu_eq_ok_iff, String.toList_ofList, hsqueeze]
  refine ⟨hdenotes, ?_⟩
  rw [hdenotes.length_eq]
  omega

/-- Exactly the texts are read that consist of digits in pairs, of more or
less than one pair, once the white space is taken away; as the octets that
these stand for. Any other has invalid data. What is written in these digits,
of any case and with white space anywhere, is read again. -/
theorem apdus_are_digits :
    (∀ text bytes, apdu text = .ok bytes ↔
      Denotes (squeeze text.toList) bytes ∧
        (squeeze text.toList).length ≠ 2) ∧
    (∀ text, (∃ bytes, apdu text = .ok bytes) ↔
      (∀ c ∈ squeeze text.toList, ∃ v, (c, v) ∈ Hex.digits) ∧
      (squeeze text.toList).length % 2 = 0 ∧
      (squeeze text.toList).length ≠ 2) ∧
    (∀ text, (¬ ∃ bytes, apdu text = .ok bytes) ↔
      ∃ e, apdu text = .error e ∧ e.code = 60) ∧
    (∀ text bytes, apdu text = .ok bytes →
      Hex.upper bytes =
        String.ofList ((squeeze text.toList).map Char.toUpper)) ∧
    ∀ bytes digits spaced, bytes.length ≠ 1 →
      digits.map Char.toUpper = upperChars bytes → Spaced digits spaced →
      apdu (String.ofList spaced) = .ok bytes := by
  refine ⟨fun _ _ => apdu_eq_ok_iff, fun _ => apdu_accepted_iff, ?_, ?_,
    fun _ _ _ => apdu_of_spaced⟩
  · intro text
    cases h : apdu text with
    | ok bytes => simp
    | error e => exact iff_of_true nofun ⟨e, rfl, code_of_apdu h⟩
  · intro text bytes h
    rw [Hex.upper, denotes_iff_upper.mp (apdu_eq_ok_iff.mp h).1]

/-- Both cases are mixed, and a tab stands within a pair. -/
theorem apdus_are_digits_of_mixed :
    [0x00, 0xA4, 0xFF].length ≠ 1 ∧
      "00a4fF".toList.map Char.toUpper = upperChars [0x00, 0xA4, 0xFF] ∧
      Spaced "00a4fF".toList " 00 a\t4fF".toList ∧
      apdu "00 A4" = .ok [0x00, 0xA4] ∧ Hex.upper [0x00, 0xA4] = "00A4" ∧
      apdu (String.ofList " 00 a\t4fF".toList) = .ok [0x00, 0xA4, 0xFF] := by
  obtain ⟨-, -, -, hupper, hread⟩ := apdus_are_digits
  have hspaced : Spaced "00a4fF".toList " 00 a\t4fF".toList :=
    spaced_squeeze " 00 a\t4fF".toList
  have hplain : apdu "00 A4" = .ok [0x00, 0xA4] := rfl
  refine ⟨by decide, by decide, hspaced, hplain, hupper _ _ hplain,
    hread _ _ _ (by decide) (by decide) hspaced⟩

end CardBridge.Cli
