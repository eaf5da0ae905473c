import CardBridge.Cli.Timeout
import CardBridge.Proofs.Text.Blanks
import CardBridge.Proofs.Text.Decimal

/-!
# How a span of time is written

The texts that stand for a span (`Means`) are given by what they consist of:
white space, a number, its unit. `timeout_eq_ok_iff` says that exactly these
are read, and as what.
-/

namespace CardBridge.Cli

open Text

variable {text number digits gap : List Char} {value : Nat} {c : Char}

/-! ## Numbers -/

/-- A number in decimal digits, with at most one plus sign in front. -/
inductive Numeral : (text : List Char) → (value : Nat) → Prop
  | plain {digits : List Char} {value : Nat} (h : Digits digits value) :
    Numeral digits value
  | signed {digits : List Char} {value : Nat} (h : Digits digits value) :
    Numeral ('+' :: digits) value

theorem not_digits_signed : ¬ Digits ('+' :: digits) value := by
  intro h
  exact absurd (h.all '+' (List.mem_cons_self ..)) (by decide)

/-- Digits are read as their value, as long as that is a word. -/
theorem digits_eq_some_iff :
    (if digits ≠ [] ∧ digits.all (fun c => '0' ≤ c ∧ c ≤ '9') then
        if digits.foldl (fun n c => 10 * n + (c.toNat - '0'.toNat)) 0 <
            UInt64.size then
          some (digits.foldl (fun n c => 10 * n + (c.toNat - '0'.toNat)) 0)
        else none
      else none) = some value ↔ Digits digits value ∧ value < UInt64.size := by
  have hall : digits.all (fun c => '0' ≤ c ∧ c ≤ '9') = true ↔
      ∀ c ∈ digits, c.isDigit = true := by
    simp [Char.isDigit, Char.le_def]
  rw [← Nat.ofDigitChars_eq_foldl]
  simp only [hall, Option.ite_none_right_eq_some, Option.some.injEq]
  constructor
  · rintro ⟨⟨hne, hdigits⟩, hlt, rfl⟩
    exact ⟨⟨hne, hdigits, rfl⟩, hlt⟩
  · rintro ⟨⟨hne, hdigits, rfl⟩, hlt⟩
    exact ⟨⟨hne, hdigits⟩, hlt, rfl⟩

theorem word?_eq_some_iff :
    word? text = some value ↔ Numeral text value ∧ value < UInt64.size := by
  by_cases hsigned : ∃ digits, text = '+' :: digits
  · obtain ⟨digits, rfl⟩ := hsigned
    rw [word?]
    dsimp only
    rw [digits_eq_some_iff]
    refine and_congr_left fun _ => ⟨.signed, ?_⟩
    rintro (h | h)
    · exact (not_digits_signed h).elim
    · exact h
  · rw [word?]
    · dsimp only
      rw [digits_eq_some_iff]
      refine and_congr_left fun _ => ⟨.plain, ?_⟩
      rintro (h | h)
      · exact h
      · exact (hsigned ⟨_, rfl⟩).elim
    · exact fun digits htext => hsigned ⟨digits, htext⟩

theorem isBlank_of_isDigit (h : c.isDigit = true) : isBlank c = false := by
  obtain ⟨hfrom, hto⟩ := toNat_of_isDigit h
  simp [isBlank, inRanges, blankRanges]
  omega

/-- Of what a numeral consists. -/
theorem Numeral.chars (h : Numeral text value) :
    text ≠ [] ∧ ∀ c ∈ text, c = '+' ∨ c.isDigit = true := by
  rcases h with h | h
  · exact ⟨h.ne_nil, fun c hc => .inr (h.all c hc)⟩
  · refine ⟨nofun, ?_⟩
    intro c hc
    exact (List.mem_cons.mp hc).imp_right (h.all c)

theorem Numeral.not_blank (h : Numeral text value) :
    ∀ c ∈ text, isBlank c = false := by
  intro c hc
  rcases h.chars.2 c hc with rfl | hdigit
  · decide
  · exact isBlank_of_isDigit hdigit

/-! ## Units -/

/-- The units that may stand behind a number, and the spans that they make
of it. -/
inductive Scale : (unit : List Char) → (span : Nat → Duration) → Prop
  | bare : Scale [] .ofSeconds
  | seconds : Scale ['s'] .ofSeconds
  | millis : Scale ['m', 's'] .ofMillis

/-- The spans that are counted, by whether these are milliseconds. -/
def counted (inMillis : Bool) : Nat → Duration :=
  if inMillis then .ofMillis else .ofSeconds

theorem exists_scale (text : List Char) :
    ∃ unit, Scale unit (counted (splitUnit text).2) ∧
      text = (splitUnit text).1 ++ unit := by
  rw [splitUnit]
  split
  · rename_i h
    obtain ⟨front, rfl⟩ := List.isSuffixOf_iff_suffix.mp h
    exact ⟨_, .millis, by simp⟩
  · split
    · rename_i h
      obtain ⟨front, rfl⟩ := List.isSuffixOf_iff_suffix.mp h
      exact ⟨_, .seconds, by simp⟩
    · exact ⟨_, .bare, by simp⟩

/-- A unit is found behind what has none of its letters. -/
theorem splitUnit_append {unit : List Char} {span : Nat → Duration}
    (hscale : Scale unit span) (hnumber : ∀ c ∈ number, c ≠ 'm' ∧ c ≠ 's') :
    ∃ inMillis, splitUnit (number ++ unit) = (number, inMillis) ∧
      counted inMillis = span := by
  have hs : 's' ∉ number := fun hmem => (hnumber 's' hmem).2 rfl
  have hm : 'm' ∉ number := fun hmem => (hnumber 'm' hmem).1 rfl
  have hms (front : List Char) : front ++ ['m', 's'] ≠ number := by
    rintro rfl
    exact hs (by simp)
  cases hscale with
  | bare =>
    refine ⟨false, ?_, rfl⟩
    have hmillis : ¬ ['m', 's'] <:+ number := fun ⟨front, h⟩ => hms front h
    have hseconds : ¬ ['s'] <:+ number := by
      rintro ⟨front, rfl⟩
      exact hs (by simp)
    simp [splitUnit, hmillis, hseconds]
  | seconds =>
    refine ⟨false, ?_, rfl⟩
    have hmillis : ¬ ['m', 's'] <:+ number ++ ['s'] := by
      rintro ⟨front, hfront⟩
      refine hm ?_
      have hnumber : front ++ ['m'] = number := by
        refine (List.append_left_inj ['s']).mp ?_
        simpa using hfront
      simp [← hnumber]
    simp [splitUnit, hmillis]
  | millis => exact ⟨true, by simp [splitUnit], rfl⟩

/-! ## Spans -/

/-- The texts that stand for a span: a number of 64 bits that is not
zero, and its unit, with white space around the number and around the whole. -/
def Means (text : List Char) (d : Duration) : Prop :=
  ∃ before number gap unit after value span,
    Blank before ∧ Blank gap ∧ Blank after ∧
    Numeral number value ∧ 1 ≤ value ∧ value < UInt64.size ∧
    Scale unit span ∧ text = before ++ number ++ gap ++ unit ++ after ∧
    d = span value

/-- White space between a number and its unit is kept at first. -/
theorem trim_measure {before unit after : List Char} {span : Nat → Duration}
    (hbefore : Blank before) (hgap : Blank gap) (hafter : Blank after)
    (hnumber : Numeral number value) (hscale : Scale unit span) :
    ∃ kept, Blank kept ∧
      trim (before ++ number ++ gap ++ unit ++ after) =
        number ++ kept ++ unit := by
  by_cases hunit : unit = []
  · subst hunit
    refine ⟨[], blank_nil, ?_⟩
    have hbare : Bare number := bare_of_not_blank hnumber.not_blank
    simpa using trim_padded hbefore (hgap.append hafter) hbare
  · refine ⟨gap, hgap, ?_⟩
    have hbare : Bare (number ++ gap ++ unit) := by
      constructor
      · obtain ⟨c, rest, rfl⟩ := List.exists_cons_of_ne_nil hnumber.chars.1
        rintro _ ⟨⟩
        exact hnumber.not_blank c (List.mem_cons_self ..)
      · have hlast : (number ++ gap ++ unit).getLast? = some 's' := by
          cases hscale with
          | bare => exact absurd rfl hunit
          | seconds | millis => simp
        rw [hlast]
        rintro _ ⟨⟩
        decide
    simpa using trim_padded hbefore hafter hbare

theorem measure_ne_unit (hgap : Blank gap) (hnumber : Numeral number value) :
    ∀ c ∈ number ++ gap, c ≠ 'm' ∧ c ≠ 's' := by
  intro c hc
  rcases List.mem_append.mp hc with hc | hc
  · rcases hnumber.chars.2 c hc with rfl | hdigit
    · decide
    · constructor <;> (rintro rfl; exact absurd hdigit (by decide))
  · have hblank := hgap c hc
    constructor <;> (rintro rfl; exact absurd hblank (by decide))

theorem Means.timeout_eq {text : String} {d : Duration}
    (h : Means text.toList d) : timeout text = .ok d := by
  obtain ⟨before, number, gap, unit, after, value, span, hbefore, hgap,
    hafter, hnumber, hpos, hword, hscale, htext, rfl⟩ := h
  obtain ⟨kept, hkept, htrim⟩ :=
    trim_measure hbefore hgap hafter hnumber hscale
  obtain ⟨inMillis, hsplit, hspan⟩ :=
    splitUnit_append hscale (measure_ne_unit hkept hnumber)
  have hnumber' : trim (number ++ kept) = number := by
    simpa using trim_padded blank_nil hkept
      (bare_of_not_blank hnumber.not_blank)
  have hvalue : word? number = some value :=
    word?_eq_some_iff.mpr ⟨hnumber, hword⟩
  have hne : number ++ kept ++ unit ≠ [] := by
    simp [hnumber.chars.1]
  rw [timeout, htext, htrim]
  dsimp only
  rw [if_neg hne, hsplit]
  dsimp only
  rw [hnumber', hvalue]
  dsimp only
  rw [if_neg (by omega), ← hspan, counted]
  cases inMillis <;> rfl

theorem means_of_timeout {text : String} {d : Duration}
    (h : timeout text = .ok d) : Means text.toList d := by
  obtain ⟨-, before, after, hbefore, hafter, htext⟩ := exists_trim text.toList
  obtain ⟨unit, hscale, hunit⟩ := exists_scale (trim text.toList)
  obtain ⟨-, front, gap, hfront, hgap, hnumber⟩ :=
    exists_trim (splitUnit (trim text.toList)).1
  rw [timeout] at h
  dsimp only at h
  split at h
  · cases h
  split at h
  · cases h
  rename_i value hvalue
  split at h
  · cases h
  rename_i hpos
  obtain ⟨hnumeral, hlt⟩ := word?_eq_some_iff.mp hvalue
  refine ⟨before ++ front, _, gap, unit, after, value, _,
    hbefore.append hfront, hgap, hafter, hnumeral, by omega, hlt, hscale,
    ?_, ?_⟩
  · calc text.toList
        = before ++ trim text.toList ++ after := htext
      _ = before ++ ((splitUnit (trim text.toList)).1 ++ unit) ++ after := by
          rw [← hunit]
      _ = before ++ ((front ++ trim (splitUnit (trim text.toList)).1 ++ gap)
            ++ unit) ++ after := by
          rw [← hnumber]
      _ = _ := by simp only [List.append_assoc]
  · rw [← Except.ok.inj h, counted]
    split <;> rfl

/-- The texts that stand for a span are read, as that span, and no others. -/
theorem timeout_eq_ok_iff {text : String} {d : Duration} :
    timeout text = .ok d ↔ Means text.toList d :=
  ⟨means_of_timeout, Means.timeout_eq⟩

example : timeout " +07 ms\n" = .ok (.ofMillis 7) := rfl

/-- Whatever is wrong with a span is an error of usage. -/
theorem code_of_timeout {text : String} {e : Failure}
    (h : timeout text = .error e) : e.code = .usage := by
  rw [timeout] at h
  dsimp only at h
  split at h
  · cases h
    rfl
  split at h
  · cases h
    rfl
  split at h
  · cases h
    rfl
  · cases h

theorem Means.nanoseconds_pos {d : Duration} (h : Means text d) :
    0 < d.nanoseconds := by
  obtain ⟨before, number, gap, unit, after, value, span, -, -, -, -, hpos, -,
    hscale, -, rfl⟩ := h
  cases hscale <;> simp [Duration.ofSeconds, Duration.ofMillis] <;> omega

end CardBridge.Cli
