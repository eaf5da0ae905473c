import CardBridge.Card.Proximity
import CardBridge.Proofs.Promises

/-!
# Answers to reset

An answer to reset gives its historical bytes back, and no byte that the
check byte covers can be changed unnoticed (`encloses_synthesize`). Which
historical bytes stand for a contactless card depends on what its tag tells
about itself, and on nothing else (`keeps_atr`).
-/

namespace CardBridge

open Dialogue

namespace Bytes

@[simp] theorem xor_nil : xor [] = 0 := rfl

@[simp] theorem xor_cons (byte : UInt8) (bytes : Bytes) :
    xor (byte :: bytes) = byte ^^^ xor bytes := by
  have h : bytes.foldl (· ^^^ ·) (byte ^^^ 0) = byte ^^^ xor bytes :=
    List.foldl_assoc
  rw [UInt8.xor_zero] at h
  rw [← h, xor, List.foldl_cons, UInt8.zero_xor]

@[simp] theorem xor_append (bytes later : Bytes) :
    xor (bytes ++ later) = xor bytes ^^^ xor later := by
  induction bytes with
  | nil => simp
  | cons byte bytes ih => simp [ih, UInt8.xor_assoc]

/-- Where one byte changes, so does the exclusive or of all. -/
theorem xor_set_ne {bytes : Bytes} {i : Nat} (hi : i < bytes.length)
    {byte : UInt8} (hne : bytes[i]? ≠ some byte) :
    xor (bytes.set i byte) ≠ xor bytes := by
  induction bytes generalizing i with
  | nil => exact absurd hi (Nat.not_lt_zero i)
  | cons first bytes ih =>
    cases i with
    | zero =>
      intro heq
      rw [List.set_cons_zero, xor_cons, xor_cons, UInt8.xor_left_inj] at heq
      exact hne (congrArg some heq.symm)
    | succ i =>
      intro heq
      rw [List.set_cons_succ, xor_cons, xor_cons, UInt8.xor_right_inj] at heq
      exact ih (Nat.lt_of_succ_lt_succ hi) hne heq

end Bytes

namespace Atr

/-- An answer to reset around some historical bytes. -/
structure Encloses (historical atr : Bytes) : Prop where
  length : atr.length = historical.length + 5
  layout : ∃ count check,
    atr = [0x3B, count, 0x80, 0x01] ++ historical ++ [check] ∧
      count.toNat = (0x80 + historical.length) % 256
  checked : Bytes.xor (atr.drop 1) = 0
  /-- The historical bytes can be read back. -/
  recovered : (atr.drop 4).dropLast = historical
  /-- No byte after the first is changed unnoticed. -/
  guarded : ∀ i byte, 0 < i → i < atr.length → atr[i]? ≠ some byte →
    Bytes.xor ((atr.set i byte).drop 1) ≠ 0
  /-- Up to 15 historical bytes are counted in the low half of the second
  byte. -/
  counted : historical.length ≤ 15 → ∃ count, atr[1]? = some count ∧
    count.toNat % 16 = historical.length ∧ count.toNat / 16 = 8

theorem toNat_count (historical : Bytes) :
    (0x80 + historical.length.toUInt8 : UInt8).toNat =
      (0x80 + historical.length) % 256 := by
  simp [Nat.toUInt8]

theorem xor_synthesize (historical : Bytes) :
    Bytes.xor ((synthesize historical).drop 1) = 0 := by
  show Bytes.xor (body historical ++ [(body historical).xor]) = 0
  simp

theorem encloses_synthesize (historical : Bytes) :
    Encloses historical (synthesize historical) where
  length := by simp [synthesize, body]
  layout := ⟨_, _, rfl, toNat_count historical⟩
  checked := xor_synthesize historical
  recovered := by
    show (historical ++ [(body historical).xor]).dropLast = historical
    exact List.dropLast_concat
  guarded := by
    intro i byte hpos hi hne
    obtain ⟨i, rfl⟩ := Nat.exists_eq_succ_of_ne_zero (Nat.ne_of_gt hpos)
    have hchanged := Bytes.xor_set_ne (Nat.lt_of_succ_lt_succ hi) hne
    rw [← xor_synthesize historical]
    exact hchanged
  counted := by
    intro hfew
    refine ⟨_, rfl, ?_⟩
    rw [toNat_count]
    omega

/-- The count of 16 historical bytes runs over into the other half. -/
example : (synthesize (List.replicate 16 0))[1]? = some 0x90 := by decide

/-- Different historical bytes make different answers to reset. -/
theorem synthesize_injective : Function.Injective synthesize := by
  intro historical other heq
  rw [← (encloses_synthesize historical).recovered, heq,
    (encloses_synthesize other).recovered]

theorem warning?_eq_none_iff (historical : Bytes) :
    warning? historical = none ↔ historical.length ≤ 15 := by
  rw [warning?, maxHistorical]
  split <;> simp_all

end Atr

/-! ## Contactless cards -/

namespace Tag

/-- What a tag has to tell about itself. -/
structure Portrait where
  /-- The historical bytes of a Type A tag. -/
  typeA : Option Bytes
  typeB : Option TypeB.Info
  maxLength : UInt64

namespace Portrait

/-- What a tag answers is as the portrait has it. -/
def Fits (t : Portrait) : Exchange Tag → Prop
  | ⟨.historicalBytes, bytes⟩ => bytes = t.typeA
  | ⟨.typeBInfo, info⟩ => info = t.typeB
  | ⟨.maxLength, length⟩ => length = t.maxLength
  | _ => True

/-- The historical bytes that stand for a tag. Those of Type A come first,
even if they are empty and there are Type B data as well. -/
def historical (t : Portrait) : Bytes :=
  (t.typeA <|> t.typeB.bind (TypeB.historical? · t.maxLength)).getD []

end Portrait

/-- What was written to the log. -/
def logged (said : List (Exchange Tag)) : List Log.Record :=
  said.filterMap fun
    | ⟨.log record, _⟩ => some record
    | _ => none

end Tag

namespace Proximity

/-- The answer to reset of a contactless card, made of what its tag has
told. -/
structure Presents (said : List (Exchange Tag)) (atr : Bytes) : Prop where
  portrayed : ∃ t : Tag.Portrait, ∀ e ∈ said, t.Fits e
  made : ∀ t : Tag.Portrait, (∀ e ∈ said, t.Fits e) →
    atr = Atr.synthesize t.historical
  /-- Historical bytes that are too many are warned about once, and others
  not at all. -/
  logged : ∀ t : Tag.Portrait, (∀ e ∈ said, t.Fits e) →
    Tag.logged said = (Atr.warning? t.historical).toList

/-- What is presented once the historical bytes are known. -/
theorem keeps_presented {said : List (Exchange Tag)} (bytes : Bytes)
    (hportrayed : ∃ t : Tag.Portrait, ∀ e ∈ said, t.Fits e)
    (hbytes : ∀ t : Tag.Portrait, (∀ e ∈ said, t.Fits e) →
      t.historical = bytes)
    (hquiet : Tag.logged said = []) :
    (do if let some record := Atr.warning? bytes then
          Tag.ask (.log record)
        return Atr.synthesize bytes : Dialogue Tag Bytes).Keeps noting
      (fun q _ => q ≠ none) (fun atr said => Presents said atr) said := by
  cases hwarning : Atr.warning? bytes with
  | none =>
    refine ⟨hportrayed, ?_, ?_⟩
    · intro t ht
      rw [hbytes t ht]
    · intro t ht
      rw [hbytes t ht, hwarning, hquiet]
      rfl
  | some record =>
    refine ⟨nofun, ?_⟩
    intro _ said' hsaid
    subst hsaid
    have hfits (t : Tag.Portrait) :
        (∀ e ∈ said ++ [⟨.log record, ()⟩], t.Fits e) ↔
          ∀ e ∈ said, t.Fits e := by
      simp [or_imp, forall_and, Tag.Portrait.Fits]
    refine ⟨?_, ?_, ?_⟩
    · simpa only [hfits] using hportrayed
    · intro t ht
      rw [hbytes t ((hfits t).mp ht)]
    · intro t ht
      rw [hbytes t ((hfits t).mp ht), hwarning, Tag.logged,
        List.filterMap_append]
      rw [Tag.logged] at hquiet
      rw [hquiet]
      rfl

theorem keeps_atr :
    atr.Keeps noting (fun q _ => q ≠ none)
      (fun atr said => Presents said atr) [] := by
  refine ⟨nofun, ?_⟩
  intro typeA _ hsaid
  subst hsaid
  cases typeA with
  | some bytes =>
    refine keeps_presented bytes
      ⟨⟨some bytes, none, 0⟩, by simp [Tag.Portrait.Fits]⟩ ?_ rfl
    intro t ht
    have htypeA : some bytes = t.typeA :=
      ht ⟨.historicalBytes, some bytes⟩ (by simp)
    simp [Tag.Portrait.historical, ← htypeA]
  | none =>
    refine ⟨nofun, ?_⟩
    intro typeB _ hsaid
    subst hsaid
    have hanswered (t : Tag.Portrait) (later : List (Exchange Tag))
        (ht : ∀ e ∈ [⟨.historicalBytes, none⟩, ⟨.typeBInfo, typeB⟩] ++ later,
          t.Fits e) : none = t.typeA ∧ typeB = t.typeB :=
      ⟨ht ⟨.historicalBytes, none⟩ (by simp),
        ht ⟨.typeBInfo, typeB⟩ (by simp)⟩
    cases typeB with
    | none =>
      refine keeps_presented []
        ⟨⟨none, none, 0⟩, by simp [Tag.Portrait.Fits]⟩ ?_ rfl
      intro t ht
      obtain ⟨htypeA, htypeB⟩ := hanswered t [] ht
      simp [Tag.Portrait.historical, ← htypeA, ← htypeB]
    | some info =>
      refine ⟨nofun, ?_⟩
      intro maxLength _ hsaid
      subst hsaid
      refine keeps_presented _ ⟨⟨none, some info, maxLength⟩,
        by simp [Tag.Portrait.Fits]⟩ ?_ rfl
      intro t ht
      obtain ⟨htypeA, htypeB⟩ := hanswered t [⟨.maxLength, maxLength⟩] ht
      have hlength : maxLength = t.maxLength :=
        ht ⟨.maxLength, maxLength⟩ (by simp)
      simp [Tag.Portrait.historical, ← htypeA, ← htypeB, ← hlength]

/-- Every answer to reset encloses its historical bytes, and a warning goes
with it if they are too many to be counted. A contactless card that was not
ejected gives the one around the historical bytes that stand for its tag,
whatever the tag tells. -/
theorem answers_to_reset_enclose {ω : Type} (machine : Machine Tag ω)
    (w : ω) :
    (∀ historical, Atr.Encloses historical (Atr.synthesize historical)) ∧
    Function.Injective Atr.synthesize ∧
    (∀ historical, Atr.warning? historical = none ↔
      historical.length ≤ 15) ∧
    ∃ atr w' said, (perform .atr false).run machine.handler.noted (w, []) =
        (some (.ok atr, false), w', said) ∧ Presents said atr := by
  refine ⟨Atr.encloses_synthesize, Atr.synthesize_injective,
    Atr.warning?_eq_none_iff, ?_⟩
  obtain ⟨result, w', said, hrun, -, hend⟩ := keeps_atr.run_noted machine w
  cases result with
  | none => exact absurd rfl hend
  | some atr =>
    refine ⟨atr, w', said, ?_, hend⟩
    rw [perform, run_bind, hrun]
    rfl

end Proximity

end CardBridge
