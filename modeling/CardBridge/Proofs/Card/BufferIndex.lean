import Mathlib
import CardBridge.Card.TypeB

/-!
# The buffer index in closed form

The buffer index of a Type B tag comes out of a division, a shift, a product,
a subtraction and a count of zeros, all of them on machine words. What it
amounts to is stated without any of these (`Fits`), and none of them ever
leaves the machine words (`carefully`).
-/

namespace CardBridge.TypeB

/-! ## What an index means -/

/-- The longest frame of a tag in octets, by its frame size code. -/
def sizes : List Nat :=
  [16, 24, 32, 40, 48, 64, 96, 128, 256]

/-- The high half of the second octet is the code of this frame size. -/
structure Announces (protocolInfo : Bytes) (size : Nat) : Prop where
  long : 2 ≤ protocolInfo.length
  coded : sizes[protocolInfo[1].toNat / 16]? = some size

/-- A message of `2 ^ (index - 1)` frames is as long as the longest message on
the air, or shorter by two octets at most. -/
structure Fits (protocolInfo : Bytes) (maxLength : UInt64) (index : Nat) :
    Prop where
  positive : 1 ≤ index
  half : index ≤ 15
  word : maxLength.toNat + 5 ≤ 2 ^ 64 - 1
  close : ∃ size, Announces protocolInfo size ∧
    size * 2 ^ (index - 1) ≤ maxLength.toNat + 5 ∧
    maxLength.toNat + 5 ≤ size * 2 ^ (index - 1) + 2

/-! ## Machine words that are not left -/

/-- The number of zeros in front of the highest one. -/
def zerosAbove (word : UInt64) : UInt64 :=
  .ofBitVec word.toBitVec.clz

/-- The number of zeros behind the lowest one. -/
def zerosBelow (word : UInt64) : UInt64 :=
  .ofBitVec word.toBitVec.ctz

/-- A difference, if it is not negative. -/
def minus? (a b : UInt64) : Option UInt64 :=
  if b.toNat ≤ a.toNat then some (a - b) else none

/-- A product, if it is a machine word. -/
def times? (a b : UInt64) : Option UInt64 :=
  if a.toNat * b.toNat < 2 ^ 64 then some (a * b) else none

/-- A shift by fewer places than a word has that loses no one. -/
def shift? (a places : UInt64) : Option UInt64 :=
  if places.toNat < 64 ∧ a.toNat * 2 ^ places.toNat < 2 ^ 64 then
    some (a <<< places)
  else none

/-- The buffer index for frames of `size` octets and a longest message of
`longest`, with the highest one of their ratio isolated by a shift. There is
no result if an operation leaves the machine words. -/
def carefully (size longest : UInt64) : Option (Option UInt8) :=
  let frames := longest / size
  if frames = 0 then some none
  else do
    let places ← minus? 63 (zerosAbove frames)
    let buffer ← times? (← shift? 1 places) size
    let excess ← minus? longest buffer
    if 2 < excess then return none
    let index := zerosBelow (buffer / size) + 1
    if 15 < index then return none
    return some index.toUInt8

/-- The buffer index of a tag, with every operation on machine words
checked. -/
def carefulIndex (protocolInfo : Bytes) (maxLength : UInt64) :
    Option (Option UInt8) :=
  match frameSize? protocolInfo, onAir? maxLength with
  | some size, some longest => carefully size longest
  | _, _ => some none

/-! ## Zeros and shifts -/

variable {word size longest : UInt64}

theorem toNat_log2 (word : UInt64) : word.log2.toNat = word.toNat.log2 := rfl

theorem toNat_pos_of_ne_zero (h : word ≠ 0) : 0 < word.toNat := by
  refine Nat.pos_of_ne_zero fun hzero => h ?_
  exact UInt64.toNat_inj.mp hzero

theorem log2_lt (word : UInt64) : word.toNat.log2 < 64 := by
  by_cases h : word.toNat = 0
  · simp [h]
  · exact (Nat.log2_lt h).mpr word.toNat_lt

/-- The zeros in front of the highest one and its place make up a word. -/
theorem toNat_zerosAbove (h : word ≠ 0) :
    (zerosAbove word).toNat + word.toNat.log2 = 63 := by
  have hpos := toNat_pos_of_ne_zero h
  have hne : word.toBitVec ≠ 0 := fun hzero =>
    h (UInt64.toBitVec_inj.mp hzero)
  have hclz : word.toBitVec.clz.toNat < 64 :=
    BitVec.clz_lt_iff_ne_zero.mpr hne
  have habove := BitVec.toNat_lt_two_pow_sub_clz (x := word.toBitVec)
  have hbelow :=
    BitVec.two_pow_sub_clz_le_toNat_of_ne_zero (by decide) hne
  have hlog : word.toNat.log2 = 63 - word.toBitVec.clz.toNat := by
    refine (Nat.log2_eq_iff (Nat.ne_of_gt hpos)).mpr ⟨hbelow, ?_⟩
    rw [show 63 - word.toBitVec.clz.toNat + 1 = 64 - word.toBitVec.clz.toNat
      by omega]
    exact habove
  show word.toBitVec.clz.toNat + word.toNat.log2 = 63
  omega

/-- Behind the one of a power of two are as many zeros as it has
doublings. -/
theorem toNat_zerosBelow {doublings : Nat}
    (h : word.toNat = 2 ^ doublings) :
    (zerosBelow word).toNat = doublings := by
  have hne : word.toBitVec ≠ 0 := by
    intro hzero
    have hpos := Nat.two_pow_pos doublings
    rw [← h, show word = 0 from UInt64.toBitVec_inj.mp hzero] at hpos
    exact absurd hpos (by decide)
  have hone := BitVec.getLsbD_true_ctz_of_ne_zero hne
  rw [BitVec.getLsbD, show word.toBitVec.toNat = _ from h,
    Nat.testBit_two_pow, decide_eq_true_iff] at hone
  exact hone.symm

theorem toNat_one_shiftLeft (word : UInt64) (h : word.toNat < 64) :
    ((1 : UInt64) <<< word).toNat = 2 ^ word.toNat := by
  have hlt : 2 ^ word.toNat < 2 ^ 64 := Nat.pow_lt_pow_right (by decide) h
  rw [UInt64.toNat_shiftLeft, Nat.mod_eq_of_lt h, Nat.shiftLeft_eq,
    show (1 : UInt64).toNat = 1 from rfl, Nat.one_mul, Nat.mod_eq_of_lt hlt]

/-! ## The computation in natural numbers -/

/-- The buffer index, computed in natural numbers. -/
def inNumbers (size longest : Nat) : Option UInt8 :=
  let doublings := (longest / size).log2
  if longest / size = 0 then none
  else if 2 < longest - 2 ^ doublings * size then none
  else if 15 < doublings + 1 then none
  else some (doublings + 1).toUInt8

theorem frames_eq_zero_iff :
    longest / size = 0 ↔ longest.toNat / size.toNat = 0 := by
  rw [← UInt64.toNat_inj, UInt64.toNat_div]
  rfl

/-- The greatest message of a power of two of frames is none too long. -/
theorem power_mul_le {size longest : Nat} (h : longest / size ≠ 0) :
    2 ^ (longest / size).log2 * size ≤ longest :=
  calc 2 ^ (longest / size).log2 * size
      ≤ longest / size * size :=
        Nat.mul_le_mul_right size (Nat.log2_self_le h)
    _ ≤ longest := Nat.div_mul_le_self longest size

/-- The product is a machine word. -/
theorem toNat_buffer (h : longest / size ≠ 0) :
    ((1 : UInt64) <<< (longest / size).log2 * size).toNat =
      2 ^ (longest.toNat / size.toNat).log2 * size.toNat := by
  have hpower := toNat_one_shiftLeft (longest / size).log2
    (log2_lt (longest / size))
  have hle := power_mul_le fun hzero => h (frames_eq_zero_iff.mpr hzero)
  rw [toNat_log2, UInt64.toNat_div] at hpower
  rw [UInt64.toNat_mul, hpower,
    Nat.mod_eq_of_lt (Nat.lt_of_le_of_lt hle longest.toNat_lt)]

/-- What is left of the longest message is not negative. -/
theorem toNat_excess (h : longest / size ≠ 0) :
    (longest - (1 : UInt64) <<< (longest / size).log2 * size).toNat =
      longest.toNat - 2 ^ (longest.toNat / size.toNat).log2 * size.toNat := by
  have hle := power_mul_le fun hzero => h (frames_eq_zero_iff.mpr hzero)
  rw [UInt64.toNat_sub_of_le, toNat_buffer h]
  rw [UInt64.le_iff_toNat_le, toNat_buffer h]
  exact hle

theorem toNat_log2_succ (word : UInt64) :
    (word.log2 + 1).toNat = word.toNat.log2 + 1 := by
  have hlt := log2_lt word
  rw [UInt64.toNat_add, toNat_log2]
  exact Nat.mod_eq_of_lt (by simp; omega)

theorem toUInt8_eq {n : Nat} (h : word.toNat = n) :
    word.toUInt8 = n.toUInt8 := by
  apply UInt8.toNat_inj.mp
  rw [UInt64.toNat_toUInt8, h]
  rfl

theorem bufferIndex?_eq_inNumbers {protocolInfo : Bytes} {maxLength : UInt64}
    (hsize : frameSize? protocolInfo = some size)
    (hlongest : onAir? maxLength = some longest) :
    bufferIndex? protocolInfo maxLength =
      inNumbers size.toNat longest.toNat := by
  simp only [bufferIndex?, hsize, hlongest, Option.bind_eq_bind,
    Option.bind_some, inNumbers, frames_eq_zero_iff]
  split
  · rfl
  · rename_i hframes
    rw [← frames_eq_zero_iff] at hframes
    have hindex := toNat_log2_succ (longest / size)
    rw [UInt64.toNat_div] at hindex
    simp only [gt_iff_lt, UInt64.lt_iff_toNat_lt, toNat_excess hframes, hindex,
      toUInt8_eq hindex]
    rfl

/-! ## No operation leaves the machine words -/

theorem minus?_eq_some {a b difference : UInt64}
    (h : b.toNat + difference.toNat = a.toNat) :
    minus? a b = some difference := by
  have hle : b.toNat ≤ a.toNat := by omega
  have hsub : (a - b).toNat = difference.toNat := by
    rw [UInt64.toNat_sub_of_le a b (UInt64.le_iff_toNat_le.mpr hle)]
    omega
  simp [minus?, hle, UInt64.toNat_inj.mp hsub]

theorem places_eq (h : longest / size ≠ 0) :
    minus? 63 (zerosAbove (longest / size)) = some (longest / size).log2 :=
  minus?_eq_some (toNat_zerosAbove h)

theorem shift?_log2 (word : UInt64) :
    shift? 1 word.log2 = some (1 <<< word.log2) := by
  have hlt := log2_lt word
  have hpower : 2 ^ word.toNat.log2 < 2 ^ 64 :=
    Nat.pow_lt_pow_right (by decide) hlt
  simp only [shift?, toNat_log2, show (1 : UInt64).toNat = 1 from rfl,
    Nat.one_mul]
  rw [if_pos ⟨hlt, hpower⟩]

theorem times?_buffer (h : longest / size ≠ 0) :
    times? (1 <<< (longest / size).log2) size =
      some (1 <<< (longest / size).log2 * size) := by
  have hpower := toNat_one_shiftLeft (longest / size).log2
    (log2_lt (longest / size))
  have hle := power_mul_le fun hzero => h (frames_eq_zero_iff.mpr hzero)
  rw [toNat_log2, UInt64.toNat_div] at hpower
  rw [times?, if_pos]
  rw [hpower]
  exact Nat.lt_of_le_of_lt hle longest.toNat_lt

theorem minus?_buffer (h : longest / size ≠ 0) :
    minus? longest (1 <<< (longest / size).log2 * size) =
      some (longest - 1 <<< (longest / size).log2 * size) := by
  have hle := power_mul_le fun hzero => h (frames_eq_zero_iff.mpr hzero)
  apply minus?_eq_some
  rw [toNat_buffer h, toNat_excess h]
  exact Nat.add_sub_of_le hle

/-- The zeros behind the one of the isolated power of two. -/
theorem toNat_zerosBelow_buffer (hsize : size ≠ 0) (h : longest / size ≠ 0) :
    (zerosBelow (1 <<< (longest / size).log2 * size / size)).toNat =
      (longest.toNat / size.toNat).log2 := by
  apply toNat_zerosBelow
  rw [UInt64.toNat_div, toNat_buffer h]
  exact Nat.mul_div_cancel _ (toNat_pos_of_ne_zero hsize)

theorem carefully_eq_inNumbers (hsize : size ≠ 0) :
    carefully size longest = some (inNumbers size.toNat longest.toNat) := by
  by_cases h : longest / size = 0
  · simp [carefully, inNumbers, h, frames_eq_zero_iff.mp h]
  · have hzeros := toNat_zerosBelow_buffer hsize h
    have hlt := log2_lt (longest / size)
    rw [UInt64.toNat_div] at hlt
    have hindex :
        (zerosBelow (1 <<< (longest / size).log2 * size / size) + 1).toNat =
          (longest.toNat / size.toNat).log2 + 1 := by
      rw [UInt64.toNat_add, hzeros]
      exact Nat.mod_eq_of_lt (by simp; omega)
    simp only [carefully, inNumbers, if_neg h,
      if_neg (fun hzero => h (frames_eq_zero_iff.mpr hzero)), places_eq h,
      shift?_log2, times?_buffer h, minus?_buffer h, Option.bind_eq_bind,
      Option.bind_some, UInt64.lt_iff_toNat_lt, UInt64.reduceToNat,
      toNat_excess h, hindex, toUInt8_eq hindex]
    split
    · rfl
    · split <;> rfl

/-! ## The closed form -/

/-- A message of a power of two of frames that comes close enough to the
longest one has all the frames there are. -/
theorem frames_eq_power {size longest doublings : Nat} (hsize : 3 ≤ size)
    (hle : size * 2 ^ doublings ≤ longest)
    (hclose : longest ≤ size * 2 ^ doublings + 2) :
    longest / size = 2 ^ doublings := by
  apply Nat.div_eq_of_lt_le
  · rw [Nat.mul_comm]
    exact hle
  · rw [Nat.succ_mul, Nat.mul_comm]
    omega

theorem toNat_toUInt8_of_le {n : Nat} (h : n ≤ 15) : n.toUInt8.toNat = n := by
  show n % 256 = n
  omega

theorem inNumbers_eq_some_iff {size longest : Nat} (hsize : 3 ≤ size)
    {index : UInt8} :
    inNumbers size longest = some index ↔
      (1 ≤ index.toNat ∧ index.toNat ≤ 15) ∧
        size * 2 ^ (index.toNat - 1) ≤ longest ∧
          longest ≤ size * 2 ^ (index.toNat - 1) + 2 := by
  constructor
  · intro h
    simp only [inNumbers] at h
    split at h
    · cases h
    · rename_i hframes
      have hle := power_mul_le hframes
      rw [Nat.mul_comm] at hle
      rw [Nat.mul_comm] at h
      split at h
      · cases h
      · split at h
        · cases h
        · obtain rfl := Option.some.inj h
          rw [toNat_toUInt8_of_le (by omega), Nat.add_sub_cancel]
          omega
  · rintro ⟨⟨hpositive, hhalf⟩, hle, hclose⟩
    have hframes := frames_eq_power hsize hle hclose
    have hpower := Nat.two_pow_pos (index.toNat - 1)
    have hsucc : index.toNat - 1 + 1 = index.toNat := by omega
    simp only [inNumbers, hframes, Nat.log2_two_pow, hsucc]
    rw [if_neg (by omega), Nat.mul_comm, if_neg (by omega),
      if_neg (by omega)]
    exact congrArg some UInt8.ofNat_toNat

theorem sizes_eq : sizes = frameSizes.map UInt64.toNat := rfl

theorem three_le_of_mem_sizes {size : Nat} (h : size ∈ sizes) : 3 ≤ size := by
  revert size
  decide

theorem toNat_highHalf (octet : UInt8) :
    (octet >>> 4).toNat = octet.toNat / 16 := by
  simp [UInt8.toNat_shiftRight, Nat.shiftRight_eq_div_pow]

theorem announces_iff {protocolInfo : Bytes} {size : Nat} :
    Announces protocolInfo size ↔
      (frameSize? protocolInfo).map UInt64.toNat = some size := by
  by_cases hlong : 2 ≤ protocolInfo.length
  · have hmap : (frameSize? protocolInfo).map UInt64.toNat =
        sizes[protocolInfo[1].toNat / 16]? := by
      simp only [frameSize?, List.getElem?_eq_getElem hlong,
        Option.bind_eq_bind, Option.bind_some, toNat_highHalf, sizes_eq,
        List.getElem?_map]
    rw [hmap]
    exact ⟨fun h => h.coded, fun h => ⟨hlong, h⟩⟩
  · have hnone : frameSize? protocolInfo = none := by
      have hshort : protocolInfo[1]? = none :=
        List.getElem?_eq_none (by omega)
      simp [frameSize?, hshort]
    rw [hnone]
    exact ⟨fun h => absurd h.long hlong, fun h => nomatch h⟩

theorem onAir?_eq_some_iff {maxLength longest : UInt64} :
    onAir? maxLength = some longest ↔
      maxLength.toNat + 5 ≤ 2 ^ 64 - 1 ∧
        longest.toNat = maxLength.toNat + 5 := by
  have hsize : UInt64.size = 2 ^ 64 := rfl
  simp only [onAir?]
  split
  · rename_i hlt
    have hadd : (maxLength + 5).toNat = maxLength.toNat + 5 := by
      rw [UInt64.toNat_add]
      exact Nat.mod_eq_of_lt hlt
    constructor
    · rintro ⟨⟩
      exact ⟨by omega, hadd⟩
    · rintro ⟨-, hlongest⟩
      exact congrArg some (UInt64.toNat_inj.mp (hadd.trans hlongest.symm))
  · rename_i hlt
    constructor
    · rintro ⟨⟩
    · rintro ⟨hword, -⟩
      omega

/-- There is one frame size a protocol info announces. -/
theorem Announces.unique {protocolInfo : Bytes} {size other : Nat}
    (h : Announces protocolInfo size) (h' : Announces protocolInfo other) :
    size = other :=
  Option.some.inj (h.coded.symm.trans h'.coded)

theorem Announces.three_le {protocolInfo : Bytes} {size : Nat}
    (h : Announces protocolInfo size) : 3 ≤ size :=
  three_le_of_mem_sizes (List.mem_of_getElem? h.coded)

theorem bufferIndex?_eq_some_iff {protocolInfo : Bytes} {maxLength : UInt64}
    {index : UInt8} :
    bufferIndex? protocolInfo maxLength = some index ↔
      Fits protocolInfo maxLength index.toNat := by
  constructor
  · intro h
    have hparts := h
    simp only [bufferIndex?, Option.bind_eq_bind, Option.bind_eq_some_iff]
      at hparts
    obtain ⟨size, hsize, longest, hlongest, -⟩ := hparts
    have hann : Announces protocolInfo size.toNat :=
      announces_iff.mpr (by rw [hsize]; rfl)
    obtain ⟨hword, hadd⟩ := onAir?_eq_some_iff.mp hlongest
    rw [bufferIndex?_eq_inNumbers hsize hlongest,
      inNumbers_eq_some_iff hann.three_le, hadd] at h
    exact ⟨h.1.1, h.1.2, hword, size.toNat, hann, h.2⟩
  · rintro ⟨hpositive, hhalf, hword, size, hann, hclose⟩
    obtain ⟨wide, hsize, rfl⟩ := Option.map_eq_some_iff.mp
      (announces_iff.mp hann)
    have hlongest : onAir? maxLength = some (maxLength + 5) :=
      if_pos (by have : UInt64.size = 2 ^ 64 := rfl; omega)
    have hadd := (onAir?_eq_some_iff.mp hlongest).2
    rw [bufferIndex?_eq_inNumbers hsize hlongest,
      inNumbers_eq_some_iff hann.three_le, hadd]
    exact ⟨⟨hpositive, hhalf⟩, hclose⟩

example : bufferIndex? [0x00, 0x80, 0x00] 253 = some 1 ∧
    bufferIndex? [0x00, 0x80, 0x00] 254 = none := by
  decide +kernel

/-- No two indices fit. -/
theorem Fits.unique {protocolInfo : Bytes} {maxLength : UInt64}
    {index other : Nat} (h : Fits protocolInfo maxLength index)
    (h' : Fits protocolInfo maxLength other) : index = other := by
  obtain ⟨size, hann, hle, hclose⟩ := h.close
  obtain ⟨size', hann', hle', hclose'⟩ := h'.close
  obtain rfl := hann.unique hann'
  have hpowers := (frames_eq_power hann.three_le hle hclose).symm.trans
    (frames_eq_power hann.three_le hle' hclose')
  have hexponents := (Nat.pow_right_inj (by decide)).mp hpowers
  have := h.positive
  have := h'.positive
  omega

/-- The operations on machine words do what they do on numbers. -/
theorem carefulIndex_eq (protocolInfo : Bytes) (maxLength : UInt64) :
    carefulIndex protocolInfo maxLength =
      some (bufferIndex? protocolInfo maxLength) := by
  simp only [carefulIndex]
  split
  · rename_i size longest hsize hlongest
    have hann : Announces protocolInfo size.toNat :=
      announces_iff.mpr (by rw [hsize]; rfl)
    have hne : size ≠ 0 := by
      rintro rfl
      exact absurd hann.three_le (by decide)
    rw [bufferIndex?_eq_inNumbers hsize hlongest, carefully_eq_inNumbers hne]
  · rename_i hnone
    cases hsize : frameSize? protocolInfo with
    | none => simp [bufferIndex?, hsize]
    | some size =>
      cases hlongest : onAir? maxLength with
      | none => simp [bufferIndex?, hsize, hlongest]
      | some longest => exact absurd hlongest (hnone size longest hsize)

/-! ## Historical bytes -/

/-- Everything they were made of can be read back from historical bytes. -/
structure Records (info : Info) (maxLength : UInt64) (bytes : Bytes) :
    Prop where
  eight : bytes.length = 8
  application : bytes.take 4 = info.applicationData
  protocol : (bytes.drop 4).take 3 = info.protocolInfo
  index : ∃ last, bytes[7]? = some last ∧ last.toNat % 16 = 0 ∧
    Fits info.protocolInfo maxLength (last.toNat / 16)

theorem toNat_shiftLeft_four {index : UInt8} (h : index.toNat ≤ 15) :
    (index <<< (4 : UInt8)).toNat = index.toNat * 16 := by
  rw [UInt8.toNat_shiftLeft, show (4 : UInt8).toNat % 8 = 4 from rfl,
    Nat.shiftLeft_eq]
  omega

variable {info : Info} {maxLength : UInt64}

theorem historical?_eq_some_iff {bytes : Bytes} :
    historical? info maxLength = some bytes ↔
      (info.applicationData.length = 4 ∧ info.protocolInfo.length = 3) ∧
        ∃ index : UInt8, Fits info.protocolInfo maxLength index.toNat ∧
          info.applicationData ++ info.protocolInfo ++
            [index <<< (4 : UInt8)] = bytes := by
  simp only [historical?, Option.ite_none_right_eq_some,
    Option.map_eq_some_iff, bufferIndex?_eq_some_iff]

theorem isSome_historical?_iff :
    (historical? info maxLength).isSome ↔
      info.applicationData.length = 4 ∧ info.protocolInfo.length = 3 ∧
        ∃ index, Fits info.protocolInfo maxLength index := by
  simp only [Option.isSome_iff_exists, historical?_eq_some_iff]
  constructor
  · rintro ⟨bytes, ⟨happlication, hprotocol⟩, index, hfits, -⟩
    exact ⟨happlication, hprotocol, index.toNat, hfits⟩
  · rintro ⟨happlication, hprotocol, index, hfits⟩
    have hbyte := toNat_toUInt8_of_le hfits.half
    rw [← hbyte] at hfits
    exact ⟨_, ⟨happlication, hprotocol⟩, index.toUInt8, hfits, rfl⟩

theorem records_of_historical? {bytes : Bytes}
    (h : historical? info maxLength = some bytes) :
    Records info maxLength bytes := by
  obtain ⟨⟨happlication, hprotocol⟩, index, hfits, rfl⟩ :=
    historical?_eq_some_iff.mp h
  have hlast := toNat_shiftLeft_four hfits.half
  have hseven : (info.applicationData ++ info.protocolInfo).length = 7 := by
    rw [List.length_append, happlication, hprotocol]
  refine ⟨?_, ?_, ?_, index <<< 4, ?_, ?_, ?_⟩
  · rw [List.length_append, hseven]
    rfl
  · rw [List.append_assoc, ← happlication, List.take_left]
  · rw [List.append_assoc, ← happlication, List.drop_left, ← hprotocol,
      List.take_left]
  · rw [← hseven, List.getElem?_concat_length]
  · omega
  · rw [hlast, Nat.mul_div_cancel _ (by decide)]
    exact hfits

/-- The buffer index is there exactly for the messages it fits, and there is
one at most. No operation on the way leaves the machine words. Historical
bytes are there whenever an index and well-formed data are, and lose nothing
of them. -/
theorem index_in_closed_form (info : Info) (maxLength : UInt64) :
    (∀ index : UInt8,
      bufferIndex? info.protocolInfo maxLength = some index ↔
        Fits info.protocolInfo maxLength index.toNat) ∧
    (∀ index other, Fits info.protocolInfo maxLength index →
      Fits info.protocolInfo maxLength other → index = other) ∧
    carefulIndex info.protocolInfo maxLength =
      some (bufferIndex? info.protocolInfo maxLength) ∧
    ((historical? info maxLength).isSome ↔
      info.applicationData.length = 4 ∧ info.protocolInfo.length = 3 ∧
        ∃ index, Fits info.protocolInfo maxLength index) ∧
    ∀ bytes, historical? info maxLength = some bytes →
      Records info maxLength bytes :=
  ⟨fun _ => bufferIndex?_eq_some_iff, fun _ _ => Fits.unique,
    carefulIndex_eq _ _, isSome_historical?_iff,
    fun _ => records_of_historical?⟩

/-- Frames of 256 octets and 1019 octets at most, which make 1024 on the
air. -/
theorem index_in_closed_form_of_four_frames :
    Fits [0x00, 0x80, 0x00] 1019 3 ∧
      (∀ other, Fits [0x00, 0x80, 0x00] 1019 other → 3 = other) ∧
      Records ⟨[0x11, 0x22, 0x33, 0x44], [0x00, 0x80, 0x00]⟩ 1019
        [0x11, 0x22, 0x33, 0x44, 0x00, 0x80, 0x00, 0x30] := by
  obtain ⟨hindex, hunique, -, -, hrecords⟩ := index_in_closed_form
    ⟨[0x11, 0x22, 0x33, 0x44], [0x00, 0x80, 0x00]⟩ 1019
  have hfits : Fits [0x00, 0x80, 0x00] 1019 3 :=
    (hindex 3).mp (by decide +kernel)
  exact ⟨hfits, fun other => hunique 3 other hfits,
    hrecords _ (by decide +kernel)⟩

end CardBridge.TypeB
