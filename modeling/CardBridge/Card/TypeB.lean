import CardBridge.Bytes

/-!
# Historical bytes of a Type B tag

A Type B tag has no historical bytes of its own. They are made of its
application data (4 bytes), its protocol info (3 bytes) and, in the high
half of the last byte, an index for the longest message it takes.

Lengths are machine words of 64 bits.
-/

namespace CardBridge.TypeB

/-- What a Type B tag tells about itself when it is activated. -/
structure Info where
  applicationData : Bytes
  protocolInfo : Bytes
  deriving Repr, DecidableEq

/-- The longest frame of a tag, by its frame size code. Higher codes are
reserved. -/
def frameSizes : List UInt64 :=
  [16, 24, 32, 40, 48, 64, 96, 128, 256]

/-- The longest frame of a tag with this protocol info. The code is the high
half of its second byte. -/
def frameSize? (protocolInfo : Bytes) : Option UInt64 := do
  frameSizes[((← protocolInfo[1]?) >>> 4).toNat]?

/-- The length of a message on the air: around what is sent are at most five
bytes. There is none if it is no machine word. -/
def onAir? (maxLength : UInt64) : Option UInt64 :=
  if maxLength.toNat + 5 < UInt64.size then some (maxLength + 5) else none

/-- The buffer index of a tag: `i` says that the tag takes a message of
`2 ^ (i - 1)` frames. It is the greatest such message that fits into the
longest message of the reader, which may exceed it by two bytes at most. -/
def bufferIndex? (protocolInfo : Bytes) (maxLength : UInt64) :
    Option UInt8 := do
  let size ← frameSize? protocolInfo
  let longest ← onAir? maxLength
  let frames := longest / size
  let doublings := frames.log2
  let buffer := (1 <<< doublings) * size
  if frames = 0 then none
  else if longest - buffer > 2 then none
  else if doublings + 1 > 15 then none
  else some (doublings + 1).toUInt8

/-- The historical bytes of a Type B tag, if its data are well formed and a
buffer index exists. -/
def historical? (info : Info) (maxLength : UInt64) : Option Bytes :=
  if info.applicationData.length = 4 ∧ info.protocolInfo.length = 3 then
    (bufferIndex? info.protocolInfo maxLength).map fun index =>
      info.applicationData ++ info.protocolInfo ++ [index <<< (4 : UInt8)]
  else none

end CardBridge.TypeB
