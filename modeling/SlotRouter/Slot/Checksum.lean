/-!
# The checksum of keys

CRC-16/XMODEM: polynomial `x ^ 16 + x ^ 12 + x ^ 5 + 1`, initial value zero, most significant bit
first, no final inversion.

* `shiftBit`: one step of the division;
* `pushByte`: eight steps, after the byte was added to the high half;
* `checksum`: the remainder of a byte sequence.
-/

namespace SlotRouter

/-- The polynomial without its leading term. -/
def checksumPolynomial : UInt16 := 0x1021

def shiftBit (crc : UInt16) : UInt16 :=
  if crc &&& 0x8000 = 0 then crc <<< 1 else (crc <<< 1) ^^^ checksumPolynomial

def pushByte (crc : UInt16) (b : UInt8) : UInt16 :=
  Nat.repeat shiftBit 8 (crc ^^^ (b.toUInt16 <<< 8))

def checksum (bytes : List UInt8) : UInt16 := bytes.foldl pushByte 0

end SlotRouter
