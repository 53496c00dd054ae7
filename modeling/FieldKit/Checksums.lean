/-
  File:      FieldKit/Checksums.lean
  Subject:   `crc32_update` (checksums.cpp), and the little-endian integers of records and messages.
-/
import FieldKit.Platform

namespace FieldKit

/-- `crc_table`. -/
def crcTable : BitVec 8 → BitVec 32
  | 0x0 => 0x00000000
  | 0x1 => 0x1db71064
  | 0x2 => 0x3b6e20c8
  | 0x3 => 0x26d930ac
  | 0x4 => 0x76dc4190
  | 0x5 => 0x6b6b51f4
  | 0x6 => 0x4db26158
  | 0x7 => 0x5005713c
  | 0x8 => 0xedb88320
  | 0x9 => 0xf00f9344
  | 0xa => 0xd6d6a3e8
  | 0xb => 0xcb61b38c
  | 0xc => 0x9b64c2b0
  | 0xd => 0x86d3d2d4
  | 0xe => 0xa00ae278
  | _ => 0xbdbdf21c

/-- `crc32_update(crc, data)`: a table step for each half of the byte, the low half first. -/
def crc32Update (crc : BitVec 32) (data : Byte) : BitVec 32 :=
  let tblIdx := crc.setWidth 8 ^^^ data
  let crc := crcTable (tblIdx &&& 0x0f) ^^^ (crc >>> 4)
  let tblIdx := crc.setWidth 8 ^^^ (data >>> 4)
  crcTable (tblIdx &&& 0x0f) ^^^ (crc >>> 4)

/-- What `Crc32Reader` and `Crc32Writer` have in `crc_` after these bytes went through. -/
def crc32Of (bytes : List Byte) : BitVec 32 := bytes.foldl crc32Update (BitVec.allOnes 32)

theorem crc32Of_append (bytes more : List Byte) :
    crc32Of (bytes ++ more) = more.foldl crc32Update (crc32Of bytes) := List.foldl_append

/-- The `uint32_t` that `memcpy` makes of four bytes; there must be that many. -/
def uint32Of : List Byte → Option (BitVec 32)
  | b0 :: b1 :: b2 :: b3 :: _ => some (b3 ++ b2 ++ b1 ++ b0)
  | _ => none

end FieldKit
