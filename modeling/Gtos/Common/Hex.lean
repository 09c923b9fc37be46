import Gtos.Lib.Bytes
import Gtos.Common.Types

/-! # Addresses and words from bytes and text (`common/bytes.go`, `common/types.go`)

The lenient conversions of package `common`: they never fail. A byte string longer than a word
keeps its last 32 bytes and a shorter one is padded on the left, and hexadecimal text is read up
to its first pair that is not two digits. -/

namespace Gtos

/-- `has0xPrefix`. -/
def has0xPrefix (s : List Char) : Bool :=
  match s with
  | '0' :: 'x' :: _ => true
  | '0' :: 'X' :: _ => true
  | _ => false

/-- `common.FromHex`: the prefix dropped, an odd length padded with a leading zero, then
`Hex2Bytes`, which keeps what `hex.DecodeString` decoded before an error. -/
def fromHex (s : String) : List UInt8 :=
  let cs := if has0xPrefix s.toList then s.toList.drop 2 else s.toList
  let cs := if cs.length % 2 = 1 then '0' :: cs else cs
  Hex.decodePrefix cs

/-- `common.BytesToAddress`: the last 32 bytes, padded on the left. -/
def bytesToAddress (b : List UInt8) : Address :=
  BitVec.ofNat 256 (Bytes.ofBytesBE b)

/-- `common.BytesToHash`: the last 32 bytes, padded on the left. -/
def bytesToHash (b : List UInt8) : Hash :=
  BitVec.ofNat 256 (Bytes.ofBytesBE b)

/-- `common.HexToAddress`. -/
def hexToAddress (s : String) : Address :=
  bytesToAddress (fromHex s)

/-- `common.HexToHash`. -/
def hexToHash (s : String) : Hash :=
  bytesToHash (fromHex s)

/-- `Bytes()` of an address or a hash: its 32 bytes. -/
def wordBytes (a : BitVec 256) : List UInt8 :=
  Bytes.toBytesBE a.toNat 32

end Gtos
