import Messenger.Text.Utf8

/-!
Words in network order, most significant byte first.
-/

namespace Messenger.Frame

open Text (Bytes)

def bytes16 (word : UInt16) : Bytes :=
  [UInt8.ofNat (word.toNat / 256), UInt8.ofNat word.toNat]

def bytes32 (word : UInt32) : Bytes :=
  [UInt8.ofNat (word.toNat / 16777216), UInt8.ofNat (word.toNat / 65536),
   UInt8.ofNat (word.toNat / 256), UInt8.ofNat word.toNat]

def word16 (high low : UInt8) : UInt16 :=
  UInt16.ofNat (high.toNat * 256 + low.toNat)

def word32 (first second third fourth : UInt8) : UInt32 :=
  UInt32.ofNat (((first.toNat * 256 + second.toNat) * 256 + third.toNat) * 256 + fourth.toNat)

end Messenger.Frame
