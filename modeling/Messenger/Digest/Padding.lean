import Messenger.Text.Utf8

/-!
Messages filled up to whole blocks of sixty-four bytes, as MD5 and SHA-256 read them: a one bit,
zeros, and the number of bits in the last eight bytes.
-/

namespace Messenger.Digest

open Text (Bytes)

def paddingZeros (size : Nat) : Nat :=
  (119 - size % 64) % 64

def littleEndian (count value : Nat) : Bytes :=
  (List.range count).map fun index => UInt8.ofNat (value >>> (8 * index))

def bigEndian (count value : Nat) : Bytes :=
  (littleEndian count value).reverse

def pad (lengthBytes : Nat → Bytes) (message : ByteArray) : ByteArray :=
  message ++ Text.packed (0x80 :: List.replicate (paddingZeros message.size) 0 ++
    lengthBytes (8 * message.size))

@[inline] def littleEndianWord (first second third fourth : UInt8) : UInt32 :=
  first.toUInt32 ||| second.toUInt32 <<< 8 ||| third.toUInt32 <<< 16 ||| fourth.toUInt32 <<< 24

@[inline] def bigEndianWord (first second third fourth : UInt8) : UInt32 :=
  littleEndianWord fourth third second first

/-- A byte of the message, or zero behind its end. -/
def byteAt (message : ByteArray) (index : Nat) : UInt8 :=
  if h : index < message.size then message[index] else 0

@[specialize] def blockWords (word : UInt8 → UInt8 → UInt8 → UInt8 → UInt32) (message : ByteArray)
    (block : Nat) : Vector UInt32 16 :=
  Vector.ofFn fun index : Fin 16 =>
    let start := 64 * block + 4 * index.val
    word (byteAt message start) (byteAt message (start + 1)) (byteAt message (start + 2))
      (byteAt message (start + 3))

@[specialize] def absorb (word : UInt8 → UInt8 → UInt8 → UInt8 → UInt32)
    (compress : State → Vector UInt32 16 → State) (state : State) (message : ByteArray) : State :=
  (List.range (message.size / 64)).foldl
    (fun state block => compress state (blockWords word message block)) state

@[inline] def rotateLeft (word amount : UInt32) : UInt32 :=
  (word <<< amount) ||| (word >>> (32 - amount))

@[inline] def rotateRight (word amount : UInt32) : UInt32 :=
  (word >>> amount) ||| (word <<< (32 - amount))

end Messenger.Digest
