import Messenger.Digest.Padding

/-! SHA-256. -/

namespace Messenger.Digest

namespace Sha256

structure State where
  a : UInt32 := 0x6a09e667
  b : UInt32 := 0xbb67ae85
  c : UInt32 := 0x3c6ef372
  d : UInt32 := 0xa54ff53a
  e : UInt32 := 0x510e527f
  f : UInt32 := 0x9b05688c
  g : UInt32 := 0x1f83d9ab
  h : UInt32 := 0x5be0cd19
deriving DecidableEq, Repr

/-- The first fraction bits of the cube roots of the primes. -/
def roots : Vector UInt32 64 :=
  #v[
    0x428a2f98, 0x71374491, 0xb5c0fbcf, 0xe9b5dba5, 0x3956c25b, 0x59f111f1, 0x923f82a4, 0xab1c5ed5,
    0xd807aa98, 0x12835b01, 0x243185be, 0x550c7dc3, 0x72be5d74, 0x80deb1fe, 0x9bdc06a7, 0xc19bf174,
    0xe49b69c1, 0xefbe4786, 0x0fc19dc6, 0x240ca1cc, 0x2de92c6f, 0x4a7484aa, 0x5cb0a9dc, 0x76f988da,
    0x983e5152, 0xa831c66d, 0xb00327c8, 0xbf597fc7, 0xc6e00bf3, 0xd5a79147, 0x06ca6351, 0x14292967,
    0x27b70a85, 0x2e1b2138, 0x4d2c6dfc, 0x53380d13, 0x650a7354, 0x766a0abb, 0x81c2c92e, 0x92722c85,
    0xa2bfe8a1, 0xa81a664b, 0xc24b8b70, 0xc76c51a3, 0xd192e819, 0xd6990624, 0xf40e3585, 0x106aa070,
    0x19a4c116, 0x1e376c08, 0x2748774c, 0x34b0bcb5, 0x391c0cb3, 0x4ed8aa4a, 0x5b9cca4f, 0x682e6ff3,
    0x748f82ee, 0x78a5636f, 0x84c87814, 0x8cc70208, 0x90befffa, 0xa4506ceb, 0xbef9a3f7, 0xc67178f2]

/-- The word that follows the sixteen of a window, whose first is the oldest. -/
def nextWord (window : Vector UInt32 16) : UInt32 :=
  let early := window[1]
  let late := window[14]
  window[0] + (rotateRight early 7 ^^^ rotateRight early 18 ^^^ (early >>> 3)) +
    window[9] + (rotateRight late 17 ^^^ rotateRight late 19 ^^^ (late >>> 10))

def slide (window : Vector UInt32 16) (word : UInt32) : Vector UInt32 16 :=
  Vector.ofFn fun index : Fin 16 => if h : index.val + 1 < 16 then window[index.val + 1] else word

def step (state : State) (root word : UInt32) : State :=
  let ⟨a, b, c, d, e, f, g, h⟩ := state
  let first := h + (rotateRight e 6 ^^^ rotateRight e 11 ^^^ rotateRight e 25) +
    ((e &&& f) ^^^ (~~~e &&& g)) + root + word
  let second := (rotateRight a 2 ^^^ rotateRight a 13 ^^^ rotateRight a 22) +
    ((a &&& b) ^^^ (a &&& c) ^^^ (b &&& c))
  ⟨first + second, a, b, c, d + first, e, f, g⟩

def compress (state : State) (block : Vector UInt32 16) : State :=
  let (mixed, _) := roots.toList.foldl
    (fun (state, window) root => (step state root window[0], slide window (nextWord window)))
    (state, block)
  ⟨state.a + mixed.a, state.b + mixed.b, state.c + mixed.c, state.d + mixed.d,
   state.e + mixed.e, state.f + mixed.f, state.g + mixed.g, state.h + mixed.h⟩

def digest (state : State) : Vector UInt8 32 :=
  let words := #[state.a, state.b, state.c, state.d, state.e, state.f, state.g, state.h]
  Vector.ofFn fun index : Fin 32 =>
    UInt8.ofNat ((words.getD (index.val / 4) 0).toNat >>> (8 * (3 - index.val % 4)))

end Sha256

def sha256 (message : ByteArray) : Vector UInt8 32 :=
  Sha256.digest (absorb bigEndianWord Sha256.compress {} (pad (bigEndian 8) message))

end Messenger.Digest
