import Messenger.Digest.Padding

/-! MD5. -/

namespace Messenger.Digest

namespace Md5

structure State where
  a : UInt32 := 0x67452301
  b : UInt32 := 0xefcdab89
  c : UInt32 := 0x98badcfe
  d : UInt32 := 0x10325476
deriving DecidableEq, Repr

/-- The whole part of `2³² · |sin (i + 1)|`. -/
def sines : Vector UInt32 64 :=
  #v[
    0xd76aa478, 0xe8c7b756, 0x242070db, 0xc1bdceee, 0xf57c0faf, 0x4787c62a, 0xa8304613, 0xfd469501,
    0x698098d8, 0x8b44f7af, 0xffff5bb1, 0x895cd7be, 0x6b901122, 0xfd987193, 0xa679438e, 0x49b40821,
    0xf61e2562, 0xc040b340, 0x265e5a51, 0xe9b6c7aa, 0xd62f105d, 0x02441453, 0xd8a1e681, 0xe7d3fbc8,
    0x21e1cde6, 0xc33707d6, 0xf4d50d87, 0x455a14ed, 0xa9e3e905, 0xfcefa3f8, 0x676f02d9, 0x8d2a4c8a,
    0xfffa3942, 0x8771f681, 0x6d9d6122, 0xfde5380c, 0xa4beea44, 0x4bdecfa9, 0xf6bb4b60, 0xbebfbc70,
    0x289b7ec6, 0xeaa127fa, 0xd4ef3085, 0x04881d05, 0xd9d4d039, 0xe6db99e5, 0x1fa27cf8, 0xc4ac5665,
    0xf4292244, 0x432aff97, 0xab9423a7, 0xfc93a039, 0x655b59c3, 0x8f0ccc92, 0xffeff47d, 0x85845dd1,
    0x6fa87e4f, 0xfe2ce6e0, 0xa3014314, 0x4e0811a1, 0xf7537e82, 0xbd3af235, 0x2ad7d2bb, 0xeb86d391]

inductive Round where
  | first
  | second
  | third
  | fourth
deriving DecidableEq, Repr

namespace Round

@[inline] def mix : Round → UInt32 → UInt32 → UInt32 → UInt32
  | first, b, c, d => (b &&& c) ||| (~~~b &&& d)
  | second, b, c, d => (d &&& b) ||| (~~~d &&& c)
  | third, b, c, d => b ^^^ c ^^^ d
  | fourth, b, c, d => c ^^^ (b ||| ~~~d)

def place : Round → Nat → Nat
  | first, index => index
  | second, index => 5 * index + 1
  | third, index => 3 * index + 5
  | fourth, index => 7 * index

def turns : Round → Vector UInt32 4
  | first => #v[7, 12, 17, 22]
  | second => #v[5, 9, 14, 20]
  | third => #v[4, 11, 16, 23]
  | fourth => #v[6, 10, 15, 21]

end Round

structure Step where
  round : Round
  place : Fin 16
  sine : UInt32
  turn : UInt32
deriving Repr

def stepsOf (round : Round) (start : Nat) : List Step :=
  (List.range 16).map fun index =>
    { round, place := Fin.ofNat 16 (round.place index), sine := sines.toArray.getD (start + index) 0
      turn := round.turns[Fin.ofNat 4 index] }

def steps : List Step :=
  stepsOf .first 0 ++ stepsOf .second 16 ++ stepsOf .third 32 ++ stepsOf .fourth 48

def step (block : Vector UInt32 16) (state : State) (step : Step) : State :=
  let ⟨a, b, c, d⟩ := state
  let turned :=
    rotateLeft (step.round.mix b c d + a + step.sine + block[step.place]) step.turn
  ⟨d, b + turned, b, c⟩

def compress (state : State) (block : Vector UInt32 16) : State :=
  let mixed := steps.foldl (step block) state
  ⟨state.a + mixed.a, state.b + mixed.b, state.c + mixed.c, state.d + mixed.d⟩

def digest (state : State) : Vector UInt8 16 :=
  let words := #[state.a, state.b, state.c, state.d]
  Vector.ofFn fun index : Fin 16 =>
    UInt8.ofNat ((words.getD (index.val / 4) 0).toNat >>> (8 * (index.val % 4)))

end Md5

def md5 (message : ByteArray) : Vector UInt8 16 :=
  Md5.digest (absorb littleEndianWord Md5.compress {} (pad (littleEndian 8) message))

end Messenger.Digest
