import Messenger.Auth.PasswordHashes
import Messenger.Digest.Sha256

/-!
The second answer to a challenge: two nested SHA-256 digests under a key, and the first twenty
bytes of the outer one as ten groups of five characters.
-/

namespace Messenger.Auth.KeyedDigest

open Text (Bytes packed)
open Digest (md5 sha256)

def blockSize : Nat := 64

def imprint (username : String) (challenge : Bytes) : Bytes :=
  (md5 (packed (challenge ++ Text.utf8 username))).toList.take 4

def blockKey (key : Bytes) : Bytes :=
  key.take blockSize ++ List.replicate (blockSize - key.length) 0

def padded (pad : UInt8) (key : Bytes) : Bytes :=
  (blockKey key).map (· ^^^ pad)

def digest (key imprint challenge : Bytes) : Vector UInt8 32 :=
  let inner := sha256 (packed (padded 0x36 key ++ imprint ++ challenge))
  sha256 (packed (padded 0x5c key ++ inner.toList))

def headAlphabet : Vector Char 32 :=
  #v['F', 'B', 'Z', 'D', 'W', 'A', 'G', 'H', 'r', 'J', 'T', 'L', 'M', 'N', 'O', 'P',
     'Q', 'R', 'S', 'K', 'U', 'V', 'E', 'X', 'Y', 'C', 'h', 'I', 'm', 'k', 'w', 'Q']

def tailAlphabet : Vector Char 32 :=
  #v['F', '0', 'E', '1', 'D', '2', 'C', '3', 'B', '4', 'A', '5', '9', '6', '8', '7',
     'a', 'b', 'c', 'd', 'e', 'f', 'g', 'h', 'i', 'j', 'k', 'l', 'm', 'n', 'o', 'p']

def delimiters : Vector Char 2 :=
  #v[',', ';']

/-- Five, five, five and one of the sixteen bits of two bytes, the highest first. -/
def group (high low : UInt8) : List Char :=
  let value := high.toNat * 256 + low.toNat
  [headAlphabet[Fin.ofNat 32 (value / 2048)], '=', tailAlphabet[Fin.ofNat 32 (value / 64)],
   tailAlphabet[Fin.ofNat 32 (value / 2)], delimiters[Fin.ofNat 2 value]]

def pair (digest : Vector UInt8 32) (index : Fin 10) : UInt8 × UInt8 :=
  (digest[2 * index.val], digest[2 * index.val + 1])

def render (digest : Vector UInt8 32) : List Char :=
  (List.finRange 10).flatMap fun index => group (pair digest index).1 (pair digest index).2

def answer (key username : String) (challenge : Bytes) : String :=
  String.ofList (render (digest (Text.utf8 key) (imprint username challenge) challenge))

end Messenger.Auth.KeyedDigest
