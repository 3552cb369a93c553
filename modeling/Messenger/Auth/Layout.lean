import Messenger.Auth.PasswordHashes

/-!
The first answer to a challenge: one digest of key, username and challenge, in an order that the
challenge chooses, behind a byte of the challenge. Positions past the end begin anew.
-/

namespace Messenger.Auth

open Text (Bytes)

inductive Part where
  | key
  | user
  | seed
deriving DecidableEq, Repr

/-- The order of the parts, and the place in the challenge that leads to the byte before them. -/
structure Layout where
  pointer : Nat
  order : List Part
deriving DecidableEq, Repr

namespace Layout

def all : Vector Layout 5 :=
  #v[⟨7, [.key, .user, .seed]⟩, ⟨9, [.user, .seed, .key]⟩, ⟨15, [.seed, .key, .user]⟩,
     ⟨1, [.user, .key, .seed]⟩, ⟨3, [.key, .seed, .user]⟩]

def byteAt (challenge : Bytes) (place : Nat) : Nat :=
  (challenge.getD (place % challenge.length) 0).toNat

def chosen (challenge : Bytes) : Layout :=
  all[Fin.ofNat 5 (byteAt challenge 15 % 8)]

def checksum (challenge : Bytes) : Nat :=
  byteAt challenge (byteAt challenge (chosen challenge).pointer % 16)

def message (key username : String) (challenge : Bytes) : Bytes :=
  UInt8.ofNat (checksum challenge) :: (chosen challenge).order.flatMap fun
    | .key => Text.utf8 key
    | .user => Text.utf8 username
    | .seed => challenge

def answer (key username : String) (challenge : Bytes) : String :=
  Radix64.text (Digest.md5 (Text.packed (message key username challenge))).toList

end Layout

end Messenger.Auth
