import Messenger.Auth.CryptHash
import Messenger.Auth.Radix64

/-!
The two keys that come from a password: one from its MD5, one from its salted hash.
-/

namespace Messenger.Auth

structure PasswordHashes where
  password : String
  crypt : String
deriving DecidableEq, Repr

namespace PasswordHashes

def salt : String := "_2S43d5f"

def ofPassword (password : String) : PasswordHashes where
  password := Radix64.text (Digest.md5 password.toUTF8).toList
  crypt := Radix64.text (Digest.md5 (CryptHash.text password.toUTF8 salt).toUTF8).toList

end PasswordHashes

end Messenger.Auth
