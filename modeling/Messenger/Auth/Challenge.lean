import Messenger.Auth.KeyedDigest
import Messenger.Auth.Layout
import Messenger.Text.Blank

/-!
Answering the challenge of a login. The server's flag decides which of the two answers it wants;
each is given twice, under the two keys that come from the password.
-/

namespace Messenger.Auth

inductive Version where
  | v1
  | v2
deriving DecidableEq, Repr, Inhabited

namespace Version

/-- No flag, an empty one or a zero asks for the first answer, any other for the second. -/
def ofFlag (flag : Option String) : Version :=
  match flag.map Text.trim with
  | none => .v1
  | some flag => if flag = "0" ∨ flag = "" then .v1 else .v2

end Version

structure Response where
  plain : String
  crypt : String
deriving DecidableEq, Repr, Inhabited

inductive ChallengeError where
  | empty
deriving DecidableEq, Repr, Inhabited

namespace ChallengeError

def message : ChallengeError → String
  | empty => "invalid challenge: challenge is empty"

end ChallengeError

def respond (version : Version) (username password challenge : String) :
    Except ChallengeError Response :=
  if challenge = "" then
    .error .empty
  else
    let hashes := PasswordHashes.ofPassword password
    let answer :=
      match version with
      | .v1 => Layout.answer
      | .v2 => KeyedDigest.answer
    let seed := Text.utf8 challenge
    .ok ⟨answer hashes.password username seed, answer hashes.crypt username seed⟩

end Messenger.Auth
