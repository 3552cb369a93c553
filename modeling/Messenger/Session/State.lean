import Messenger.Auth.Challenge
import Messenger.Text.Duration

/-!
The states of a session, the ways a login can fail, and the settings of a session.
-/

namespace Messenger

inductive SessionState where
  | unstarted
  | connecting
  | connected
  | loggedOn
  | failed
deriving DecidableEq, Repr, Inhabited

namespace SessionState

def isLoggingIn : SessionState → Bool
  | connecting => true
  | connected => true
  | _ => false

def name : SessionState → String
  | unstarted => "Unstarted"
  | connecting => "Connecting"
  | connected => "Connected"
  | loggedOn => "LoggedOn"
  | failed => "Failed"

end SessionState

inductive Refusal where
  | badUsername
  | badPassword
  /-- The server may name a page that unlocks the account. -/
  | locked (url : Option String)
  | refused (code : Int)
deriving DecidableEq, Repr, Inhabited

namespace Refusal

def ofCode (code : Int) (url : Option String) : Refusal :=
  if code = 3 then badUsername
  else if code = 13 then badPassword
  else if code = 14 then locked url
  else refused code

def message : Refusal → String
  | badUsername => "unknown username"
  | badPassword => "incorrect password"
  | locked _ => "account locked"
  | refused code => s!"login refused with code {code}"

end Refusal

inductive SessionError where
  | invalidArgument (text : String)
  | illegalState (expected : String) (actual : SessionState)
  | timeout (milliseconds : Nat)
  | rejected (refusal : Refusal)
  | transport (text : String)
  | malformed (text : String)
  | challenge (error : Auth.ChallengeError)
  | connectionClosed
deriving DecidableEq, Repr, Inhabited

namespace SessionError

def message : SessionError → String
  | invalidArgument text => s!"invalid argument: {text}"
  | illegalState expected actual =>
      s!"operation requires state {expected}, but session is {actual.name}"
  | timeout milliseconds => s!"login timed out after {Text.duration milliseconds}"
  | rejected refusal => s!"login rejected: {refusal.message}"
  | transport text => s!"transport error: {text}"
  | malformed text => s!"malformed packet during login: {text}"
  | challenge error => s!"cannot answer the login challenge: {error.message}"
  | connectionClosed => "connection closed"

end SessionError

/-- Times are in milliseconds. -/
structure SessionConfig where
  loginTimeout : Nat := 60000
  keepAliveInterval : Nat := 60000
  pingInterval : Nat := 3600000
  initialStatus : UInt32 := 0
  clientVersion : String := "6,0,0,1710"
deriving DecidableEq, Repr, Inhabited

end Messenger
