import Messenger.Text.Hex

/-!
The operation a packet belongs to. A code without a name of its own is kept as it came, so it goes
out again unchanged and can still be routed.
-/

namespace Messenger

inductive Service where
  | logon
  | logoff
  | isAway
  | isBack
  | message
  | userStat
  | newMail
  | contactNew
  | ping
  | gotGroupRename
  | confInvite
  | confLogon
  | confDecline
  | confLogoff
  | confAddInvite
  | confMsg
  | fileTransfer
  | notify
  | authResp
  | list
  | auth
  | friendAdd
  | friendRemove
  | contactReject
  | keepAlive
  | chatJoin
  | statusUpdate
  | unknown (code : UInt16)
deriving DecidableEq, Repr, Inhabited

namespace Service

def code : Service → UInt16
  | logon => 0x01
  | logoff => 0x02
  | isAway => 0x03
  | isBack => 0x04
  | message => 0x06
  | userStat => 0x0A
  | newMail => 0x0B
  | contactNew => 0x0F
  | ping => 0x12
  | gotGroupRename => 0x13
  | confInvite => 0x18
  | confLogon => 0x19
  | confDecline => 0x1A
  | confLogoff => 0x1B
  | confAddInvite => 0x1C
  | confMsg => 0x1D
  | fileTransfer => 0x46
  | notify => 0x4B
  | authResp => 0x54
  | list => 0x55
  | auth => 0x57
  | friendAdd => 0x83
  | friendRemove => 0x84
  | contactReject => 0x86
  | keepAlive => 0x8A
  | chatJoin => 0x98
  | statusUpdate => 0xC6
  | unknown code => code

def named : List Service :=
  [logon, logoff, isAway, isBack, message, userStat, newMail, contactNew, ping, gotGroupRename,
   confInvite, confLogon, confDecline, confLogoff, confAddInvite, confMsg, fileTransfer, notify,
   authResp, list, auth, friendAdd, friendRemove, contactReject, keepAlive, chatJoin, statusUpdate]

def ofCode (code : UInt16) : Service :=
  (named.find? fun service => service.code == code).getD (.unknown code)

def name : Service → String
  | logon => "Logon"
  | logoff => "Logoff"
  | isAway => "IsAway"
  | isBack => "IsBack"
  | message => "Message"
  | userStat => "UserStat"
  | newMail => "NewMail"
  | contactNew => "ContactNew"
  | ping => "Ping"
  | gotGroupRename => "GotGroupRename"
  | confInvite => "ConfInvite"
  | confLogon => "ConfLogon"
  | confDecline => "ConfDecline"
  | confLogoff => "ConfLogoff"
  | confAddInvite => "ConfAddInvite"
  | confMsg => "ConfMsg"
  | fileTransfer => "FileTransfer"
  | notify => "Notify"
  | authResp => "AuthResp"
  | list => "List"
  | auth => "Auth"
  | friendAdd => "FriendAdd"
  | friendRemove => "FriendRemove"
  | contactReject => "ContactReject"
  | keepAlive => "KeepAlive"
  | chatJoin => "ChatJoin"
  | statusUpdate => "StatusUpdate"
  | unknown _ => "Unknown"

def ofName? (name : String) : Option Service :=
  named.find? fun service => service.name == name

/-- The name with the code in hexadecimal, as in `Auth(0x57)`. -/
def display (service : Service) : String :=
  s!"{service.name}(0x{Text.upperHex 2 service.code.toNat})"

@[simp] theorem code_unknown (code : UInt16) : (unknown code).code = code := rfl

@[simp] theorem code_ofCode (code : UInt16) : (ofCode code).code = code := by
  unfold ofCode
  cases hfind : named.find? (fun service => service.code == code) with
  | none => rfl
  | some service => simpa using List.find?_some hfind

end Service

end Messenger
