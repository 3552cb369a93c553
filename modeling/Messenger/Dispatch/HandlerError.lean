import Messenger.Packet.Basic
import Messenger.Text.Quoted

/-!
Why a packet could not be handled. Such an error never ends a connection; it is reported as an
event.
-/

namespace Messenger

inductive HandlerError where
  | missingField (service : Service) (key : String)
  | invalidField (service : Service) (key value : String)
  | sessionGone
deriving DecidableEq, Repr, Inhabited

namespace HandlerError

def message : HandlerError → String
  | missingField service key => s!"{service.display} packet is missing field {key}"
  | invalidField service key value =>
      s!"{service.display} packet has invalid field {key}: {Text.quote value}"
  | sessionGone => "session is no longer available"

end HandlerError

namespace Packet

def require (packet : Packet) (key : String) : Except HandlerError String :=
  match packet.value? key with
  | some value => .ok value
  | none => .error (.missingField packet.service key)

theorem require_eq_ok_iff (packet : Packet) (key value : String) :
    packet.require key = .ok value ↔ packet.value? key = some value := by
  unfold require
  cases packet.value? key <;> simp

end Packet

end Messenger
