import Messenger.Session.Basic

/-!
Requests of a user to the rooms of a session: each needs a session that is logged on, changes one
store of rooms, and sends one packet.
-/

namespace Messenger.Session

open Conference (ConferenceError Store)

def withStore (session : Session) (store : Nat)
    (request : Store → String → Except ConferenceError (Packet × Store)) :
    Session × Except ConferenceError Unit :=
  match session.loggedOnUser with
  | .error error => (session, .error error)
  | .ok user =>
      match session.stores[store]? with
      | none => (session, .error .notLoggedOn)
      | some rooms =>
          match request rooms user with
          | .error error => (session, .error error)
          | .ok (packet, rooms) =>
              ({ session with stores := session.stores.set store rooms }.execute
                (.packet packet) packet, .ok ())

def createRoom (session : Session) (store : Nat) (users : List String) (message : String) :
    Session × Except ConferenceError String :=
  match session.loggedOnUser with
  | .error error => (session, .error error)
  | .ok user =>
      match session.stores[store]? with
      | none => (session, .error .notLoggedOn)
      | some rooms =>
          let (name, packet, rooms) := rooms.create user users message
          ({ session with stores := session.stores.set store rooms }.execute
            (.packet packet) packet, .ok name)

def inviteTo (session : Session) (store : Nat) (room user message : String) :
    Session × Except ConferenceError Unit :=
  session.withStore store fun rooms me => rooms.invite me room user message

def acceptRoom (session : Session) (store : Nat) (room : String) :
    Session × Except ConferenceError Unit :=
  session.withStore store fun rooms me => rooms.accept me room

def declineRoom (session : Session) (store : Nat) (room message : String) :
    Session × Except ConferenceError Unit :=
  session.withStore store fun rooms me => rooms.decline me room message

def leaveRoom (session : Session) (store : Nat) (room : String) :
    Session × Except ConferenceError Unit :=
  session.withStore store fun rooms me => rooms.leave me room

def sayIn (session : Session) (store : Nat) (room text : String) :
    Session × Except ConferenceError Unit :=
  session.withStore store fun rooms me => rooms.say me room text

def ask (session : Session) (store : Nat) : Conference.Request → Session
  | .create users message => (session.createRoom store users message).1
  | .invite room user message => (session.inviteTo store room user message).1
  | .accept room => (session.acceptRoom store room).1
  | .decline room message => (session.declineRoom store room message).1
  | .leave room => (session.leaveRoom store room).1
  | .say room text => (session.sayIn store room text).1

end Messenger.Session
