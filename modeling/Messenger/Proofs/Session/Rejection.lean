import Messenger.Proofs.Conference.Rejection
import Messenger.Proofs.Session.Rooms

/-!
What becomes of a session when its rooms turn a packet down: nothing, neither of the rooms nor of
the events and the connections that all rooms share.
-/

namespace Messenger.Session

open Conference (Room Store)

theorem onConference_of_refuses {session : Session} {index : Nat} {store : Store}
    (hstore : session.stores[index]? = some store) {packet : Packet} {error : HandlerError}
    (hrefuses : store.Refuses packet error) :
    session.onConference index packet = (session, .error error) := by
  simp only [onConference, hstore, Store.receive_of_refuses hrefuses]
  rw [set_of_getElem? hstore]

theorem onConference_error_iff (session : Session) (index : Nat) (packet : Packet)
    (error : HandlerError) :
    (session.onConference index packet).2 = .error error ↔
      ∃ store, session.stores[index]? = some store ∧ store.Refuses packet error := by
  constructor
  · intro herror
    unfold onConference at herror
    cases hstore : session.stores[index]? with
    | none =>
        simp only [hstore] at herror
        cases herror
    | some store =>
        refine ⟨store, rfl, (store.receive_error_iff packet error).mp ?_⟩
        simp only [hstore] at herror
        split at herror
        · cases herror
        · rename_i fault hfault
          cases herror
          exact hfault
  · rintro ⟨store, hstore, hrefuses⟩
    rw [onConference_of_refuses hstore hrefuses]

/-- Rooms turn a packet down if it names no room, or if it lacks what it must say of a room the user
is in. The whole session is then as it was, with all rooms, with what is to be reported and what is
to be written, whether the packet is handed to the rooms or routed to them by the session. In the
replay after an invitation such a packet changes nothing about the room or about what is made of the
packets held before and after it. -/
theorem failed_packet_changes_nothing (session : Session) (index : Nat) :
    (∀ packet error, (session.onConference index packet).2 = .error error ↔
      ∃ store, session.stores[index]? = some store ∧ store.Refuses packet error) ∧
    (∀ packet error, (session.onConference index packet).2 = .error error →
      (session.onConference index packet).1 = session ∧
        (session.registry.handlers.find? packet.service = some (.single (.conference index)) →
          session.dispatch packet = (session, .error error))) ∧
    ∀ (store : Store) (name : String) (room : Room) (before after : List Packet) (held : Packet)
      (key : String) (invitation : Packet), held.Lacks key → invitation.isInvitation = true →
        invitation.value? "57" = some name →
        (store.setRoom name { room with pending := before ++ held :: after }).receive invitation =
          (store.setRoom name { room with pending := before ++ after }).receive invitation := by
  refine ⟨session.onConference_error_iff index, fun packet error hfailed => ?_,
    fun store name room before after held key invitation hlacks =>
      store.receive_lacking name room before after hlacks⟩
  obtain ⟨store, hstore, hrefuses⟩ := (session.onConference_error_iff index packet error).mp hfailed
  have hunchanged := onConference_of_refuses hstore hrefuses
  refine ⟨congrArg Prod.fst hunchanged, fun hroute => ?_⟩
  simp only [dispatch, Registry.route, hroute, react]
  rw [hunchanged]
  rfl

/-- In a room we are in, a departure that says not who has left; and the same packet among those
that came before the invitation. -/
theorem failed_packet_changes_nothing_departure :
    let about (service : Service) (fields : List (String × String)) : Packet :=
      .request service (("57", "den") :: fields)
    let invitation := about .confInvite [("50", "bob"), ("52", "carol")]
    let nobody := about .confLogoff [("14", "bye")]
    let joined := about .confLogon [("53", "dave")]
    let gone := about .confLogoff [("56", "bob")]
    let session := (((build {} ["listener"] []).attachStore {}).dispatch invitation).1
    (session.stores[0]?.bind fun store => store.snapshot? "den") =
        some ⟨"den", true, some "bob", ["bob", "carol"], 0⟩ ∧
      session.dispatch nobody = (session, .error (.missingField .confLogoff "56")) ∧
      (({} : Store).setRoom "den" { pending := [joined, nobody, gone] }).receive invitation =
        (({} : Store).setRoom "den" { pending := [joined, gone] }).receive invitation := by
  intro about invitation nobody joined gone session
  obtain ⟨-, hunchanged, hreplay⟩ := failed_packet_changes_nothing session 0
  have hfailed : (session.onConference 0 nobody).2 =
      .error (.missingField .confLogoff "56") := by decide
  have hroute : session.registry.handlers.find? nobody.service =
      some (.single (.conference 0)) := by decide
  have hlacks : nobody.Lacks "56" := ⟨by decide, by decide⟩
  exact ⟨by decide, (hunchanged nobody _ hfailed).2 hroute,
    hreplay {} "den" {} [joined] [gone] nobody "56" invitation hlacks (by decide) (by decide)⟩

end Messenger.Session
