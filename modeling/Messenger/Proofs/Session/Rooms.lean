import Mathlib.Data.List.Basic
import Messenger.Proofs.Conference.Steps
import Messenger.Proofs.Session.Moves
import Messenger.Proofs.Session.Tidings

/-!
The rooms of a session. It hands packets to its stores and asks them for what the user wants;
whatever else happens to it leaves them alone. So a store is always one that a run of steps has led
to, and what holds of such runs holds of every session.
-/

namespace Messenger.Session

open Conference (ConferenceError Step Store)

/-- The stores of a session, each of which was there before and has gone through some steps, or has
been attached since. -/
structure Hosts (before after : Session) : Prop where
  count : before.stores.length ≤ after.stores.length
  runs : ∀ index store, after.stores[index]? = some store →
    ∃ (start : Store) (steps : List Step), store = (start.run steps).1 ∧
      (before.stores[index]? = some start ∨
        before.stores.length ≤ index ∧ ∃ policy, start = { policy })

namespace Hosts

theorem of_same {before after : Session} (hstores : after.stores = before.stores) :
    Hosts before after where
  count := Nat.le_of_eq (congrArg List.length hstores.symm)
  runs _ store hstore := ⟨store, [], rfl, .inl (hstores ▸ hstore)⟩

theorem refl (session : Session) : Hosts session session :=
  of_same rfl

theorem trans {first second third : Session} (hfirst : Hosts first second)
    (hsecond : Hosts second third) : Hosts first third where
  count := Nat.le_trans hfirst.count hsecond.count
  runs index store hstore := by
    obtain ⟨middle, later, rfl, hmiddle | ⟨hnew, hempty⟩⟩ := hsecond.runs index store hstore
    · obtain ⟨start, steps, rfl, horigin⟩ := hfirst.runs index middle hmiddle
      exact ⟨start, steps ++ later, by rw [Store.run_append], horigin⟩
    · exact ⟨middle, later, rfl, .inr ⟨Nat.le_trans hfirst.count hnew, hempty⟩⟩

theorem of_step {before after : Session} {index : Nat} {step : Step}
    (hstores : after.stores = before.stores.modify index fun store => (store.step step).1) :
    Hosts before after where
  count := Nat.le_of_eq (by rw [hstores, List.length_modify])
  runs position store hstore := by
    rw [hstores, List.getElem?_modify] at hstore
    obtain ⟨start, hstart, rfl⟩ := Option.map_eq_some_iff.mp hstore
    by_cases hindex : index = position
    · exact ⟨start, [step], by simp [hindex, Store.run], .inl hstart⟩
    · exact ⟨start, [], by simp [hindex, Store.run], .inl hstart⟩

end Hosts

theorem set_of_getElem? {stores : List Store} {index : Nat} {store : Store}
    (hstore : stores[index]? = some store) : stores.set index store = stores := by
  obtain ⟨hindex, rfl⟩ := List.getElem?_eq_some_iff.mp hstore
  exact List.set_getElem_self hindex

theorem stores_reportAll (session : Session) (reports : List Report) :
    (session.reportAll reports).stores = session.stores := by
  rw [reportAll_eq]

theorem stores_onConference (session : Session) (index : Nat) (packet : Packet) :
    (session.onConference index packet).1.stores =
      session.stores.modify index fun store => (store.step (.receive packet)).1 := by
  rw [List.modify_eq_set_getElem?]
  unfold onConference
  cases session.stores[index]? with
  | none => rfl
  | some store =>
      dsimp only
      split
      · rw [stores_reportAll]
        rfl
      · rfl

section Requests

variable (session : Session) (index : Nat) {user : String}
  (huser : session.loggedOnUser = .ok user)

include huser

theorem stores_withStore {request : Conference.Request}
    {ask : Store → String → Except ConferenceError (Packet × Store)}
    (hask : ∀ store, ask store user = store.ask user request) :
    (session.withStore index ask).1.stores =
      session.stores.modify index fun store => (store.step (.ask user request)).1 := by
  rw [List.modify_eq_set_getElem?]
  unfold withStore
  rw [huser]
  cases hstore : session.stores[index]? with
  | none => simp
  | some store =>
      simp only [Store.step, ← hask store, Option.map_eq_map, Option.map_some, Option.getD_some]
      cases ask store user with
      | error error => exact (set_of_getElem? hstore).symm
      | ok result => rfl

/-- While the session is logged on, a request is a step of a store. -/
theorem stores_ask (request : Conference.Request) :
    (session.ask index request).stores =
      session.stores.modify index fun store => (store.step (.ask user request)).1 := by
  cases request with
  | create users message =>
      rw [List.modify_eq_set_getElem?]
      simp only [ask, createRoom, huser]
      cases session.stores[index]? <;> rfl
  | _ => exact session.stores_withStore index huser fun _ => rfl

end Requests

theorem ask_of_error (session : Session) (index : Nat) (request : Conference.Request)
    {error : ConferenceError} (herror : session.loggedOnUser = .error error) :
    session.ask index request = session := by
  cases request <;>
    simp [ask, createRoom, inviteTo, acceptRoom, declineRoom, leaveRoom, sayIn, withStore, herror]

theorem hosts_ask (session : Session) (index : Nat) (request : Conference.Request) :
    Hosts session (session.ask index request) := by
  cases huser : session.loggedOnUser with
  | error error =>
      rw [ask_of_error session index request huser]
      exact .refl session
  | ok user => exact .of_step (stores_ask session index huser request)

theorem hosts_attachStore (session : Session) (policy : Conference.BufferPolicy) :
    Hosts session (session.attachStore policy) where
  count := by simp [attachStore]
  runs index store hstore := by
    have happended : (session.stores ++ [({ policy } : Store)])[index]? = some store := hstore
    rcases Nat.lt_or_ge index session.stores.length with hold | hnew
    · rw [List.getElem?_append_left hold] at happended
      exact ⟨store, [], rfl, .inl happended⟩
    · rw [List.getElem?_append_right hnew] at happended
      have hempty := List.mem_singleton.mp (List.mem_of_getElem? happended)
      exact ⟨{ policy }, [], hempty, .inr ⟨hnew, policy, rfl⟩⟩

theorem stores_reportEvents (session : Session) (service : Service) (events : List Event) :
    (session.reportEvents service events).stores = session.stores := by
  rw [reportEvents_eq, stores_reportAll]

theorem stores_submit (session : Session) (packet : Packet) :
    (session.submit packet).2.stores = session.stores := by
  unfold submit
  dsimp only
  split <;> rfl

theorem stores_finish (session : Session) (number : Nat) (result : Except SessionError Unit) :
    (session.finish number result).stores = session.stores := by
  unfold finish
  dsimp only
  split <;> rfl

theorem stores_drop (session : Session) : session.drop.stores = session.stores := by
  unfold drop
  dsimp only
  split <;> rfl

theorem stores_abandonLogin (session : Session) (number : Nat) (error : SessionError) :
    (session.abandonLogin number error).stores = session.stores :=
  stores_finish ..

theorem stores_failLogin (session : Session) (number : Nat) (error : SessionError) :
    (session.failLogin number error).stores = session.stores :=
  stores_abandonLogin ..

theorem stores_awaitHandshake (session : Session) (number deadline : Nat) :
    (session.awaitHandshake number deadline).stores = session.stores := by
  unfold awaitHandshake
  split
  · split
    · exact stores_finish ..
    · exact stores_abandonLogin ..
  · split
    · exact stores_failLogin ..
    · rfl

theorem stores_connect (session : Session) (number : Nat) (username : String)
    (outcome : ConnectOutcome) :
    (session.connect number username outcome).stores = session.stores := by
  cases outcome with
  | opened writeFault => exact stores_submit ..
  | refused text => exact stores_failLogin ..
  | pending => rfl

theorem stores_login (session : Session) (username password : String) :
    (session.login username password).stores = session.stores := by
  unfold login
  dsimp only
  split
  · exact stores_finish ..
  · split
    · exact stores_finish ..
    · exact stores_connect ..

theorem stores_logout (session : Session) : session.logout.stores = session.stores := by
  unfold logout
  dsimp only
  split
  · exact stores_finish ..
  · exact stores_submit ..

theorem stores_reset (session : Session) : session.reset.stores = session.stores := by
  unfold reset
  dsimp only
  split
  · exact stores_finish ..
  · exact stores_finish ..

theorem stores_goOn (session : Session) (call : Call) :
    (session.goOn call).stores = session.stores := by
  unfold goOn
  split
  · rfl
  · split
    · rfl
    · exact stores_awaitHandshake ..
    · exact stores_failLogin ..
  · exact stores_awaitHandshake ..
  · split
    · rfl
    · exact stores_finish ..

theorem stores_resume (session : Session) (number : Nat) :
    (session.resume number).stores = session.stores := by
  unfold resume
  split
  · split
    · exact stores_goOn ..
    · rfl
  · rfl

theorem stores_resolveConnect (session : Session) (number : Nat) (outcome : ConnectOutcome) :
    (session.resolveConnect number outcome).stores = session.stores := by
  unfold resolveConnect
  split
  · exact stores_connect ..
  · rfl

theorem stores_tick? {session next : Session} (htick : session.tick? = some next) :
    next.stores = session.stores := by
  obtain ⟨task, -, rfl⟩ := Option.map_eq_some_iff.mp htick
  dsimp only
  split
  · rfl
  · split <;> rfl

theorem stores_write? {session next : Session} {index : Nat}
    (hwrite : session.write? index = some next) : next.stores = session.stores := by
  obtain ⟨written, -, rfl⟩ := Option.map_eq_some_iff.mp hwrite
  dsimp only
  split <;> rfl

theorem stores_markLoggedOn (session : Session) :
    session.markLoggedOn.stores = session.stores := by
  unfold markLoggedOn
  split <;> rfl

theorem stores_onChallenge (session : Session) (packet : Packet) :
    (session.onChallenge packet).stores = session.stores := by
  unfold onChallenge
  split
  · rfl
  · split
    · rfl
    · dsimp only
      split <;> rfl

theorem stores_onAuthResponse (session : Session) (packet : Packet) :
    (session.onAuthResponse packet).stores = session.stores := by
  unfold onAuthResponse
  split
  · rfl
  · dsimp only
    split <;> rfl

theorem stores_onRoster (session : Session) (packet : Packet) :
    (session.onRoster packet).stores = session.stores := by
  unfold onRoster
  split
  split
  · rfl
  · exact stores_markLoggedOn _

theorem stores_onLogoff (session : Session) (packet : Packet) :
    (session.onLogoff packet).stores = session.stores := by
  unfold onLogoff
  split
  · exact stores_reportEvents ..
  · split <;> rfl

theorem stores_reportResult (session : Session) (service : Service)
    (events : Except HandlerError (List Event)) :
    (session.reportResult service events).1.stores = session.stores := by
  rw [reportResult_eq, stores_reportAll]

theorem stores_reportFriend (session : Session) (packet : Packet)
    (event : String → Option String → Event) :
    (session.reportFriend packet event).1.stores = session.stores := by
  rw [reportFriend_eq, stores_reportAll]

theorem hosts_react (session : Session) (reaction : Reaction) (packet : Packet) :
    Hosts session (session.react reaction packet).1 := by
  cases reaction with
  | conference index => exact .of_step (stores_onConference session index packet)
  | _ =>
      refine .of_same ?_
      unfold react
      dsimp only
      split
      · rfl
      · first
          | exact stores_onChallenge ..
          | exact stores_onAuthResponse ..
          | exact (stores_markLoggedOn _).trans (stores_reportEvents ..)
          | exact stores_onRoster ..
          | exact stores_onLogoff ..
          | exact stores_reportEvents ..
          | exact stores_reportResult ..
          | exact stores_reportFriend ..

theorem hosts_handle (session : Session) (packet : Packet) :
    Hosts session (session.handle packet) := by
  have hdispatch : Hosts session (session.dispatch packet).1 := by
    unfold dispatch
    cases session.registry.route packet with
    | mk route registry =>
        have hrouted : Hosts session { session with registry } := .of_same rfl
        cases route with
        | react reaction joined => exact hrouted.trans (hosts_react _ reaction joined)
        | _ => exact hrouted
  unfold handle
  cases hresult : session.dispatch packet with
  | mk next outcome =>
      rw [hresult] at hdispatch
      cases outcome with
      | ok outcome => exact hdispatch
      | error error => exact hdispatch.trans (.of_same rfl)

theorem hosts_receive (session : Session) (connection : Nat) (packet : Packet) :
    Hosts session (session.receive connection packet) := by
  have hadopted : Hosts session
      ((session.note (.received connection packet)).adopt packet.sessionId) := by
    rw [adopt_eq]
    exact .of_same rfl
  exact (hadopted.trans (hosts_handle _ packet)).trans (.of_same rfl)

theorem stores_loseConnection (session : Session) (error : ReadError) :
    (session.loseConnection error).stores = session.stores := by
  unfold loseConnection
  split <;> rfl

theorem hosts_readNext? {session next : Session} {index : Nat}
    (hread : session.readNext? index = some next) : Hosts session next := by
  unfold readNext? at hread
  split at hread
  · cases hread
  split at hread
  · cases hread
  split at hread
  · rename_i result rest hframe
    cases hread
    have hstarted : Hosts session (session.startReading index rest) := .of_same rfl
    have hstopped (reading : Session) : Hosts reading { reading with working := none } :=
      .of_same rfl
    refine (hstarted.trans ?_).trans (hstopped _)
    cases result with
    | ok packet => exact hosts_receive ..
    | error error =>
        unfold readResult
        dsimp only
        split
        · exact .of_same rfl
        · exact .refl _
  · obtain ⟨finish, -, rfl⟩ := Option.map_eq_some_iff.mp hread
    exact .of_same (stores_loseConnection { session with working := some index } finish.error)

theorem hosts_readOut (fuel : Nat) (session : Session) (index : Nat) :
    Hosts session (readOut fuel session index) := by
  induction fuel generalizing session with
  | zero => exact .of_same rfl
  | succ fuel induction =>
      unfold readOut
      split
      · cases hread : session.readNext? index with
        | none => exact .of_same rfl
        | some next => exact (hosts_readNext? hread).trans (induction next)
      · exact .refl session

theorem hosts_read? {session next : Session} {index : Nat}
    (hread : session.read? index = some next) : Hosts session next := by
  obtain ⟨first, hfirst, rfl⟩ := Option.map_eq_some_iff.mp hread
  split
  · exact (hosts_readNext? hfirst).trans (hosts_readOut _ first index)
  · exact hosts_readNext? hfirst

theorem hosts_step (session : Session) (move : Move) : Hosts session (session.step move) := by
  have hwhere {changed : Session} (condition : Prop) [Decidable condition]
      (hstores : changed.stores = session.stores) :
      Hosts session (if condition then changed else session) := by
    split
    · exact .of_same hstores
    · exact .refl session
  have hwork {next? : Option Session} (hnext : ∀ next, next? = some next → Hosts session next) :
      Hosts session (next?.getD session) := by
    cases hfound : next? with
    | none => exact .refl session
    | some next => exact hnext next hfound
  cases move with
  | login username password => exact hwhere _ (stores_login ..)
  | logout => exact hwhere _ (stores_logout _)
  | reset => exact hwhere _ (stores_reset _)
  | resolveConnect call outcome => exact .of_same (stores_resolveConnect ..)
  | drop => exact .of_same (stores_drop _)
  | read connection => exact hwork fun _ => hosts_read?
  | write connection => exact hwork fun _ hwrite => .of_same (stores_write? hwrite)
  | tick => exact hwork fun _ htick => .of_same (stores_tick? htick)
  | resume call => exact .of_same (stores_resume ..)
  | attachStore policy => exact hosts_attachStore session policy
  | ask index request => exact hosts_ask session index request
  | _ => exact .of_same rfl

theorem hosts_run (session : Session) (moves : List Move) : Hosts session (session.run moves) :=
  run_keeps (fun between move h => h.trans (hosts_step between move)) (.refl session) moves

/-- Whatever happens to a session, each of its stores is one that steps lead to from an empty
store. -/
theorem store_of_run (config : SessionConfig) (listeners : List String)
    (outcomes : List ConnectOutcome) (moves : List Move) {store : Store}
    (hmem : store ∈ ((build config listeners outcomes).run moves).stores) :
    ∃ policy steps, store = (({ policy } : Store).run steps).1 := by
  obtain ⟨index, hindex⟩ := List.getElem?_of_mem hmem
  obtain ⟨start, steps, rfl, hnone | ⟨-, policy, rfl⟩⟩ :=
    (hosts_run (build config listeners outcomes) moves).runs index store hindex
  · cases hnone
  · exact ⟨policy, steps, rfl⟩

end Messenger.Session
