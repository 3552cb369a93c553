import Messenger.Proofs.Session.Provision

/-!
What runs in the background of a session between its calls: everything while it is logged on, and
nothing else at any other time.
-/

namespace Messenger

/-- The requests that recur while a session is logged on, and their periods. -/
def SessionConfig.timetable (config : SessionConfig) : List (Sending × Nat × Bool) :=
  [(.ping, max config.pingInterval Schedule.shortestPeriod, false),
   (.keepAlive, max config.keepAliveInterval Schedule.shortestPeriod, false)]

namespace Session

open Standing (Provided AtRest)

/-- All that recurs has its own period, and goes on. -/
def OnSchedule (session : Session) : Prop :=
  ∀ entry ∈ session.schedule.timetable, entry ∈ session.config.timetable

theorem OnSchedule.of_eq {before after : Session} (h : before.OnSchedule)
    (hconfig : after.config = before.config)
    (htimetable : after.schedule.timetable = before.schedule.timetable) :
    after.OnSchedule := by
  unfold OnSchedule
  rw [hconfig, htimetable]
  exact h

theorem onSchedule_of_no_tasks {session : Session} (htasks : session.schedule.tasks = []) :
    session.OnSchedule := by
  simp [OnSchedule, Schedule.timetable, htasks]

theorem onSchedule_finish {session : Session} (h : session.OnSchedule) (number : Nat)
    (result : Except SessionError Unit) :
    (session.finish number result).OnSchedule := by
  unfold finish
  dsimp only
  split <;> exact h

theorem onSchedule_abandonLogin (session : Session) (number : Nat) (error : SessionError) :
    (session.abandonLogin number error).OnSchedule :=
  onSchedule_finish (onSchedule_of_no_tasks rfl) number _

theorem onSchedule_attach {session : Session} (h : session.OnSchedule)
    (writeFault : Option String) :
    (session.attach writeFault).OnSchedule := by
  intro entry hentry
  have hadded : (session.attach writeFault).schedule.timetable =
      session.schedule.timetable ++ session.config.timetable := by
    show ((session.schedule.add .ping _).add .keepAlive _).timetable = _
    simp [SessionConfig.timetable]
  rw [hadded, List.mem_append] at hentry
  exact hentry.elim (h entry) id

theorem onSchedule_submit {session : Session} (h : session.OnSchedule) (packet : Packet) :
    (session.submit packet).2.OnSchedule := by
  unfold submit
  dsimp only
  split <;> exact h

theorem onSchedule_awaitHandshake {session : Session} (h : session.OnSchedule)
    (number deadline : Nat) :
    (session.awaitHandshake number deadline).OnSchedule := by
  unfold awaitHandshake
  split
  · split
    · refine onSchedule_finish ?_ number _
      exact h
    · exact onSchedule_abandonLogin _ _ _
  · split
    · exact onSchedule_abandonLogin _ _ _
    · exact h

theorem onSchedule_connect {session : Session} (h : session.OnSchedule) (number : Nat)
    (username : String) (outcome : ConnectOutcome) :
    (session.connect number username outcome).OnSchedule := by
  cases outcome with
  | opened writeFault => exact onSchedule_submit (onSchedule_attach h writeFault) _
  | refused text => exact onSchedule_abandonLogin _ _ _
  | pending => exact h

theorem onSchedule_login {session : Session} (h : session.OnSchedule)
    (username password : String) :
    (session.login username password).OnSchedule := by
  have hbegun : session.beginCall.2.OnSchedule := h
  unfold login
  dsimp only
  split
  · exact onSchedule_finish hbegun _ _
  · split
    · refine onSchedule_finish ?_ _ _
      exact hbegun
    · refine onSchedule_connect ?_ _ _ _
      exact hbegun

theorem onSchedule_logout {session : Session} (h : session.OnSchedule) :
    session.logout.OnSchedule := by
  have hbegun : session.beginCall.2.OnSchedule := h
  unfold logout
  dsimp only
  split
  · exact onSchedule_finish hbegun _ _
  · have hleft : (session.beginCall.2.enter .unstarted).OnSchedule := hbegun
    exact onSchedule_submit hleft _

theorem onSchedule_reset {session : Session} (h : session.OnSchedule) :
    session.reset.OnSchedule := by
  have hbegun : session.beginCall.2.OnSchedule := h
  unfold reset
  dsimp only
  split
  · exact onSchedule_finish (onSchedule_of_no_tasks rfl) _ _
  · exact onSchedule_finish hbegun _ _

theorem onSchedule_goOn {session : Session} (h : session.OnSchedule) (call : Call) :
    (session.goOn call).OnSchedule := by
  unfold goOn
  split
  · exact h
  · split
    · exact h
    · exact onSchedule_awaitHandshake h _ _
    · exact onSchedule_abandonLogin _ _ _
  · exact onSchedule_awaitHandshake h _ _
  · split
    · exact h
    · exact onSchedule_finish (onSchedule_of_no_tasks rfl) _ _

theorem Reacted.onSchedule {before after : Session} {reaction : Reaction} {packet : Packet}
    {result : Except HandlerError Unit} (h : Reacted before reaction packet (after, result))
    (hbefore : before.OnSchedule) :
    after.OnSchedule := by
  cases h with
  | aside hafter hchallenge =>
      exact hbefore.of_eq (congrArg Standing.config hafter.standing)
        (congrArg Schedule.timetable hafter.schedule)
  | answered hreaction hstate hvalue hresponse => exact hbefore
  | refused hfault => exact hbefore
  | @welcomed told hreaction htold hstate =>
      have htold : told.OnSchedule := hbefore.of_eq (congrArg Standing.config htold.standing)
        (congrArg Schedule.timetable htold.schedule)
      exact htold
  | evicted hreaction hstate hbody => exact onSchedule_of_no_tasks rfl

theorem Handled.onSchedule {before after : Session} {connection : Nat} {packet : Packet}
    (h : Handled before connection packet after) (hbefore : before.OnSchedule) :
    after.OnSchedule := by
  cases h with
  | unrouted hroute hstanding hschedule hjournal =>
      exact hbefore.of_eq (congrArg Standing.config hstanding)
        (congrArg Schedule.timetable hschedule)
  | reacted hroute hstanding hschedule hjournal hreacted =>
      exact hreacted.onSchedule (hbefore.of_eq (congrArg Standing.config hstanding)
        (congrArg Schedule.timetable hschedule))

theorem onSchedule_read? {session next : Session} {index : Nat} (h : session.OnSchedule)
    (hread : session.read? index = some next) :
    next.OnSchedule := by
  refine read?_induction (motive := OnSchedule) ?_ ?_ h hread
  · intro before after hbefore hnext
    cases (readNext?_step hnext).2 with
    | @packet rest packet after hhandled =>
        have htaken : (before.startReading index rest).OnSchedule := hbefore
        exact hhandled.onSchedule htaken
    | malformed hstate => exact hbefore
    | passedOver hstate => exact hbefore
    | cutOff hstate => exact hbefore
    | lost hstate htold => exact onSchedule_of_no_tasks rfl
    | ended hstate => exact hbefore
  · exact fun _ hbefore => hbefore

theorem Stepped.onSchedule {before after : Session} {move : Move} (h : Stepped before move after)
    (hbefore : before.OnSchedule) (halive : before.alive = true) :
    after.OnSchedule := by
  cases h with
  | carried hcarried =>
      exact hbefore.of_eq (congrArg Standing.config hcarried.standing) (hcarried.timetable halive)
  | login username password hheld => exact onSchedule_login hbefore username password
  | resolveConnect call outcome =>
      unfold Session.resolveConnect
      split
      · exact onSchedule_connect hbefore call _ outcome
      · exact hbefore
  | logout hheld => exact onSchedule_logout hbefore
  | reset hheld => exact onSchedule_reset hbefore
  | drop =>
      unfold Session.drop
      dsimp only
      split <;> exact hbefore
  | read hread => exact onSchedule_read? hbefore hread
  | resume call =>
      unfold Session.resume
      split
      · split
        · exact onSchedule_goOn hbefore _
        · exact hbefore
      · exact hbefore
  | attachStore policy => exact hbefore

end Session

end Messenger
