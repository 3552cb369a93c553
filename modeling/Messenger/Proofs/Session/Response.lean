import Messenger.Proofs.Session.Transmissions
import Messenger.Proofs.Session.Waiting

/-!
The response to the challenge. The session is connected as soon as the response is put in line, and
does not ask what becomes of it: when all is quiet it has been written or lost, and either way the
login waits for the server.
-/

namespace Messenger

/-- Whether a deal enters the state of a session that has answered only with an answer. -/
def Deal.IsEarnest : Deal → Prop
  | .entered state => state ≠ .connected
  | .answered _ outgoing => outgoing.packet.service = .authResp
  | .noted happening => happening.isRemark = true
  | _ => True

theorem Deal.isEarnest_of_isInner {deal : Deal} (hinner : deal.isInner = true) :
    deal.IsEarnest := by
  cases deal with
  | entered state =>
      simp only [Deal.isInner, decide_eq_true_eq] at hinner
      exact hinner.2
  | answered connection outgoing => cases hinner
  | noted happening => exact hinner
  | _ => trivial

theorem Deal.isEarnest_of_isHeard {index : Nat} {deal : Deal}
    (hheard : deal.isHeard index = true) :
    deal.IsEarnest := by
  cases deal with
  | entered state =>
      simp only [Deal.isHeard, decide_eq_true_eq] at hheard
      exact hheard.2
  | answered connection outgoing => exact (of_decide_eq_true hheard).2
  | noted happening => exact hheard
  | _ => trivial

namespace Ledger

variable {ledger next : Ledger}

/-- Whoever is connected has put a response in line as it became so, and has entered no other state
since. -/
def Engaged (ledger : Ledger) : Prop :=
  ledger.state = .connected → ∃ early connection answer rest,
    ledger.journal = early ++ .entered .connected :: .submitted connection answer :: rest ∧
      answer.service = .authResp ∧ ∀ state, .entered state ∉ rest

namespace Engaged

theorem note (h : ledger.Engaged) (noted : List Happening)
    (hjournal : next.journal = ledger.journal ++ noted) (hstate : next.state = ledger.state)
    (hnone : ∀ state, .entered state ∉ noted) :
    next.Engaged := by
  intro hconnected
  obtain ⟨early, connection, answer, rest, hearlier, hservice, hrest⟩ :=
    h (hstate.symm.trans hconnected)
  refine ⟨early, connection, answer, rest ++ noted, ?_, hservice, fun state hmem => ?_⟩
  · rw [hjournal, hearlier]
    simp
  · rcases List.mem_append.mp hmem with hmem | hmem
    · exact hrest state hmem
    · exact hnone state hmem

theorem act (h : ledger.Engaged) {deal : Deal} (hearnest : deal.IsEarnest) :
    (ledger.act deal).Engaged := by
  cases deal with
  | begun => exact fun hconnected => nomatch hconnected
  | entered state => exact fun hconnected => absurd hconnected hearnest
  | opened => exact h.note [] (by simp [Ledger.act]) rfl (by simp)
  | detached => exact h.note [] (by simp [Ledger.act]) rfl (by simp)
  | submitted outgoing =>
      rw [Ledger.act, submit]
      cases ledger.writer with
      | none => exact h
      | some connection =>
          exact h.note [.submitted connection outgoing.packet] rfl rfl (by simp)
  | taken connection packet =>
      exact h.note [.received connection packet] rfl rfl (by simp)
  | answered connection outgoing =>
      refine fun _ => ⟨ledger.journal, connection, outgoing.packet, [], ?_, hearnest, by simp⟩
      simp [Ledger.act, put]
  | written transmission => exact h.note [] (by simp [Ledger.act]) rfl (by simp)
  | noted happening =>
      refine h.note [happening] rfl rfl fun state hmem => ?_
      rw [← List.mem_singleton.mp hmem] at hearnest
      cases hearnest

theorem acts (h : ledger.Engaged) {deals : List Deal}
    (hearnest : ∀ deal ∈ deals, deal.IsEarnest) :
    (ledger.acts deals).Engaged :=
  acts_keep (motive := Engaged) (fun _ => Deal.IsEarnest) act (fun _ => id) h hearnest

end Engaged

end Ledger

namespace Session

open Standing (Joined)

theorem isEarnest_of_isConnect {deals : List Deal} (hdeals : IsConnect deals) :
    ∀ deal ∈ deals, deal.IsEarnest := by
  rcases hdeals with ⟨outgoing, rfl⟩ | hinner
  · simp [Deal.IsEarnest]
  · exact fun deal hmem => Deal.isEarnest_of_isInner (hinner deal hmem)

theorem Dealt.isEarnest {session : Session} {move : Move} {deals : List Deal}
    (h : Dealt session move deals) :
    ∀ deal ∈ deals, deal.IsEarnest := by
  cases h with
  | inner hnone hinner => exact fun deal hmem => Deal.isEarnest_of_isInner (hinner deal hmem)
  | begins hbegins hrest =>
      exact List.forall_mem_cons.mpr ⟨trivial, isEarnest_of_isConnect hrest⟩
  | connects hcall hdeals => exact isEarnest_of_isConnect hdeals
  | reads hrunning hheard => exact fun deal hmem => Deal.isEarnest_of_isHeard (hheard deal hmem)
  | writes htransmission => exact List.forall_mem_singleton.mpr trivial

theorem engaged_run {session : Session} (hjoined : Joined session.standing)
    (h : session.ledger.Engaged) (moves : List Move) :
    (session.run moves).ledger.Engaged := by
  refine (run_keeps (motive := fun session => Joined session.standing ∧ session.ledger.Engaged)
    (fun between move hbetween => ?_) ⟨hjoined, h⟩ moves).2
  obtain ⟨hjoined, h⟩ := hbetween
  obtain ⟨deals, hledger, hdealt⟩ := step_dealt hjoined move
  exact ⟨(step_stepped between move).joined hjoined, hledger ▸ h.acts hdealt.isEarnest⟩

theorem waitingOn_of_isQuiet {session : Session} (h : session.isQuiet = true) (index : Nat) :
    session.ledger.waitingOn index = [] := by
  refine List.length_eq_zero_iff.mp ((queued_eq session index).symm.trans ?_)
  cases hconnection : session.link.connections[index]? with
  | none => simp [queued, hconnection]
  | some connection =>
      have hindex := (List.getElem?_eq_some_iff.mp hconnection).1
      simp only [isQuiet, Bool.and_eq_true, List.all_eq_true] at h
      have hidle := h.1.1.1 index (List.mem_range.mpr hindex)
      simpa using hidle.1.2

theorem not_ready_of_isQuiet {session : Session} (h : session.isQuiet = true) {call : Call}
    (hcall : call ∈ session.calls) :
    session.ready call.phase = false := by
  simp only [isQuiet, Bool.and_eq_true, List.all_eq_true] at h
  simpa using h.2 call hcall

theorem write_outcome (connection : Connection Sending) (sessionId : UInt32) (packet : Packet) :
    ((connection.write sessionId packet).1 = .ok () ∧
        ∃ frame, Frame.encode { packet with sessionId } = .ok frame) ∨
      (∃ fault, (connection.write sessionId packet).1 = .error (.encode fault)) ∨
      ∃ text, (connection.write sessionId packet).1 = .error (.write text) := by
  unfold Connection.write
  cases Frame.encode { packet with sessionId } with
  | error fault => exact .inr (.inl ⟨fault, rfl⟩)
  | ok frame =>
      cases connection.writeError? with
      | some text => exact .inr (.inr ⟨text, rfl⟩)
      | none => exact .inl ⟨rfl, frame, rfl⟩

/-- What a writer takes goes on the wire, or is lost: it cannot be encoded, or not be written. -/
theorem transmission_outcome {session : Session} {index : Nat} {transmission : Transmission}
    (htransmission : session.transmission? (.write index) = some transmission) :
    (∃ frame, transmission.frame? = some frame) ∨
      (∃ fault, transmission.result = .error (.encode fault)) ∨
      ∃ text, transmission.result = .error (.write text) := by
  obtain ⟨⟨written, link⟩, hwrite, rfl⟩ := Option.map_eq_some_iff.mp htransmission
  obtain ⟨connection, rest, -, -, hresult, -⟩ := Link.writeNext?_cases hwrite
  have houtcome := write_outcome { connection with queue := rest } session.link.sessionId
    written.outgoing.packet
  rw [hresult] at houtcome
  refine houtcome.imp_left ?_
  rintro ⟨hwritten, frame, hframe⟩
  exact ⟨frame, by simp [Transmission.frame?, hwritten, hframe, Except.toOption]⟩

theorem outcome_of_sentOn {session : Session} {moves : List Move} {index place : Nat}
    {transmission : Transmission}
    (hplace : (sentOn index (session.transmissions moves))[place]? = some transmission) :
    (∃ frame, transmission.frame? = some frame) ∨
      (∃ fault, transmission.result = .error (.encode fault)) ∨
      ∃ text, transmission.result = .error (.write text) := by
  obtain ⟨first, last, hsplit, -⟩ := sentOn_split hplace
  obtain ⟨early, late, -, -, hfound⟩ := transmissions_split hsplit
  exact transmission_outcome hfound

theorem resultOf?_of_running {session : Session} (h : session.standing.Answering) {call : Call}
    (hcall : call ∈ session.calls) :
    session.resultOf? call.number = none := by
  unfold resultOf?
  rw [Option.map_eq_none_iff, List.find?_eq_none]
  intro entry hentry
  simpa using (h.running entry hentry call hcall).symm

/-- When all is quiet and the session is connected, its response has been taken for writing, and has
been written or lost. Either way the session has not failed, and the login still waits. -/
theorem connected_at_rest (config : SessionConfig) (listeners : List String)
    (outcomes : List ConnectOutcome) (moves : List Move)
    (hquiet : ((build config listeners outcomes).run moves).isQuiet = true)
    (hstate : ((build config listeners outcomes).run moves).state = .connected) :
    let start := build config listeners outcomes
    let session := start.run moves
    (∃ early connection answer rest transmission,
      session.journal = early ++ .entered .connected :: .submitted connection answer :: rest ∧
        answer.service = .authResp ∧ (∀ state, .entered state ∉ rest) ∧
        (sentOn connection (start.transmissions moves))[(submittedTo connection early).length]? =
          some transmission ∧
        transmission.outgoing.packet = answer ∧
        ((∃ frame pipe, transmission.frame? = some frame ∧
            session.link.connections[connection]? = some pipe ∧ frame ∈ pipe.written) ∨
          (∃ fault, transmission.result = .error (.encode fault)) ∨
          ∃ text, transmission.result = .error (.write text))) ∧
      ∃ call ∈ session.calls, call.phase.isLogin = true ∧ session.ready call.phase = false ∧
        session.resultOf? call.number = none := by
  intro start session
  constructor
  · have hengaged : session.ledger.Engaged :=
      engaged_run (joined_build config listeners outcomes) (fun hnone => nomatch hnone) moves
    obtain ⟨early, connection, answer, rest, hjournal, hservice, hrest⟩ := hengaged hstate
    have hbalanced : session.ledger.Balanced (start.transmissions moves) :=
      balanced_run (joined_build config listeners outcomes)
        (balanced_build config listeners outcomes) moves
    have htaken := hbalanced.waiting connection
    rw [waitingOn_of_isQuiet hquiet, List.append_nil, hjournal] at htaken
    have hplace : ((sentOn connection (start.transmissions moves)).map
        fun transmission => transmission.outgoing.packet)[(submittedTo connection early).length]? =
          some answer := by
      rw [← htaken, submittedTo_append, List.getElem?_append_right (Nat.le_refl _), Nat.sub_self]
      show (submittedTo connection (.submitted connection answer :: rest))[0]? = some answer
      rw [submittedTo_submitted]
      rfl
    rw [List.getElem?_map, Option.map_eq_some_iff] at hplace
    obtain ⟨transmission, hsent, hpacket⟩ := hplace
    refine ⟨early, connection, answer, rest, transmission, hjournal, hservice, hrest, hsent,
      hpacket, ?_⟩
    refine (outcome_of_sentOn hsent).imp_left ?_
    rintro ⟨frame, hframe⟩
    have hwritten : frame ∈ session.ledger.writtenOn connection := by
      rw [hbalanced.written connection]
      exact List.mem_filterMap.mpr ⟨transmission, List.mem_of_getElem? hsent, hframe⟩
    unfold Ledger.writtenOn ledger at hwritten
    rw [List.getElem?_map] at hwritten
    cases hpipe : session.link.connections[connection]? with
    | none => simp [hpipe] at hwritten
    | some pipe => exact ⟨frame, pipe, hframe, rfl, by simpa [hpipe, Connection.line] using hwritten⟩
  · have hanswering : session.standing.Answering :=
      answering_run (numbered_build _ _ _) (answering_build _ _ _) moves
    have hled : session.standing.Led := led_run (led_build _ _ _) (numbered_build _ _ _) moves
    have hlogin : session.state.isLoggingIn = true := by
      rw [hstate]
      rfl
    obtain ⟨call, hcall, hphase⟩ := hled.led hlogin
    exact ⟨call, hcall, hphase, not_ready_of_isQuiet hquiet hcall,
      resultOf?_of_running hanswering hcall⟩

/-- Where writes fail, a packet that nobody asks after is gone without a trace. -/
theorem step_write_of_fault {session : Session} {index : Nat} {connection : Connection Sending}
    {outgoing : Outgoing Sending} {rest : List (Outgoing Sending)} {request : Sending}
    {text : String} (hconnection : session.link.connections[index]? = some connection)
    (hqueue : connection.queue = outgoing :: rest) (hreply : outgoing.reply = .request request)
    (hfault : connection.writeFault = some text) :
    session.step (.write index) =
        session.onConnection index (fun pipe => { pipe with queue := pipe.queue.tail }) ∧
      ∃ transmission error, session.transmission? (.write index) = some transmission ∧
        transmission.outgoing = outgoing ∧ transmission.result = .error error := by
  obtain ⟨error, hwrite⟩ : ∃ error, { connection with queue := rest }.write session.link.sessionId
      outgoing.packet = (.error error, { connection with queue := rest }) := by
    unfold Connection.write Connection.writeError?
    dsimp only
    rw [hfault]
    split
    · exact ⟨_, rfl⟩
    · exact ⟨_, rfl⟩
  have hnext : session.link.writeNext? index = some (⟨outgoing, .error error⟩,
      session.link.modify index fun _ => { connection with queue := rest }) := by
    simp only [Link.writeNext?, hconnection, hqueue, hwrite]
  have hlink : (session.link.modify index fun _ => { connection with queue := rest }) =
      session.link.modify index fun pipe => { pipe with queue := pipe.queue.tail } := by
    unfold Link.modify
    congr 1
    refine List.ext_getElem? fun position => ?_
    rw [List.getElem?_modify, List.getElem?_modify]
    by_cases hindex : index = position
    · subst hindex
      simp [hconnection, hqueue]
    · simp [hindex]
  constructor
  · simp only [step, write?, hnext, Option.map_some, Option.getD_some, hreply, hlink]
    rfl
  · simp only [transmission?, hnext, Option.map_some]
    exact ⟨_, error, rfl, rfl, rfl⟩

theorem run_singleton (session : Session) (move : Move) :
    session.run [move] = session.step move := rfl

/-- The connection breaks as the challenge comes in. The response is lost, and the session goes on
waiting for what the server makes of it. -/
theorem connected_at_rest_lost :
    let before : List Move := [.login "ann" "secret", .write 0, .resume 0,
      .arrive 0 [89, 77, 83, 71, 0, 12, 0, 0, 0, 12, 0, 87, 0, 0, 0, 0, 0, 0, 0, 0,
        57, 52, 192, 128, 97, 98, 99, 49, 50, 51, 192, 128], .faultWrites 0 (some "cut"), .read 0]
    let session := (build {} [] []).run (before ++ [.write 0])
    session.isQuiet = true ∧ session.state = .connected ∧
      (∃ transmission error,
        ((build {} [] []).run before).transmission? (.write 0) = some transmission ∧
          transmission.outgoing.packet.service = .authResp ∧
          transmission.result = .error error) ∧
      ∃ call ∈ session.calls, call.phase.isLogin = true ∧ session.ready call.phase = false ∧
        session.resultOf? call.number = none := by
  intro before session
  have hpipe : (((build {} [] []).run before).link.connections[0]?.any fun pipe =>
      pipe.writeFault = some "cut" && pipe.queue.length = 1 && pipe.queue.all fun outgoing =>
        outgoing.packet.service = .authResp &&
          match outgoing.reply with
          | .request _ => true
          | .ticket _ => false) = true := by decide +kernel
  rw [Option.any_eq_true] at hpipe
  obtain ⟨pipe, hconnection, hpipe⟩ := hpipe
  simp only [Bool.and_eq_true, decide_eq_true_eq, List.all_eq_true] at hpipe
  obtain ⟨⟨hfault, hlength⟩, hwaits⟩ := hpipe
  obtain ⟨outgoing, hqueue⟩ := List.length_eq_one_iff.mp hlength
  obtain ⟨hservice, hreply⟩ := hwaits outgoing (by simp [hqueue])
  cases hcase : outgoing.reply with
  | ticket number => simp [hcase] at hreply
  | request request =>
      obtain ⟨hstep, transmission, error, hfound, houtgoing, hresult⟩ :=
        step_write_of_fault hconnection hqueue hcase hfault
      have hsession : session = ((build {} [] []).run before).onConnection 0
          fun pipe => { pipe with queue := pipe.queue.tail } := by
        rw [← hstep, ← run_singleton]
        exact run_append _ before [.write 0]
      have hquiet : session.isQuiet = true := by
        rw [hsession]
        decide +kernel
      have hstate : session.state = .connected := by
        rw [hsession]
        decide +kernel
      rw [← houtgoing] at hservice
      have hrest := connected_at_rest {} [] [] (before ++ [.write 0])
      exact ⟨hquiet, hstate, ⟨transmission, error, hfound, hservice, hresult⟩,
        (hrest hquiet hstate).2⟩

end Session

end Messenger
