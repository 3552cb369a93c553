import Messenger.Conference.Store

/-!
Packets for a room that come before the invitation to it. Once the invitation is there, the room and
what is reported of it are as if the invitation had come first and those packets that the policy
keeps after it, in the order they came.
-/

namespace Messenger

namespace Table

variable {κ : Type u} {α : Type v} [DecidableEq κ]

@[simp] theorem insert_insert (table : Table κ α) (key : κ) (first second : α) :
    (table.insert key first).insert key second = table.insert key second := by
  simp [insert, erase]

end Table

namespace Packet

def isInvitation (packet : Packet) : Bool :=
  packet.service = .confInvite ∨ packet.service = .confAddInvite

def isRoomUpdate (packet : Packet) : Bool :=
  packet.service ∈ [.confLogon, .confLogoff, .confDecline, .confMsg]

end Packet

namespace Conference

namespace Room

@[simp] theorem addMember_invited (room : Room) (user : String) :
    (room.addMember user).invited = room.invited := by
  unfold addMember
  split <;> rfl

@[simp] theorem addMember_pending (room : Room) (user : String) :
    (room.addMember user).pending = room.pending := by
  unfold addMember
  split <;> rfl

@[simp] theorem addMembers_invited (room : Room) (users : List String) :
    (room.addMembers users).invited = room.invited := by
  induction users generalizing room with
  | nil => rfl
  | cons user rest induction => exact (induction _).trans (room.addMember_invited user)

/-- Who is in a room does not depend on what it holds. -/
theorem addMembers_holding (room : Room) (held : List Packet) (users : List String) :
    { room with pending := held }.addMembers users =
      { room.addMembers users with pending := held } := by
  induction users generalizing room with
  | nil => rfl
  | cons user rest induction =>
      have hfirst : { room with pending := held }.addMember user =
          { room.addMember user with pending := held } := by
        unfold addMember
        split <;> rfl
      simp only [addMembers, List.foldl_cons, hfirst] at induction ⊢
      exact induction _

structure Keeps (before after : Room) : Prop where
  invited : after.invited = before.invited
  pending : after.pending = before.pending

theorem update_keeps {room next : Room} {name : String} {packet : Packet} {event : Option Event}
    (hupdate : room.update name packet = .ok (next, event)) :
    Keeps room next := by
  unfold update at hupdate
  split at hupdate
  case h_5 =>
    cases hupdate
    exact ⟨rfl, rfl⟩
  all_goals
    simp only [Except.map] at hupdate
    split at hupdate
    · cases hupdate
    · simp only [Except.ok.injEq, Prod.mk.injEq] at hupdate
      rw [← hupdate.1]
      exact ⟨by simp [removeMember], by simp [removeMember]⟩

theorem replay_keeps (name : String) (state : Room × List Report) (packet : Packet) :
    Keeps state.1 (replay name state packet).1 := by
  unfold replay
  split
  · exact ⟨rfl, rfl⟩
  · rename_i next event hupdate
    exact update_keeps hupdate

theorem replayAll_keeps (name : String) (state : Room × List Report) (packets : List Packet) :
    Keeps state.1 (packets.foldl (replay name) state).1 := by
  induction packets generalizing state with
  | nil => exact ⟨rfl, rfl⟩
  | cons packet rest induction =>
      have hfirst := replay_keeps name state packet
      have hrest := induction (replay name state packet)
      exact ⟨hrest.invited.trans hfirst.invited, hrest.pending.trans hfirst.pending⟩

/-- What has been reported before stands in front. -/
theorem replay_reports (name : String) (room : Room) (reports : List Report) (packet : Packet) :
    replay name (room, reports) packet =
      ((replay name (room, []) packet).1, reports ++ (replay name (room, []) packet).2) := by
  unfold replay
  cases room.update name packet <;> simp

theorem replayAll_reports (name : String) (room : Room) (reports : List Report)
    (packets : List Packet) :
    packets.foldl (replay name) (room, reports) =
      ((packets.foldl (replay name) (room, [])).1,
        reports ++ (packets.foldl (replay name) (room, [])).2) := by
  induction packets generalizing room reports with
  | nil => simp
  | cons packet rest induction =>
      simp only [List.foldl_cons]
      rw [replay_reports, induction, induction _ (replay name (room, []) packet).2]
      simp

/-! An invitation seats its members first, and only then replays what the room holds. -/

def seated (room : Room) (packet : Packet) : Room :=
  let inviter := (packet.value? "50").getD ""
  let known :=
    if inviter = "" then room
    else { room with inviter := some inviter }.addMembers [inviter]
  { known with invited := true }.addMembers (packet.body.getAll "52")

def invitation (name : String) (packet : Packet) : Report :=
  ⟨some packet.service, .conferenceInvite name ((packet.value? "50").getD "")
    (packet.body.getAll "52") (packet.value? "58")⟩

@[simp] theorem seated_invited (room : Room) (packet : Packet) :
    (room.seated packet).invited = true := by
  simp [seated]

theorem seated_holding (room : Room) (held : List Packet) (packet : Packet) :
    { room with pending := held }.seated packet =
      { room.seated packet with pending := held } := by
  simp only [seated]
  split
  · exact addMembers_holding { room with invited := true } held _
  · rw [addMembers_holding { room with inviter := some ((packet.value? "50").getD "") }]
    exact addMembers_holding { addMembers _ _ with invited := true } held _

theorem seated_pending (room : Room) (packet : Packet) :
    (room.seated packet).pending = room.pending := by
  have hheld := seated_holding room room.pending packet
  have hpending := congrArg Room.pending hheld
  exact hpending

theorem invite_eq (room : Room) (name : String) (packet : Packet) :
    room.invite name packet =
      room.pending.foldl (replay name)
        ({ room.seated packet with pending := [] }, [invitation name packet]) := by
  rw [← seated_pending room packet]
  rfl

theorem invite_holding (room : Room) (held : List Packet) (name : String) (packet : Packet) :
    { room with pending := held }.invite name packet =
      held.foldl (replay name) ({ room with pending := [] }.invite name packet) := by
  simp only [invite_eq, seated_holding, List.foldl_nil]

/-- An invitation leaves nothing behind that it has not replayed. -/
theorem invite_settles (room : Room) (name : String) (packet : Packet) :
    (room.invite name packet).1.invited = true ∧ (room.invite name packet).1.pending = [] := by
  rw [invite_eq]
  have hkeeps := replayAll_keeps name
    ({ room.seated packet with pending := [] }, [invitation name packet]) room.pending
  exact ⟨hkeeps.invited.trans (seated_invited room packet), hkeeps.pending⟩

theorem invite_reports (room : Room) (name : String) (packet : Packet) :
    ∃ rest, (room.invite name packet).2 = invitation name packet :: rest := by
  rw [invite_eq, replayAll_reports]
  exact ⟨_, rfl⟩

end Room

namespace Store

/-- A packet that is turned down reports nothing. -/
def receiveAll : Store → List Packet → Store × List Report
  | store, [] => (store, [])
  | store, packet :: rest =>
      let (next, outcome) := store.receive packet
      let (last, reports) := next.receiveAll rest
      (last, outcome.toOption.getD [] ++ reports)

theorem receiveAll_append (store : Store) (first second : List Packet) :
    store.receiveAll (first ++ second) =
      (((store.receiveAll first).1.receiveAll second).1,
        (store.receiveAll first).2 ++ ((store.receiveAll first).1.receiveAll second).2) := by
  induction first generalizing store with
  | nil => simp [receiveAll]
  | cons packet rest induction => simp [receiveAll, induction]

section Arrival

variable {store : Store} {room : String} {packet : Packet}

@[simp] theorem find?_setRoom (store : Store) (name : String) (room : Room) :
    (store.setRoom name room).rooms.find? name = some room :=
  store.rooms.find?_insert_self name room

@[simp] theorem setRoom_setRoom (store : Store) (name : String) (first second : Room) :
    (store.setRoom name first).setRoom name second = store.setRoom name second := by
  simp [setRoom]

theorem receive_update (hroom : packet.value? "57" = some room)
    (hupdate : packet.isRoomUpdate = true) :
    store.receive packet = store.receiveUpdate room packet := by
  have hnot : ¬ (packet.service = .confInvite ∨ packet.service = .confAddInvite) := by
    rintro (hservice | hservice) <;> simp [Packet.isRoomUpdate, hservice] at hupdate
  simp only [receive, (packet.require_eq_ok_iff "57" room).mpr hroom, if_neg hnot]

theorem receive_invitation (hroom : packet.value? "57" = some room)
    (hinvitation : packet.isInvitation = true) :
    store.receive packet =
      ((store.receiveInvite room packet).1, .ok (store.receiveInvite room packet).2) := by
  have hservice : packet.service = .confInvite ∨ packet.service = .confAddInvite := by
    simpa [Packet.isInvitation] using hinvitation
  simp only [receive, (packet.require_eq_ok_iff "57" room).mpr hroom, if_pos hservice]

end Arrival

/-- What the policy keeps of packets that come too early. -/
def buffered (store : Store) (packets : List Packet) : List Packet :=
  packets.filter fun packet => store.policy.buffers packet.service

/-- A room gets its entry with the first packet it holds. -/
def holding (store : Store) (room : String) (held : List Packet) : Store :=
  if held = [] then store else store.setRoom room { pending := held }

def pendingCount (store : Store) (room : String) : Nat :=
  ((store.snapshot? room).map Snapshot.pending).getD 0

section Early

variable {store : Store} {room : String}

theorem pendingCount_holding (hunknown : store.rooms.find? room = none) (held : List Packet) :
    (store.holding room held).pendingCount room = held.length := by
  by_cases hheld : held = []
  · simp [pendingCount, holding, snapshot?, hheld, hunknown]
  · simp [pendingCount, holding, snapshot?, hheld, Room.snapshot]

theorem receive_holding (hunknown : store.rooms.find? room = none) (hleft : room ∉ store.left)
    (held : List Packet) {packet : Packet} (hroom : packet.value? "57" = some room)
    (hupdate : packet.isRoomUpdate = true) :
    (store.holding room held).receive packet =
      (store.holding room (held ++ store.buffered [packet]), .ok []) := by
  rw [receive_update hroom hupdate]
  by_cases hheld : held = []
  · cases hbuffers : store.policy.buffers packet.service <;>
      simp [holding, hheld, receiveUpdate, hleft, hunknown, buffered, hbuffers]
  · have hstanding : room ∉ (store.setRoom room { pending := held }).left := hleft
    cases hbuffers : store.policy.buffers packet.service <;>
      simp [holding, hheld, receiveUpdate, hstanding, buffered, hbuffers]
    all_goals simp [setRoom, hbuffers]

theorem receiveAll_holding (hunknown : store.rooms.find? room = none)
    (hleft : room ∉ store.left) {early : List Packet}
    (hearly : ∀ packet ∈ early, packet.isRoomUpdate = true ∧ packet.value? "57" = some room)
    (held : List Packet) :
    (store.holding room held).receiveAll early =
      (store.holding room (held ++ store.buffered early), []) := by
  induction early generalizing held with
  | nil => simp [receiveAll, buffered]
  | cons packet rest induction =>
      obtain ⟨⟨hupdate, hroom⟩, hrest⟩ := List.forall_mem_cons.mp hearly
      rw [receiveAll, receive_holding hunknown hleft held hroom hupdate]
      have happend : store.buffered (packet :: rest) =
          store.buffered [packet] ++ store.buffered rest :=
        List.filter_append [packet] rest
      simp [induction hrest, happend, Except.toOption]

theorem receiveInvite_holding (hunknown : store.rooms.find? room = none)
    (hleft : room ∉ store.left) (held : List Packet) (packet : Packet) :
    (store.holding room held).receiveInvite room packet =
      (store.setRoom room (held.foldl (Room.replay room) (({} : Room).invite room packet)).1,
        (held.foldl (Room.replay room) (({} : Room).invite room packet)).2) := by
  have hfilter : store.left.filter (· != room) = store.left :=
    List.filter_eq_self.mpr fun name hname => by
      simpa using fun heq : name = room => hleft (heq ▸ hname)
  have hinvite : ({ pending := held } : Room).invite room packet =
      held.foldl (Room.replay room) (({} : Room).invite room packet) :=
    Room.invite_holding {} held room packet
  by_cases hheld : held = []
  · simp [holding, hheld, receiveInvite, hunknown, hfilter]
  · simp only [holding, hheld, if_false, receiveInvite, find?_setRoom, Option.getD_some, hinvite]
    simp [setRoom, hfilter]

/-- To a room we are in, an update does what its replay does. -/
theorem receive_invited {state : Room} (hinvited : state.invited = true)
    (hleft : room ∉ store.left) {packet : Packet} (hroom : packet.value? "57" = some room)
    (hupdate : packet.isRoomUpdate = true) :
    ((store.setRoom room state).receive packet).1 =
        store.setRoom room (Room.replay room (state, []) packet).1 ∧
      ((store.setRoom room state).receive packet).2.toOption.getD [] =
        (Room.replay room (state, []) packet).2 := by
  have hstanding : room ∉ (store.setRoom room state).left := hleft
  rw [receive_update hroom hupdate]
  simp only [receiveUpdate, hstanding, if_false, find?_setRoom, hinvited, if_true, Room.replay]
  cases state.update room packet <;> simp [Except.toOption]

theorem receiveAll_invited {state : Room} (hinvited : state.invited = true)
    (hleft : room ∉ store.left) {updates : List Packet}
    (hupdates : ∀ packet ∈ updates, packet.isRoomUpdate = true ∧ packet.value? "57" = some room) :
    (store.setRoom room state).receiveAll updates =
      (store.setRoom room (updates.foldl (Room.replay room) (state, [])).1,
        (updates.foldl (Room.replay room) (state, [])).2) := by
  induction updates generalizing state with
  | nil => rfl
  | cons packet rest induction =>
      obtain ⟨⟨hupdate, hroom⟩, hrest⟩ := List.forall_mem_cons.mp hupdates
      obtain ⟨hstore, hreports⟩ := receive_invited hinvited hleft hroom hupdate
      have hstill : (Room.replay room (state, []) packet).1.invited = true :=
        (Room.replay_keeps room (state, []) packet).invited.trans hinvited
      rw [List.foldl_cons, Room.replayAll_reports, receiveAll]
      simp only [hstore, hreports, induction hstill hrest]

/-- The packets held back and the invitation change places. -/
theorem receiveAll_early_invitation (hunknown : store.rooms.find? room = none)
    (hleft : room ∉ store.left) {early : List Packet}
    (hearly : ∀ packet ∈ early, packet.isRoomUpdate = true ∧ packet.value? "57" = some room)
    {invitation : Packet} (hinvitation : invitation.isInvitation = true)
    (hroom : invitation.value? "57" = some room) :
    store.receiveAll (early ++ [invitation]) =
      store.receiveAll (invitation :: store.buffered early) := by
  have hjoined : (({} : Room).invite room invitation).1.invited = true :=
    (Room.invite_settles {} room invitation).1
  have hbuffered : ∀ packet ∈ store.buffered early,
      packet.isRoomUpdate = true ∧ packet.value? "57" = some room :=
    fun packet hpacket => hearly packet (List.mem_filter.mp hpacket).1
  have hlate : store.receiveAll early = (store.holding room (store.buffered early), []) :=
    receiveAll_holding hunknown hleft hearly []
  have hprompt : store.receiveInvite room invitation =
      (store.setRoom room (({} : Room).invite room invitation).1,
        (({} : Room).invite room invitation).2) :=
    receiveInvite_holding hunknown hleft [] invitation
  have hreplay := receiveInvite_holding hunknown hleft (store.buffered early) invitation
  generalize ({} : Room).invite room invitation = joined at hjoined hprompt hreplay
  calc store.receiveAll (early ++ [invitation])
      = (store.setRoom room ((store.buffered early).foldl (Room.replay room) joined).1,
          ((store.buffered early).foldl (Room.replay room) joined).2) := by
        rw [receiveAll_append, hlate]
        simp [receiveAll, receive_invitation hroom hinvitation, hreplay, Except.toOption]
    _ = store.receiveAll (invitation :: store.buffered early) := by
        rw [receiveAll, receive_invitation hroom hinvitation, hprompt]
        simp only [receiveAll_invited hjoined hleft hbuffered]
        rw [Room.replayAll_reports]
        rfl

end Early

def Settled (store : Store) (room : String) : Prop :=
  ∃ state, store.rooms.find? room = some state ∧ state.invited = true ∧ state.pending = []

section Settled

variable {store : Store} {room : String}

theorem settled_setRoom_of_ne {name : String} (hname : room ≠ name) (state : Room)
    (hsettled : store.Settled room) : (store.setRoom name state).Settled room := by
  obtain ⟨held, hheld, hrest⟩ := hsettled
  exact ⟨held, (store.rooms.find?_insert_of_ne hname state).trans hheld, hrest⟩

theorem settled_receiveInvite (name : String) (packet : Packet)
    (hsettled : store.Settled room) : (store.receiveInvite name packet).1.Settled room := by
  by_cases hname : room = name
  · subst hname
    exact ⟨_, find?_setRoom _ _ _, Room.invite_settles _ room packet⟩
  · exact settled_setRoom_of_ne hname _ hsettled

theorem settled_receiveUpdate (name : String) (packet : Packet)
    (hsettled : store.Settled room) : (store.receiveUpdate name packet).1.Settled room := by
  by_cases hname : room = name
  · subst hname
    obtain ⟨state, hstate, hinvited, hpending⟩ := hsettled
    simp only [receiveUpdate, hstate, hinvited, if_true]
    split
    · exact ⟨state, hstate, hinvited, hpending⟩
    · cases hupdate : state.update room packet with
      | error error => exact ⟨state, hstate, hinvited, hpending⟩
      | ok result =>
          have hkeeps := Room.update_keeps hupdate
          exact ⟨result.1, find?_setRoom _ _ _, hkeeps.invited.trans hinvited,
            hkeeps.pending.trans hpending⟩
  · unfold receiveUpdate
    repeat' split
    all_goals first
      | exact hsettled
      | exact settled_setRoom_of_ne hname _ hsettled

theorem settled_receive (packet : Packet) (hsettled : store.Settled room) :
    (store.receive packet).1.Settled room := by
  unfold receive
  split
  · exact hsettled
  · split
    · exact settled_receiveInvite _ packet hsettled
    · exact settled_receiveUpdate _ packet hsettled

theorem settled_receiveAll (packets : List Packet) (hsettled : store.Settled room) :
    (store.receiveAll packets).1.Settled room := by
  induction packets generalizing store with
  | nil => exact hsettled
  | cons packet rest induction => exact induction (settled_receive packet hsettled)

end Settled

/-- Of a room we neither know nor have left, packets that come before the invitation are only
counted, where the policy keeps them. From the invitation on, whatever follows it, the rooms and the
reports are those of the run in which it came first and the kept packets after it, each once and in
the order they came. -/
theorem receiveAll_early {store : Store} {room : String}
    (hunknown : store.rooms.find? room = none) (hleft : room ∉ store.left)
    {early : List Packet}
    (hearly : ∀ packet ∈ early, packet.isRoomUpdate = true ∧ packet.value? "57" = some room)
    {invitation : Packet} (hinvitation : invitation.isInvitation = true)
    (hroom : invitation.value? "57" = some room) (later : List Packet) :
    (∀ count,
      (store.receiveAll (early.take count)).2 = [] ∧
      (store.receiveAll (early.take count)).1.pendingCount room =
        (store.buffered (early.take count)).length) ∧
    ∀ count,
      let late := store.receiveAll (early ++ invitation :: later.take count)
      let prompt := store.receiveAll (invitation :: (store.buffered early ++ later.take count))
      late = prompt ∧
      (∃ snapshot, late.1.snapshot? room = some snapshot ∧
        snapshot.invited = true ∧ snapshot.pending = 0) ∧
      ∃ rest, late.2 =
        ⟨some invitation.service, .conferenceInvite room ((invitation.value? "50").getD "")
          (invitation.body.getAll "52") (invitation.value? "58")⟩ :: rest := by
  refine ⟨fun count => ?_, fun count => ?_⟩
  · have htake : ∀ packet ∈ early.take count,
        packet.isRoomUpdate = true ∧ packet.value? "57" = some room :=
      fun packet hpacket => hearly packet (List.mem_of_mem_take hpacket)
    rw [show store.receiveAll (early.take count) = _ from
      receiveAll_holding hunknown hleft htake []]
    exact ⟨rfl, pendingCount_holding hunknown _⟩
  · intro late prompt
    have hsame : late = prompt := by
      have hlate : early ++ invitation :: later.take count =
          (early ++ [invitation]) ++ later.take count := by simp
      have hprompt : invitation :: (store.buffered early ++ later.take count) =
          (invitation :: store.buffered early) ++ later.take count := rfl
      simp only [late, prompt]
      rw [hlate, hprompt, receiveAll_append, receiveAll_append _ (invitation :: _),
        receiveAll_early_invitation hunknown hleft hearly hinvitation hroom]
    have hfirst : store.receive invitation =
        ((store.receiveInvite room invitation).1, .ok (store.receiveInvite room invitation).2) :=
      receive_invitation hroom hinvitation
    rw [hsame]
    refine ⟨rfl, ?_, ?_⟩
    · have hsettled : (store.receiveInvite room invitation).1.Settled room :=
        ⟨_, find?_setRoom _ _ _, Room.invite_settles _ room invitation⟩
      obtain ⟨state, hstate, hinvited, hpending⟩ :=
        settled_receiveAll (store.buffered early ++ later.take count) hsettled
      have hfind : prompt.1.rooms.find? room = some state := by
        simpa only [prompt, receiveAll, hfirst] using hstate
      exact ⟨state.snapshot room, by simp [snapshot?, hfind], hinvited, by
        simp [Room.snapshot, hpending]⟩
    · obtain ⟨rest, hrest⟩ :=
        Room.invite_reports ((store.rooms.find? room).getD {}) room invitation
      have hreports : (store.receiveInvite room invitation).2 =
          Room.invitation room invitation :: rest := hrest
      simp only [prompt, receiveAll, hfirst, hreports]
      exact ⟨_, rfl⟩

/-- Of five early packets the default policy drops the decline, and one that it keeps names no
user; the invitation comes again later. -/
theorem receiveAll_early_repeated :
    let about (service : Service) (fields : List (String × String)) : Packet :=
      .request service (("57", "r") :: fields)
    let early := [about .confMsg [("3", "ann"), ("14", "hi")], about .confLogon [],
      about .confDecline [("54", "ben")], about .confLogon [("53", "ben")],
      about .confLogoff [("56", "ann")]]
    let invitation := about .confInvite [("50", "ann"), ("52", "eve")]
    let later := [about .confMsg [("3", "ben")], about .confAddInvite [("50", "ann")]]
    let kept := [about .confMsg [("3", "ann"), ("14", "hi")], about .confLogon [],
      about .confLogon [("53", "ben")], about .confLogoff [("56", "ann")]]
    (({} : Store).receiveAll early).1.pendingCount "r" = 4 ∧
      (({} : Store).receiveAll (early ++ invitation :: later)).2 =
        (({} : Store).receiveAll (invitation :: (kept ++ later))).2 := by
  intro about early invitation later kept
  have hearly : ∀ packet ∈ early,
      packet.isRoomUpdate = true ∧ packet.value? "57" = some "r" := by decide
  obtain ⟨hbefore, hafter⟩ := @receiveAll_early {} "r" rfl List.not_mem_nil early hearly
    invitation rfl rfl later
  exact ⟨(hbefore 5).2, congrArg Prod.snd (hafter 2).1⟩

end Store

end Conference

end Messenger
