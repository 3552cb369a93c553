import Messenger.Proofs.Session.Handling
import Messenger.Proofs.Session.Tidings

/-!
Packets that tell of friends. Each friend has a section of the packet: the name, and what follows it
up to the next name. What is reported of a friend is the status and the text at the friend's place
among all of the packet, which are those of the section as long as no section before leaves them out.
-/

namespace Messenger

/-- A section of a packet that tells of a friend. -/
structure FriendSection where
  name : String
  details : Body
  nameless : details.getAll "7" = []
  status_once : (details.getAll "10").length ≤ 1
  note_once : (details.getAll "19").length ≤ 1

namespace FriendSection

def fields (friend : FriendSection) : List (String × String) :=
  ("7", friend.name) :: friend.details.fields

def status? (friend : FriendSection) : Option String :=
  friend.details.get? "10"

def note? (friend : FriendSection) : Option String :=
  friend.details.get? "19"

end FriendSection

/-- The status that a field stands for. Without one, or with one that is no number, it is zero. -/
def statusOf (text : Option String) : UInt32 :=
  (text.bind fun text => Text.word32? (Text.trim text)).getD 0

namespace Body

def ofFriends (friends : List FriendSection) : Body :=
  ⟨friends.flatMap FriendSection.fields⟩

theorem getAll_of_once {body : Body} {key : String} (honce : (body.getAll key).length ≤ 1) :
    body.getAll key = (body.get? key).toList := by
  rw [get?_eq_head?]
  match hvalues : body.getAll key with
  | [] => rfl
  | [value] => rfl
  | _ :: _ :: _ => simp [hvalues] at honce

theorem getAll_name_ofFriends (friends : List FriendSection) :
    (ofFriends friends).getAll "7" = friends.map FriendSection.name := by
  unfold ofFriends
  induction friends with
  | nil => rfl
  | cons friend rest induction =>
      rw [List.flatMap_cons, getAll_append, induction, FriendSection.fields, getAll_cons]
      simp [friend.nameless]

theorem getAll_ofFriends (key : String) (hkey : key ≠ "7") (friends : List FriendSection)
    (honce : ∀ friend ∈ friends, (friend.details.getAll key).length ≤ 1) :
    (ofFriends friends).getAll key =
      friends.filterMap fun friend => friend.details.get? key := by
  unfold ofFriends
  induction friends with
  | nil => rfl
  | cons friend rest induction =>
      have hrest := induction fun other hother => honce other (List.mem_cons_of_mem _ hother)
      have hdetails := getAll_of_once (honce friend (List.mem_cons_self ..))
      rw [List.flatMap_cons, getAll_append, hrest, FriendSection.fields, getAll_cons, hdetails]
      cases hvalue : friend.details.get? key <;> simp [hvalue, Ne.symm hkey]

end Body

namespace Event

def isStatusUpdate : Event → Bool
  | .statusUpdate .. => true
  | _ => false

end Event

namespace FriendSection

/-- What is reported of friends: each name with the status and the text at its place. -/
def updates (friends : List FriendSection) (online : Bool) : List Event :=
  friends.mapIdx fun place friend =>
    .statusUpdate friend.name (statusOf (friends.filterMap status?)[place]?)
      (friends.filterMap note?)[place]? online

/-- What a section says by itself. -/
def update (friend : FriendSection) (online : Bool) : Event :=
  .statusUpdate friend.name (statusOf friend.status?) friend.note? online

/-- No section before this one leaves something out; and if this one does, so do all after it. -/
def Aligned (value? : FriendSection → Option String) (before : List FriendSection)
    (friend : FriendSection) (after : List FriendSection) : Prop :=
  (∀ other ∈ before, (value? other).isSome = true) ∧
    ((value? friend).isSome = true ∨ ∀ other ∈ after, value? other = none)

theorem Aligned.getElem?_filterMap {value? : FriendSection → Option String}
    {before after : List FriendSection} {friend : FriendSection}
    (h : Aligned value? before friend after) :
    ((before ++ friend :: after).filterMap value?)[before.length]? = value? friend := by
  obtain ⟨hbefore, hafter⟩ := h
  have hlength : (before.filterMap value?).length = before.length :=
    List.filterMap_length_eq_length.mpr hbefore
  rw [List.filterMap_append, ← hlength, List.getElem?_append_right (Nat.le_refl _),
    Nat.sub_self]
  cases hvalue : value? friend with
  | some value => simp [hvalue]
  | none =>
      have hnone : ∀ other ∈ after, value? other = none :=
        hafter.resolve_left (by simp [hvalue])
      simp [hvalue, List.filterMap_eq_nil_iff.mpr hnone]

theorem statusUpdate_of_updates {friends before after : List FriendSection} {friend : FriendSection}
    (hfriends : friends = before ++ friend :: after) (online : Bool) :
    (updates friends online)[before.length]? =
      some (.statusUpdate friend.name (statusOf (friends.filterMap status?)[before.length]?)
        (friends.filterMap note?)[before.length]? online) := by
  have hplace : friends[before.length]? = some friend := by simp [hfriends]
  simp [updates, hplace]

end FriendSection

theorem Packet.friendStatuses_of_sections {packet : Packet} {friends : List FriendSection}
    (hbody : packet.body = .ofFriends friends) (online : Bool) :
    packet.friendStatuses online = FriendSection.updates friends online := by
  have hstatuses := Body.getAll_ofFriends "10" (by decide) friends
    fun friend _ => friend.status_once
  have hnotes := Body.getAll_ofFriends "19" (by decide) friends
    fun friend _ => friend.note_once
  unfold Packet.friendStatuses FriendSection.updates
  rw [hbody, Body.getAll_name_ofFriends, hstatuses, hnotes]
  apply List.ext_getElem?
  intro place
  simp only [List.getElem?_mapIdx, List.getElem?_map, List.getElem?_toArray, Option.map_map]
  rfl

/-- The handlers of packets that tell of friends, and whether the friends are there then. -/
def Reaction.presence? : Reaction → Option Bool
  | .logon => some true
  | .logoff => some false
  | .contactNew => some true
  | .statusChange => some true
  | _ => none

def statusUpdates (journal : List Happening) : List Report :=
  (reportsOf journal).filter fun report => report.event.isStatusUpdate

theorem statusUpdates_append (early late : List Happening) :
    statusUpdates (early ++ late) = statusUpdates early ++ statusUpdates late := by
  simp [statusUpdates]

theorem statusUpdates_reported (service : Service) (events : List Event) :
    statusUpdates (events.map fun event => .reported ⟨some service, event⟩) =
      (events.filter Event.isStatusUpdate).map fun event => ⟨some service, event⟩ := by
  have hreports : reportsOf (events.map fun event => .reported ⟨some service, event⟩) =
      events.map fun event => ⟨some service, event⟩ := by
    simp [reportsOf, List.filterMap_map, Function.comp_def, Happening.report?]
  rw [statusUpdates, hreports, List.filter_map]
  rfl

theorem filter_serverError (packet : Packet) :
    packet.serverError.filter Event.isStatusUpdate = [] := by
  unfold Packet.serverError
  cases packet.value? "16" <;> rfl

theorem filter_updates (friends : List FriendSection) (online : Bool) :
    (FriendSection.updates friends online).filter Event.isStatusUpdate =
      FriendSection.updates friends online := by
  rw [List.filter_eq_self]
  intro event hmem
  obtain ⟨place, hplace, rfl⟩ := List.mem_mapIdx.mp hmem
  rfl

namespace Session

theorem journal_reportEvents {session : Session} (hrunning : session.events.running = true)
    (service : Service) (events : List Event) :
    (session.reportEvents service events).journal =
      session.journal ++ events.map fun event => .reported ⟨some service, event⟩ := by
  rw [reportEvents_eq, reportAll_eq, if_pos hrunning]
  simp [Tidings.events, Function.comp_def]

/-- The status updates that are reported between two sessions are those of some friends. -/
def Updates (before : Session) (service : Service) (events : List Event) (after : Session) : Prop :=
  ∃ noted, after.journal = before.journal ++ noted ∧
    statusUpdates noted = events.map fun event => ⟨some service, event⟩

theorem Updates.reportEvents {session : Session} (hrunning : session.events.running = true)
    (service : Service) {events updates : List Event}
    (hupdates : events.filter Event.isStatusUpdate = updates) :
    Updates session service updates (session.reportEvents service events) :=
  ⟨_, journal_reportEvents hrunning service events, by rw [statusUpdates_reported, hupdates]⟩

theorem Updates.none {before after : Session} (noted : List Happening) (service : Service)
    (hjournal : after.journal = before.journal ++ noted) (hnone : statusUpdates noted = []) :
    Updates before service [] after :=
  ⟨noted, hjournal, hnone⟩

/-- A login that is completed by a packet tells nothing more of friends. -/
theorem Updates.markLoggedOn {before after : Session} {service : Service} {events : List Event}
    (h : Updates before service events after) :
    Updates before service events after.markLoggedOn := by
  obtain ⟨noted, hjournal, hupdates⟩ := h
  unfold Session.markLoggedOn
  split
  · rename_i hstate
    have hentered : (after.enter .loggedOn).journal = after.journal ++ [.entered .loggedOn] := by
      simp [enter, hstate]
    refine ⟨noted ++ (.entered .loggedOn ::
      if after.events.running then [.reported ⟨some .logon, .loggedOn after.user⟩] else []), ?_, ?_⟩
    · unfold report
      rw [hentered, hjournal]
      cases hrunning : after.events.running <;> simp [enter, hrunning, user]
    · rw [statusUpdates_append, hupdates]
      cases after.events.running <;> simp [statusUpdates, reportsOf, Happening.report?,
        Event.isStatusUpdate]
  · exact ⟨noted, hjournal, hupdates⟩

/-- A packet without friends in it tells of none, also where it is the server's goodbye. -/
theorem updates_onLogoff_goodbye (session : Session) {packet : Packet}
    (hnames : packet.has "7" = false) :
    Updates session packet.service [] (session.onLogoff packet) := by
  unfold onLogoff
  rw [hnames, if_neg (by decide)]
  cases hstate : session.state with
  | loggedOn =>
      refine .none (.entered .unstarted :: if session.events.running then
        [.reported ⟨some .logoff, .connectionClosed "session ended by server"⟩] else []) _ ?_ ?_
      · cases hrunning : session.events.running <;>
          simp [teardown, stopReader, report, enter, hstate, hrunning]
      · cases session.events.running <;> rfl
  | connecting => exact .none [.entered .failed] _ (by simp [fail, enter, hstate]) rfl
  | connected => exact .none [.entered .failed] _ (by simp [fail, enter, hstate]) rfl
  | unstarted => exact .none [] _ (by simp) rfl
  | failed => exact .none [] _ (by simp) rfl

theorem has_ofFriends {packet : Packet} {friends : List FriendSection}
    (hbody : packet.body = .ofFriends friends) :
    packet.has "7" = !friends.isEmpty := by
  have hfirst : (packet.body.get? "7").isSome = !friends.isEmpty := by
    rw [Body.get?_eq_head?, hbody, Body.getAll_name_ofFriends]
    cases friends <;> rfl
  rw [← hfirst, Packet.has, Bool.eq_iff_iff, Body.contains_iff_get?]

theorem updates_onLogoff {session : Session} (hrunning : session.events.running = true)
    {packet : Packet} {friends : List FriendSection} (hbody : packet.body = .ofFriends friends) :
    Updates session packet.service (FriendSection.updates friends false)
      (session.onLogoff packet) := by
  cases friends with
  | nil => exact updates_onLogoff_goodbye session (has_ofFriends hbody)
  | cons friend rest =>
      have hnames : packet.has "7" = true := has_ofFriends hbody
      unfold onLogoff
      rw [if_pos hnames, Packet.friendStatuses_of_sections hbody]
      exact .reportEvents hrunning _ (filter_updates _ _)

theorem updates_contactNew {session : Session} (hrunning : session.events.running = true)
    {packet : Packet} {friends : List FriendSection} (hbody : packet.body = .ofFriends friends) :
    (session.reportResult packet.service (contactEvents packet)).2 = .ok () ∧
      Updates session packet.service (FriendSection.updates friends true)
        (session.reportResult packet.service (contactEvents packet)).1 := by
  have hevents : contactEvents packet = .ok (FriendSection.updates friends true) := by
    unfold contactEvents
    cases friends with
    | nil => rw [if_pos (by rw [hbody]; rfl)]; rfl
    | cons friend rest =>
        have hnames : packet.has "7" = true := has_ofFriends hbody
        have hfilled : packet.body.isEmpty = false := by
          rw [hbody]
          rfl
        rw [if_neg (by simp [hfilled]), if_pos hnames, Packet.friendStatuses_of_sections hbody]
  rw [hevents]
  exact ⟨rfl, .reportEvents hrunning _ (filter_updates _ _)⟩

/-- What a packet of friends has its handler report of them. -/
theorem react_updates {session : Session} (halive : session.alive = true)
    (hrunning : session.events.running = true) {reaction : Reaction} {online : Bool}
    (hreaction : reaction.presence? = some online) {packet : Packet}
    {friends : List FriendSection} (hbody : packet.body = .ofFriends friends) :
    (session.react reaction packet).2 = .ok () ∧
      Updates session packet.service (FriendSection.updates friends online)
        (session.react reaction packet).1 := by
  have hpresence : Updates session packet.service (FriendSection.updates friends true)
      (session.reportEvents packet.service
        (packet.serverError ++ packet.friendStatuses true)) := by
    apply Updates.reportEvents hrunning
    rw [List.filter_append, filter_serverError, List.nil_append,
      Packet.friendStatuses_of_sections hbody, filter_updates]
  cases reaction with
  | logon =>
      cases hreaction
      simp only [react, halive]
      exact ⟨rfl, hpresence.markLoggedOn⟩
  | logoff =>
      cases hreaction
      simp only [react, halive]
      exact ⟨rfl, updates_onLogoff hrunning hbody⟩
  | contactNew =>
      cases hreaction
      simp only [react, halive]
      exact updates_contactNew hrunning hbody
  | statusChange =>
      cases hreaction
      simp only [react, halive]
      exact ⟨rfl, hpresence⟩
  | _ => cases hreaction

/-- A packet that is a sequence of sections has one status update reported for each, in order. It
has the friend of the section, and the status and the text at that place among all of the packet;
and these are the section's own wherever no section before leaves one out, and none after has one
that this section lacks. -/
theorem statusUpdates_of_friends (session : Session) (reaction : Reaction) (online : Bool)
    (packet : Packet) (friends : List FriendSection) (halive : session.alive = true)
    (hrunning : session.events.running = true) (hreaction : reaction.presence? = some online)
    (hbody : packet.body = .ofFriends friends) :
    ∃ (noted : List Happening) (updates : List Event), (session.react reaction packet).2 = .ok () ∧
      (session.react reaction packet).1.journal = session.journal ++ noted ∧
      statusUpdates noted = updates.map (fun event => ⟨some packet.service, event⟩) ∧
      updates.length = friends.length ∧
      ∀ before friend after, friends = before ++ friend :: after →
        ∃ status note,
          updates[before.length]? = some (.statusUpdate friend.name (statusOf status) note online) ∧
          status = (friends.filterMap FriendSection.status?)[before.length]? ∧
          note = (friends.filterMap FriendSection.note?)[before.length]? ∧
          (FriendSection.Aligned FriendSection.status? before friend after →
            status = friend.status?) ∧
          (FriendSection.Aligned FriendSection.note? before friend after → note = friend.note?) := by
  obtain ⟨hresult, noted, hjournal, hupdates⟩ := react_updates halive hrunning hreaction hbody
  refine ⟨noted, FriendSection.updates friends online, hresult, hjournal, hupdates,
    List.length_mapIdx, ?_⟩
  intro before friend after hfriends
  refine ⟨_, _, FriendSection.statusUpdate_of_updates hfriends online, rfl, rfl, ?_, ?_⟩
  · intro haligned
    rw [hfriends, haligned.getElem?_filterMap]
  · intro haligned
    rw [hfriends, haligned.getElem?_filterMap]

/-- Only the last of three friends has a status, and only the first has no text: the second keeps his
text. -/
theorem statusUpdates_of_friends_three :
    let ann : FriendSection := ⟨"ann", ⟨[("13", "1"), ("19", "out")]⟩, rfl, by decide, by decide⟩
    let bob : FriendSection := ⟨"bob", ⟨[("19", "in")]⟩, rfl, by decide, by decide⟩
    let cid : FriendSection := ⟨"cid", ⟨[("10", " 7 ")]⟩, rfl, by decide, by decide⟩
    let packet : Packet := { service := .logoff, body := .ofFriends [ann, bob, cid] }
    let session := (build {} ["screen"] []).run [.login "me" "secret"]
    ∃ noted, (session.react .logoff packet).1.journal = session.journal ++ noted ∧
      (statusUpdates noted)[1]? =
        some ⟨some .logoff, .statusUpdate "bob" 0 (some "in") false⟩ := by
  intro ann bob cid packet session
  have hbody : packet.body = .ofFriends ([ann] ++ bob :: [cid]) := rfl
  obtain ⟨noted, updates, -, hjournal, hupdates, -, hsections⟩ :=
    statusUpdates_of_friends session .logoff false packet ([ann] ++ bob :: [cid]) rfl rfl rfl hbody
  obtain ⟨status, note, hupdate, hstatus, -, -, hnote⟩ := hsections [ann] bob [cid] rfl
  have haligned : FriendSection.Aligned FriendSection.note? [ann] bob [cid] :=
    ⟨by simp [ann, FriendSection.note?, Body.get?], .inl rfl⟩
  have hnoStatus : status = none := hstatus
  refine ⟨noted, hjournal, ?_⟩
  rw [hnote haligned, hnoStatus] at hupdate
  rw [hupdates, List.getElem?_map]
  exact congrArg (Option.map _) hupdate

/-- Where a friend has no status, he is reported with that of the next one, who then has none. -/
theorem statusUpdate_of_another_friend :
    let ann : FriendSection := ⟨"ann", ⟨[]⟩, rfl, by decide, by decide⟩
    let bob : FriendSection := ⟨"bob", ⟨[("10", "2")]⟩, rfl, by decide, by decide⟩
    let packet : Packet := { service := .logon, body := .ofFriends [ann, bob] }
    let session := (build {} ["screen"] []).run [.login "me" "secret"]
    statusUpdates (session.react .logon packet).1.journal =
        [⟨some .logon, .statusUpdate "ann" 2 none true⟩,
         ⟨some .logon, .statusUpdate "bob" 0 none true⟩] ∧
      statusUpdates (session.react .logon packet).1.journal ≠
        [ann, bob].map fun friend => ⟨some .logon, friend.update true⟩ := by
  decide +kernel

end Session

end Messenger
