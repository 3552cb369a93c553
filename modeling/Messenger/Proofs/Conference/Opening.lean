import Messenger.Proofs.Conference.Steps

/-!
Rooms that the user creates. They are numbered, and no number is given out twice before all words
have been, so a name is new unless the server has chosen it before. A new room takes part in
everything until the user leaves it.
-/

namespace Messenger.Conference

theorem dash_not_digit (number : Nat) : '-' ∉ (toString number).toList := by
  intro hmem
  rw [Nat.toString_eq_repr, Nat.toList_repr] at hmem
  have hdigit := Nat.isDigit_of_mem_toDigits (by decide) (by decide) hmem
  exact absurd hdigit (by decide)

theorem toString_injective {first second : Nat}
    (h : (toString first).toList = (toString second).toList) : first = second := by
  have hvalue := congrArg (fun digits => Nat.ofDigitChars 10 digits 0) h
  simpa using hvalue

/-- The number is what stands behind the last dash, whatever the user is called. -/
theorem numbered_inj {first second : String} {number other : UInt64}
    (h : numbered first number = numbered second other) : number = other := by
  have behind (user : String) (number : UInt64) :
      (numbered user number).toList.reverse.takeWhile (· != '-') =
        (toString number.toNat).toList.reverse := by
    have hshown : toString number = toString number.toNat := rfl
    simp only [numbered, hshown, String.toList_append, List.reverse_append, List.append_assoc]
    rw [List.takeWhile_append_of_pos]
    · simp
    · intro letter hletter
      have hne : letter ≠ '-' := by
        rintro rfl
        exact dash_not_digit number.toNat (List.mem_reverse.mp hletter)
      simpa using hne
  have hdigits := behind first number
  rw [h, behind second other, List.reverse_inj] at hdigits
  exact UInt64.toNat_inj.mp (toString_injective hdigits).symm

/-- Numbers come again only after all others. -/
theorem ofNat_ne_of_lt {first later : Nat} (hlt : first < later)
    (hwithin : later < first + UInt64.size) :
    UInt64.ofNat first ≠ UInt64.ofNat later := by
  intro heq
  have hword := congrArg UInt64.toNat heq
  rw [UInt64.toNat_ofNat', UInt64.toNat_ofNat'] at hword
  unfold UInt64.size at hwithin
  omega

/-- A packet that has the field it needs tells who is in the room after it, and what is reported. -/
inductive Notice (room : String) (packet : Packet) : List String → List String → Event → Prop
  | joined {members : List String} {user : String} :
      packet.service = .confLogon → packet.value? "53" = some user →
      Notice room packet members (if user ∈ members then members else members ++ [user])
        (.conferenceLogon room user)
  | gone {members : List String} {user : String} :
      packet.service = .confLogoff → packet.value? "56" = some user →
      Notice room packet members (members.filter (· != user)) (.conferenceLogoff room user)
  | declined {members : List String} {user : String} :
      packet.service = .confDecline → packet.value? "54" = some user →
      Notice room packet members (members.filter (· != user))
        (.conferenceDecline room user (packet.value? "14"))
  | said {members : List String} {user : String} :
      packet.service = .confMsg → packet.value? "3" = some user →
      Notice room packet members members
        (.conferenceMessage room user ((packet.value? "14").getD ""))

theorem Room.update_notice {room : Room} (hopen : room.closed = false) {name : String}
    {packet : Packet} {members : List String} {event : Event}
    (hnotice : Notice name packet room.members members event) :
    room.update name packet = .ok ({ room with members }, some event) := by
  obtain ⟨invited, closed, inviter, seen, pending⟩ := room
  subst hopen
  cases hnotice with
  | joined hservice hvalue =>
      have hfound := (packet.require_eq_ok_iff "53" _).mpr hvalue
      simp only [update, hservice, hfound, Except.map, addMember]
      split <;> rfl
  | gone hservice hvalue =>
      have hfound := (packet.require_eq_ok_iff "56" _).mpr hvalue
      simp [update, hservice, hfound, Except.map, removeMember]
  | declined hservice hvalue =>
      have hfound := (packet.require_eq_ok_iff "54" _).mpr hvalue
      simp [update, hservice, hfound, Except.map, removeMember]
  | said hservice hvalue =>
      have hfound := (packet.require_eq_ok_iff "3" _).mpr hvalue
      simp [update, hservice, hfound, Except.map]

namespace Store

section Names

variable {room : String} {heard : Bool} {count : Nat} {store : Store}

/-- So many rooms have been created. This one, if it is known or was left, bears a name heard from
the server, or a number given out. -/
structure Accounted (room : String) (heard : Bool) (count : Nat) (store : Store) : Prop where
  created : store.created = .ofNat count
  named : store.rooms.find? room ≠ none ∨ room ∈ store.left →
    heard = true ∨ ∃ user, ∃ number < count, room = numbered user (.ofNat number)

theorem accounted_start (room : String) (policy : BufferPolicy) :
    Accounted room false 0 { policy } where
  created := rfl
  named := by
    rintro (hknown | hleft)
    · exact absurd rfl hknown
    · cases hleft

theorem step_created_ofNat (hcreated : store.created = .ofNat count) (step : Step) :
    (store.step step).1.created = .ofNat (count + if step.isCreate then 1 else 0) := by
  rw [step_created, hcreated]
  split
  · exact (UInt64.ofNat_add count 1).symm
  · rfl

theorem accounted_step (haccounted : Accounted room heard count store) (step : Step) :
    Accounted room (heard || step.named? = some room) (count + if step.isCreate then 1 else 0)
      (store.step step).1 := by
  refine ⟨step_created_ofNat haccounted.created step, fun hknown => ?_⟩
  by_cases hnamed : step.named? = some room
  · simp [hnamed]
  by_cases hcreated : store.created? step = some room
  · cases step with
    | receive packet => cases hcreated
    | ask user request =>
        cases request <;> cases hcreated
        refine .inr ⟨user, count, Nat.lt_succ_self count, ?_⟩
        rw [nextName, haccounted.created]
  have hbefore : store.rooms.find? room ≠ none ∨ room ∈ store.left := by
    by_cases hroom : step.room? = some room
    · cases step with
      | receive packet => exact absurd hroom hnamed
      | ask user request =>
          rw [step_about store user hroom] at hknown
          dsimp only at hknown
          split at hknown
          · rename_i hdeparture
            exact .inl (Option.ne_none_iff_isSome.mpr hdeparture.2)
          · exact hknown
    · have hagree := agree_step store hroom hcreated
      rwa [hagree.entry, hagree.left] at hknown
  rcases haccounted.named hbefore with hheard | ⟨user, number, hnumber, hname⟩
  · simp [hheard]
  · exact .inr ⟨user, number, Nat.lt_add_right _ hnumber, hname⟩

theorem accounted_run (haccounted : Accounted room heard count store) (steps : List Step) :
    Accounted room (heard || steps.any fun step => step.named? = some room)
      (count + steps.countP Step.isCreate) (store.run steps).1 := by
  induction steps generalizing heard count store with
  | nil => simpa [run] using haccounted
  | cons step rest induction =>
      have hrest := induction (accounted_step haccounted step)
      rwa [Bool.or_assoc, Nat.add_assoc, Nat.add_comm (ite _ _ _), ← List.countP_cons] at hrest

/-- The next name is new if the server has not used it. -/
theorem fresh_of_accounted {user : String}
    (haccounted : Accounted (store.nextName user) false count store)
    (hcount : count < UInt64.size) :
    store.rooms.find? (store.nextName user) = none ∧ store.nextName user ∉ store.left := by
  have hnew : ¬ (store.rooms.find? (store.nextName user) ≠ none ∨
      store.nextName user ∈ store.left) := by
    intro htaken
    rcases haccounted.named htaken with hheard | ⟨other, number, hnumber, hname⟩
    · cases hheard
    · rw [nextName, haccounted.created] at hname
      exact ofNat_ne_of_lt hnumber (Nat.lt_add_left number hcount) (numbered_inj hname).symm
  simpa using hnew

/-- A room is not created under its name once a packet has named it. -/
def Unclaimed (room : String) : Bool → Store → List Step → Prop
  | _, _, [] => True
  | heard, store, step :: rest =>
      (store.created? step = some room → heard = false) ∧
        Unclaimed room (heard || step.named? = some room) (store.step step).1 rest

instance decidableUnclaimed (room : String) :
    (heard : Bool) → (store : Store) → (steps : List Step) →
      Decidable (Unclaimed room heard store steps)
  | _, _, [] => isTrue trivial
  | heard, store, step :: rest =>
      have := decidableUnclaimed room (heard || step.named? = some room) (store.step step).1 rest
      inferInstanceAs (Decidable ((store.created? step = some room → heard = false) ∧ _))

def Single (room : String) (store : Store) : Prop :=
  room ∈ store.left → store.rooms.find? room = none

theorem single_step (hsingle : Single room store) {step : Step}
    (hcreated : store.created? step = some room → room ∉ store.left) :
    Single room (store.step step).1 := by
  by_cases hcreate : store.created? step = some room
  · have hleft := hcreated hcreate
    cases step with
    | receive packet => cases hcreate
    | ask user request =>
        cases request with
        | create users message => exact fun hmem => absurd hmem hleft
        | _ => cases hcreate
  by_cases hroom : step.room? = some room
  · cases step with
    | receive packet =>
        cases hinvitation : packet.isInvitation with
        | true =>
            simp only [Store.step, receive_invitation hroom hinvitation]
            exact fun hmem => by simp [receiveInvite, setRoom] at hmem
        | false =>
            simp only [Store.step, store.receive_of_not_invitation hroom hinvitation]
            intro hmem
            rw [(store.receiveUpdate_frame room packet).1] at hmem
            rw [receiveUpdate, if_pos hmem]
            exact hsingle hmem
    | ask user request =>
        rw [step_about store user hroom]
        dsimp only
        split
        · exact fun _ => store.rooms.find?_erase_self room
        · exact hsingle
  · have hagree := agree_step store hroom hcreate
    rw [Single, hagree.left, hagree.entry]
    exact hsingle

theorem single_run (hsingle : Single room store) (haccounted : Accounted room heard count store)
    {steps : List Step} (hunclaimed : Unclaimed room heard store steps)
    (hcount : count + steps.countP Step.isCreate ≤ UInt64.size) :
    Single room (store.run steps).1 := by
  induction steps generalizing heard count store with
  | nil => exact hsingle
  | cons step rest induction =>
      obtain ⟨hcreated, hrest⟩ := hunclaimed
      rw [List.countP_cons] at hcount
      refine induction (single_step hsingle fun hcreate => ?_) (accounted_step haccounted step)
        hrest (by omega)
      cases step with
      | receive packet => cases hcreate
      | ask user request =>
          rw [hcreated hcreate] at haccounted
          cases request with
          | create users message =>
              cases hcreate
              refine (fresh_of_accounted haccounted ?_).2
              simp only [Step.isCreate, Request.isCreate, if_true] at hcount
              omega
          | _ => cases hcreate

end Names

/-- The user is in a room with these members, and nothing is held back for it. -/
def Inside (store : Store) (room : String) (inviter : Option String) (members : List String) :
    Prop :=
  store.rooms.find? room =
    some { invited := true, closed := false, inviter, members, pending := [] }

/-- A room with a number of its own, when so many have been created. -/
structure Live (room : String) (number count : Nat) (store : Store) : Prop where
  entry : ∃ inviter members, store.Inside room inviter members
  standing : room ∉ store.left
  numbered : ∃ user, room = numbered user (.ofNat number)
  created : store.created = .ofNat count
  earlier : number < count

section Live

variable {room : String} {number count : Nat} {store : Store} {inviter : Option String}
  {members : List String}

theorem Inside.snapshot? (h : store.Inside room inviter members) :
    store.snapshot? room = some ⟨room, true, inviter, members, 0⟩ := by
  rw [Store.snapshot?, h]
  rfl

theorem inside_setRoom (store : Store) (room : String) (inviter : Option String)
    (members : List String) :
    (store.setRoom room { invited := true, inviter, members }).Inside room inviter members :=
  find?_setRoom store room _

theorem live_create (hcreated : store.created = .ofNat count) (user : String) (users : List String)
    (message : String) (hfresh : store.nextName user ∉ store.left) :
    Live (store.nextName user) count (count + 1) (store.create user users message).2.2 := by
  obtain ⟨packet, members, hcreate⟩ := store.create_eq user users message
  rw [hcreate]
  refine ⟨⟨some user, members, inside_setRoom _ _ _ _⟩, hfresh, ⟨user, ?_⟩, ?_, Nat.lt_succ_self _⟩
  · rw [nextName, hcreated]
  · rw [UInt64.ofNat_add, ← hcreated]
    rfl

theorem Inside.receiveInvite (h : store.Inside room inviter members) (packet : Packet) :
    ∃ inviter members, (store.receiveInvite room packet).1.Inside room inviter members := by
  obtain ⟨⟨seated, hseated⟩, -⟩ :=
    Room.invite_members { invited := true, inviter, members } room packet
  refine ⟨(Room.inviterOf packet).or inviter, seated, ?_⟩
  have hstate : store.rooms.find? room = some { invited := true, inviter, members } := h
  simp only [Store.receiveInvite, hstate, Option.getD_some, hseated]
  exact inside_setRoom _ _ _ _

theorem Inside.receiveUpdate (h : store.Inside room inviter members) (packet : Packet) :
    ∃ inviter members, (store.receiveUpdate room packet).1.Inside room inviter members := by
  have hstate : store.rooms.find? room = some { invited := true, inviter, members } := h
  simp only [Store.receiveUpdate, hstate, if_true]
  split
  · exact ⟨inviter, members, h⟩
  · cases hupdate : Room.update { invited := true, inviter, members } room packet with
    | error error => exact ⟨inviter, members, h⟩
    | ok result =>
        obtain ⟨⟨changed, hchanged⟩, -⟩ := Room.update_members hupdate
        refine ⟨inviter, changed, ?_⟩
        simp only [hchanged]
        exact inside_setRoom _ _ _ _

/-- A number does not come again yet: no room is created under this name. -/
theorem Live.not_created (hlive : Live room number count store) {step : Step}
    (hcount : step.isCreate = true → count < number + UInt64.size) :
    store.created? step ≠ some room := by
  obtain ⟨user, hname⟩ := hlive.numbered
  intro hcreated
  cases step with
  | receive packet => cases hcreated
  | ask other request =>
      cases request with
      | create users message =>
          cases hcreated
          rw [nextName, hlive.created] at hname
          exact ofNat_ne_of_lt hlive.earlier (hcount rfl) (numbered_inj hname).symm
      | _ => cases hcreated

/-- A user who does not leave the room stays in it. -/
theorem Live.stays (hlive : Live room number count store) {step : Step}
    (hcount : step.isCreate = true → count < number + UInt64.size)
    (hstays : step.left? ≠ some room) :
    (∃ inviter members, (store.step step).1.Inside room inviter members) ∧
      room ∉ (store.step step).1.left := by
  obtain ⟨inviter, members, hinside⟩ := hlive.entry
  by_cases hroom : step.room? = some room
  · cases step with
    | receive packet =>
        cases hinvitation : packet.isInvitation with
        | true =>
            simp only [Store.step, receive_invitation hroom hinvitation]
            refine ⟨hinside.receiveInvite packet, ?_⟩
            simp [receiveInvite, setRoom]
        | false =>
            simp only [Store.step, store.receive_of_not_invitation hroom hinvitation]
            refine ⟨hinside.receiveUpdate packet, ?_⟩
            rw [(store.receiveUpdate_frame room packet).1]
            exact hlive.standing
    | ask user request =>
        have hdeparture : ¬ request.isDeparture = true := by
          intro hdeparture
          rw [Step.left?, if_pos hdeparture] at hstays
          exact hstays hroom
        rw [step_about store user hroom, if_neg fun h => hdeparture h.1]
        exact ⟨hlive.entry, hlive.standing⟩
  · have hagree := agree_step store hroom (hlive.not_created hcount)
    exact ⟨⟨inviter, members, hagree.entry.trans hinside⟩,
      fun hmem => hlive.standing (hagree.left.mp hmem)⟩

theorem live_step (hlive : Live room number count store) {step : Step}
    (hcount : step.isCreate = true → count < number + UInt64.size)
    (hstays : step.left? ≠ some room) :
    Live room number (count + if step.isCreate then 1 else 0) (store.step step).1 where
  entry := (hlive.stays hcount hstays).1
  standing := (hlive.stays hcount hstays).2
  numbered := hlive.numbered
  created := step_created_ofNat hlive.created step
  earlier := Nat.lt_add_right _ hlive.earlier

theorem live_run (hlive : Live room number count store) {steps : List Step}
    (hcount : count + steps.countP Step.isCreate ≤ number + UInt64.size)
    (hstays : ∀ step ∈ steps, step.left? ≠ some room) :
    Live room number (count + steps.countP Step.isCreate) (store.run steps).1 := by
  induction steps generalizing count store with
  | nil => exact hlive
  | cons step rest induction =>
      obtain ⟨hfirst, hrest⟩ := List.forall_mem_cons.mp hstays
      rw [List.countP_cons, Nat.add_comm (List.countP _ _), ← Nat.add_assoc] at hcount ⊢
      refine induction (live_step hlive (fun hcreate => ?_) hfirst) hcount hrest
      rw [hcreate, if_pos rfl] at hcount
      omega

/-- To a room that takes part, every notice is a change of its members and one event. -/
theorem Inside.receive_notice (h : store.Inside room inviter members)
    (hstanding : room ∉ store.left) {packet : Packet} (hroom : packet.value? "57" = some room)
    {changed : List String} {event : Event}
    (hnotice : Notice room packet members changed event) :
    store.receive packet =
      (store.setRoom room { invited := true, inviter, members := changed },
        .ok [⟨some packet.service, event⟩]) := by
  have hinvitation : packet.isInvitation = false := by
    cases hnotice <;> simp [Packet.isInvitation, *]
  have hstate : store.rooms.find? room = some { invited := true, inviter, members } := h
  have hupdate : Room.update { invited := true, inviter, members } room packet = _ :=
    Room.update_notice rfl hnotice
  simp [store.receive_of_not_invitation hroom hinvitation, Store.receiveUpdate, hstanding, hstate,
    hupdate]

end Live

/-- A room that the user creates is new, and takes part in everything until the user leaves it,
unless a packet has used its name before. No room that was left is known, unless it was created
under such a name. Fewer than 2 ^ 64 rooms have been created before, and fewer are created later, so
no number has come again. -/
theorem created_room_live (policy : BufferPolicy) (before : List Step) (user : String)
    (users : List String) (message : String) (hcount : before.countP Step.isCreate < UInt64.size) :
    let store := (({ policy } : Store).run before).1
    let name := (store.create user users message).1
    let opened := (store.create user users message).2.2
    (∀ room, Unclaimed room false { policy } before → room ∈ store.left → room ∉ store.roomNames) ∧
      ((∀ step ∈ before, step.named? ≠ some name) →
        name ∉ store.roomNames ∧ name ∉ store.left ∧
        ∀ later : List Step, later.countP Step.isCreate < UInt64.size →
          (∀ step ∈ later, step.left? ≠ some name) →
          let now := (opened.run later).1
          ∃ inviter members, now.snapshot? name = some ⟨name, true, inviter, members, 0⟩ ∧
            name ∉ now.left ∧
            ∀ packet : Packet, packet.value? "57" = some name →
              ∀ changed event, Notice name packet members changed event →
                ∃ next, now.receive packet = (next, .ok [⟨some packet.service, event⟩]) ∧
                  next.snapshot? name = some ⟨name, true, inviter, changed, 0⟩) := by
  intro store name opened
  refine ⟨fun room hunclaimed hleft => ?_, fun hunnamed => ?_⟩
  · have hsingle := single_run (fun hmem => by cases hmem) (accounted_start room policy) hunclaimed
      (by omega) hleft
    simp [roomNames, List.mem_mergeSort, Table.mem_keys_iff, store, hsingle]
  · have haccounted : Accounted name false (before.countP Step.isCreate) store := by
      have hunheard : (before.any fun step => step.named? = some name) = false := by
        simpa using hunnamed
      have hreached := accounted_run (accounted_start name policy) before
      rwa [hunheard, Bool.or_self, Nat.zero_add] at hreached
    obtain ⟨hunknown, hunleft⟩ : store.rooms.find? name = none ∧ name ∉ store.left :=
      fresh_of_accounted haccounted hcount
    refine ⟨?_, hunleft, fun later hlater hstays => ?_⟩
    · simp [roomNames, List.mem_mergeSort, Table.mem_keys_iff, hunknown]
    obtain ⟨⟨inviter, members, hinside⟩, hstanding, -, -, -⟩ :=
      live_run (live_create haccounted.created user users message hunleft) (by omega) hstays
    refine ⟨inviter, members, hinside.snapshot?, hstanding, ?_⟩
    intro packet hroom changed event hnotice
    exact ⟨_, hinside.receive_notice hstanding hroom hnotice, (inside_setRoom _ _ _ _).snapshot?⟩

/-- The second room of the user's own, while a room of someone else has come and gone. -/
theorem created_room_live_second :
    let invitation : Packet := .request .confInvite [("57", "den"), ("50", "bob")]
    let message : Packet := .request .confMsg [("57", "ann-1"), ("3", "bob"), ("14", "hello")]
    let joined : Packet := .request .confLogon [("57", "ann-1"), ("53", "bob")]
    let before := [.receive invitation, .ask "ann" (.create [] "first"), .ask "ann" (.leave "den")]
    let store := (({} : Store).run before).1
    let opened := (store.create "ann" ["carol"] "second").2.2
    let now := (opened.run [.receive joined]).1
    (store.create "ann" ["carol"] "second").1 = "ann-1" ∧
      (∀ step ∈ before, step.named? ≠ some "ann-1") ∧
      Unclaimed "den" false {} before ∧ "den" ∈ store.left ∧ "den" ∉ store.roomNames ∧
      "ann-1" ∉ store.roomNames ∧ "ann-1" ∉ store.left ∧
      ∃ next, now.receive message =
          (next, .ok [⟨some .confMsg, .conferenceMessage "ann-1" "bob" "hello"⟩]) ∧
        next.snapshot? "ann-1" = some ⟨"ann-1", true, some "ann", ["carol", "bob"], 0⟩ := by
  intro invitation message joined before store opened now
  have hname : ((({} : Store).run before).1.create "ann" ["carol"] "second").1 = "ann-1" := by
    decide
  have hunnamed : ∀ step ∈ before, step.named? ≠ some "ann-1" := by decide
  have hunclaimed : Unclaimed "den" false {} before := by decide
  have hleft : "den" ∈ store.left := by decide
  obtain ⟨hsingle, hfresh⟩ := created_room_live {} before "ann" ["carol"] "second" (by decide)
  rw [hname] at hfresh
  obtain ⟨hnew, hunleft, hlive⟩ := hfresh hunnamed
  obtain ⟨inviter, members, hnow, -, hnotice⟩ := hlive [.receive joined] (by decide) (by decide)
  have hseated : now.snapshot? "ann-1" = some ⟨"ann-1", true, some "ann", ["carol", "bob"], 0⟩ := by
    decide
  cases hnow.symm.trans hseated
  exact ⟨hname, hunnamed, hunclaimed, hleft, hsingle "den" hunclaimed hleft, hnew, hunleft,
    hnotice message rfl _ _ (.said rfl rfl)⟩

/-- The server may take the next name first. A room that is left under it and then created is known
and left at once, and nothing that comes in for it is heard. -/
theorem created_room_unheard :
    let invitation : Packet := .request .confInvite [("57", "ann-0"), ("50", "bob")]
    let joined : Packet := .request .confLogon [("57", "ann-0"), ("53", "dave")]
    let store := (({} : Store).run [.receive invitation, .ask "ann" (.leave "ann-0")]).1
    let opened := (store.create "ann" ["carol"] "").2.2
    let room : Snapshot := ⟨"ann-0", true, some "ann", ["carol"], 0⟩
    (store.create "ann" ["carol"] "").1 = "ann-0" ∧ "ann-0" ∈ store.left ∧
      "ann-0" ∈ opened.left ∧ opened.snapshot? "ann-0" = some room ∧
      (opened.receive joined).2.toOption = some [] ∧
      (opened.receive joined).1.snapshot? "ann-0" = some room := by
  decide

end Store

end Messenger.Conference
