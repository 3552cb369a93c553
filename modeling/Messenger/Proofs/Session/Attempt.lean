import Messenger.Proofs.Session.Trail

/-!
The history of one login attempt, from the moment it began to connect: what has to come before what
in it, and what the handling of each packet may consist of.
-/

namespace Messenger

def loginRequest (user : String) : Packet :=
  .request .auth [("1", user)]

def challengeAnswer (config : SessionConfig) (user : String) (response : Auth.Response) : Packet :=
  { Packet.request .authResp
      [("0", user), ("6", response.plain), ("96", response.crypt),
       ("135", config.clientVersion), ("2", "1"), ("1", user)] with
    status := config.initialStatus }

/-- An AUTH packet with a challenge in it. -/
def Packet.IsChallenge (packet : Packet) : Prop :=
  packet.service = .auth ∧ ∃ challenge, packet.value? "94" = some challenge ∧ challenge ≠ ""

namespace Happening

/-- Whether a login is complete by what happens, or is said to be. -/
def isWelcome : Happening → Bool
  | .entered state => state = .loggedOn
  | .reported report => report.event.isLoggedOn
  | _ => false

def isAnswer : Happening → Bool
  | .submitted _ packet => packet.service = .authResp
  | _ => false

/-- Whether the state stays and no challenge is answered. -/
def isIdle (happening : Happening) : Bool :=
  happening.state?.isNone && !happening.isAnswer

def isReceived : Happening → Bool
  | .received .. => true
  | _ => false

def isPlain (happening : Happening) : Bool :=
  !happening.isWelcome && !happening.isAnswer && !happening.isReceived

theorem isPlain_of_isNews {happening : Happening} (hnews : happening.isNews = true) :
    happening.isPlain = true := by
  cases happening with
  | reported report =>
      simp only [isNews, Event.isMilestone, Bool.not_or, Bool.and_eq_true] at hnews
      simpa [isPlain, isWelcome, isAnswer, isReceived] using hnews.1
  | _ => cases hnews

theorem isIdle_of_isNews {happening : Happening} (hnews : happening.isNews = true) :
    happening.isIdle = true := by
  cases happening with
  | reported report => rfl
  | _ => cases hnews

end Happening

/-- The state has not changed since the attempt began. -/
def Unmoved (attempt : List Happening) : Prop :=
  ∀ state, .entered state ∉ attempt

/-- An AUTH packet has come in, whatever it held. -/
def Summoned (attempt : List Happening) : Prop :=
  ∃ connection packet, .received connection packet ∈ attempt ∧ packet.service = .auth

/-- A challenge has been handled while the attempt was connecting. -/
def Challenged (attempt : List Happening) : Prop :=
  ∃ earlier connection packet later,
    attempt = earlier ++ .received connection packet :: later ∧
      packet.IsChallenge ∧ Unmoved earlier

theorem Challenged.summoned {attempt : List Happening} (h : Challenged attempt) :
    Summoned attempt := by
  obtain ⟨earlier, connection, packet, later, rfl, hchallenge, -⟩ := h
  exact ⟨connection, packet, by simp, hchallenge.1⟩

theorem Challenged.append {attempt : List Happening} (h : Challenged attempt)
    (more : List Happening) :
    Challenged (attempt ++ more) := by
  obtain ⟨earlier, connection, packet, later, rfl, hchallenge, hunmoved⟩ := h
  exact ⟨earlier, connection, packet, later ++ more, by simp, hchallenge, hunmoved⟩

theorem Unmoved.append {first second : List Happening} (hfirst : Unmoved first)
    (hsecond : Unmoved second) :
    Unmoved (first ++ second) := by
  intro state hmem
  rcases List.mem_append.mp hmem with hmem | hmem
  · exact hfirst state hmem
  · exact hsecond state hmem

theorem Unmoved.of_append {first second : List Happening} (h : Unmoved (first ++ second)) :
    Unmoved first :=
  fun state hmem => h state (List.mem_append_left second hmem)

theorem Unmoved.of_received {first rest : List Happening} {connection : Nat} {packet : Packet}
    (h : Unmoved (first ++ .received connection packet :: rest)) :
    Unmoved first ∧ Unmoved rest :=
  ⟨h.of_append, fun state hmem =>
    h state (List.mem_append_right first (List.mem_cons_of_mem _ hmem))⟩

theorem Unmoved.unique {first other rest later : List Happening} {state next : SessionState}
    (hfirst : Unmoved first) (hother : Unmoved other)
    (heq : first ++ .entered state :: rest = other ++ .entered next :: later) :
    first = other ∧ rest = later := by
  induction first generalizing other with
  | nil =>
      cases other with
      | nil =>
          simp only [List.nil_append, List.cons.injEq] at heq
          exact ⟨rfl, heq.2⟩
      | cons head tail =>
          simp only [List.nil_append, List.cons_append, List.cons.injEq] at heq
          refine absurd ?_ (hother state)
          rw [heq.1]
          exact List.mem_cons_self ..
  | cons head tail induction =>
      cases other with
      | nil =>
          simp only [List.nil_append, List.cons_append, List.cons.injEq] at heq
          refine absurd ?_ (hfirst next)
          rw [heq.1]
          exact List.mem_cons_self ..
      | cons same others =>
          simp only [List.cons_append, List.cons.injEq] at heq
          have htail : Unmoved tail := fun s hmem => hfirst s (List.mem_cons_of_mem _ hmem)
          have hothers : Unmoved others := fun s hmem => hother s (List.mem_cons_of_mem _ hmem)
          obtain ⟨hsame, hrest⟩ := induction htail hothers heq.2
          exact ⟨by rw [heq.1, hsame], hrest⟩

section

variable (config : SessionConfig) (user password : String)

/-- How a packet of an attempt has to be handled after what came before it. The challenge of a
connecting attempt is answered at once, and an AUTH packet without one ends it; any further AUTH
packet, and whatever welcomes the user before the challenge, is passed over. -/
structure DulyHandled (earlier : List Happening) (connection : Nat) (packet : Packet)
    (handling : List Happening) : Prop where
  answer : packet.IsChallenge → Unmoved earlier →
    ∃ challenge response, packet.value? "94" = some challenge ∧
      Auth.respond (.ofFlag (packet.value? "13")) user password challenge = .ok response ∧
      handling = [.entered .connected,
        .submitted connection (challengeAnswer config user response)] ∧
      .submitted connection (loginRequest user) ∈ earlier
  moving : packet.service = .auth → Unmoved earlier → ¬ Unmoved handling
  further : packet.service = .auth → Summoned earlier →
    ∀ happening ∈ handling, happening.isIdle = true
  early : packet.service = .logon ∨ packet.service = .list → ¬ Challenged earlier →
    ∀ happening ∈ handling, happening.isIdle = true

/-- What has to be true of one thing that happens in an attempt, given what came before it and what
came after it. -/
def Accounted (earlier : List Happening) (happening : Happening) (later : List Happening) : Prop :=
  match happening with
  | .received connection packet =>
      ∃ handling rest, later = handling ++ .handled :: rest ∧ .handled ∉ handling ∧
        DulyHandled config user password earlier connection packet handling
  | .submitted connection packet =>
      packet.service = .authResp →
        ∃ first challenge,
          earlier = first ++ [.received connection challenge, .entered .connected] ∧
            challenge.IsChallenge ∧ Unmoved first
  | .entered state => state = .loggedOn → Challenged earlier
  | .reported report => report.event.isLoggedOn = true → Challenged earlier
  | .handled => True

def AllAccounted (earlier : List Happening) : List Happening → Prop
  | [] => True
  | happening :: later =>
      Accounted config user password earlier happening later ∧
        AllAccounted (earlier ++ [happening]) later

end

variable {config : SessionConfig} {user password : String}

theorem DulyHandled.of_ne_auth {earlier handling : List Happening} {connection : Nat}
    {packet : Packet} (hservice : packet.service ≠ .auth)
    (hearly : packet.service = .logon ∨ packet.service = .list → ¬ Challenged earlier →
      ∀ happening ∈ handling, happening.isIdle = true) :
    DulyHandled config user password earlier connection packet handling where
  answer hchallenge := absurd hchallenge.1 hservice
  moving hauth := absurd hauth hservice
  further hauth := absurd hauth hservice
  early := hearly

theorem Accounted.append {earlier later : List Happening} {happening : Happening}
    (h : Accounted config user password earlier happening later) (more : List Happening) :
    Accounted config user password earlier happening (later ++ more) := by
  cases happening with
  | received connection packet =>
      obtain ⟨handling, rest, rfl, hhandled, hduly⟩ := h
      exact ⟨handling, rest ++ more, by simp, hhandled, hduly⟩
  | submitted connection packet => exact h
  | entered state => exact h
  | reported report => exact h
  | handled => exact h

theorem accounted_of_isPlain {happening : Happening} (hplain : happening.isPlain = true)
    (earlier later : List Happening) :
    Accounted config user password earlier happening later := by
  cases happening with
  | received connection packet => cases hplain
  | submitted connection packet =>
      intro hservice
      simp [Happening.isPlain, Happening.isAnswer, hservice] at hplain
  | entered state =>
      rintro rfl
      cases hplain
  | reported report =>
      intro hevent
      simp [Happening.isPlain, Happening.isWelcome, hevent] at hplain
  | handled => trivial

namespace AllAccounted

theorem append {earlier first second : List Happening}
    (hfirst : AllAccounted config user password earlier first)
    (hsecond : AllAccounted config user password (earlier ++ first) second) :
    AllAccounted config user password earlier (first ++ second) := by
  induction first generalizing earlier with
  | nil => simpa using hsecond
  | cons happening rest induction =>
      obtain ⟨hhead, htail⟩ := hfirst
      refine ⟨hhead.append second, induction htail ?_⟩
      simpa using hsecond

theorem of_isPlain (earlier : List Happening) {later : List Happening}
    (hplain : ∀ happening ∈ later, happening.isPlain = true) :
    AllAccounted config user password earlier later := by
  induction later generalizing earlier with
  | nil => trivial
  | cons happening rest induction =>
      refine ⟨accounted_of_isPlain (hplain happening (List.mem_cons_self ..)) earlier rest, ?_⟩
      exact induction _ fun other hmem => hplain other (List.mem_cons_of_mem _ hmem)

theorem split {earlier first rest : List Happening} {happening : Happening}
    (h : AllAccounted config user password earlier (first ++ happening :: rest)) :
    Accounted config user password (earlier ++ first) happening rest := by
  induction first generalizing earlier with
  | nil => simpa using h.1
  | cons head tail induction => simpa using induction h.2

/-- An AUTH packet that was handled has moved the attempt on. -/
theorem not_unmoved {attempt : List Happening}
    (h : AllAccounted config user password [] attempt) (hsummoned : Summoned attempt) :
    ¬ Unmoved attempt := by
  obtain ⟨connection, packet, hmem, hservice⟩ := hsummoned
  obtain ⟨first, rest, rfl⟩ := List.append_of_mem hmem
  obtain ⟨handling, later, rfl, -, hduly⟩ := h.split
  intro hstill
  obtain ⟨hfirst, hrest⟩ := hstill.of_received
  exact hduly.moving hservice hfirst hrest.of_append

/-- A challenge is answered right after the first change of state, so there is no second answer. -/
theorem no_second_answer {first rest : List Happening} {happening : Happening}
    (h : AllAccounted config user password [] (first ++ happening :: rest))
    (hanswer : happening.isAnswer = true) :
    ∀ other ∈ rest, other.isAnswer = false := by
  have hplace : ∀ (earlier later : List Happening) (answer : Happening),
      first ++ happening :: rest = earlier ++ answer :: later → answer.isAnswer = true →
        ∃ front, Unmoved front ∧ earlier = front ++ [.entered .connected] := by
    intro earlier later answer heq hsubmitted
    rw [heq] at h
    have haccounted := h.split
    cases answer with
    | submitted connection packet =>
        have hservice : packet.service = .authResp := of_decide_eq_true hsubmitted
        obtain ⟨front, challenge, hearlier, -, hunmoved⟩ := haccounted hservice
        refine ⟨front ++ [.received connection challenge], hunmoved.append ?_, ?_⟩
        · intro state hmem
          simp at hmem
        · simpa using hearlier
    | _ => cases hsubmitted
  intro other hother
  cases hsecond : other.isAnswer with
  | false => rfl
  | true =>
      obtain ⟨between, later, rfl⟩ := List.append_of_mem hother
      obtain ⟨front, hfront, hfirst⟩ := hplace first _ happening rfl hanswer
      obtain ⟨back, hback, hlast⟩ :=
        hplace (first ++ happening :: between) later other (by simp) hsecond
      rw [hfirst] at hlast
      have hunique := Unmoved.unique hfront hback (by simpa using hlast)
      cases hunique.2

end AllAccounted

theorem length_filter_le_one {α : Type} {test : α → Bool} {list : List α}
    (honce : ∀ first chosen rest, list = first ++ chosen :: rest → test chosen = true →
      ∀ other ∈ rest, test other = false) :
    (list.filter test).length ≤ 1 := by
  induction list with
  | nil => simp
  | cons head tail induction =>
      cases htest : test head with
      | true =>
          have hrest : tail.filter test = [] := by
            apply List.filter_eq_nil_iff.mpr
            intro other hmem
            simp [honce [] head tail rfl htest other hmem]
          simp [htest, hrest]
      | false =>
          rw [List.filter_cons_of_neg (by simp [htest])]
          apply induction
          intro first chosen rest heq hchosen
          exact honce (head :: first) chosen rest (by rw [heq, List.cons_append]) hchosen

/-- What a login attempt owes to its challenge. -/
structure Answered (config : SessionConfig) (user password : String) (attempt : List Happening) :
    Prop where
  /-- Nothing welcomes the user before a challenge has been handled. -/
  welcome : ∀ first happening rest, attempt = first ++ happening :: rest →
    happening.isWelcome = true → Challenged first
  handling : ∀ first connection packet rest,
    attempt = first ++ .received connection packet :: rest →
    ∃ handling later, rest = handling ++ .handled :: later ∧ .handled ∉ handling ∧
      DulyHandled config user password first connection packet handling
  /-- One challenge is answered at most. -/
  once : (attempt.filter Happening.isAnswer).length ≤ 1
  unasked : ¬ Challenged attempt → attempt.filter Happening.isAnswer = []

theorem answered_of_allAccounted {attempt : List Happening}
    (h : AllAccounted config user password [] attempt) :
    Answered config user password attempt where
  welcome first happening rest heq hwelcome := by
    subst heq
    have haccounted := h.split
    cases happening with
    | entered state => exact haccounted (of_decide_eq_true hwelcome)
    | reported report => exact haccounted hwelcome
    | _ => cases hwelcome
  handling first connection packet rest heq := by
    subst heq
    exact h.split
  once := by
    apply length_filter_le_one
    rintro first happening rest rfl hanswer
    exact h.no_second_answer hanswer
  unasked hnone := by
    apply List.filter_eq_nil_iff.mpr
    intro happening hmem hanswer
    obtain ⟨first, rest, rfl⟩ := List.append_of_mem hmem
    have haccounted := h.split
    cases happening with
    | submitted connection packet =>
        obtain ⟨front, challenge, hfirst, hchallenge, hunmoved⟩ :=
          haccounted (of_decide_eq_true hanswer)
        have hchallenged : Challenged first :=
          ⟨front, connection, challenge, [.entered .connected], hfirst, hchallenge, hunmoved⟩
        exact hnone (hchallenged.append _)
    | _ => cases hanswer

end Messenger
