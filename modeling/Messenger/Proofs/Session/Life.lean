import Messenger.Proofs.Session.Trail

/-!
The life of a login attempt, as its journal tells of it: the login, what the listeners learn while
the session is logged on, and how it ends for them.
-/

namespace Messenger

/-- How far an attempt has come. -/
inductive Chapter where
  | loggingIn
  /-- The session is logged on, and its listeners have been told. -/
  | within
  /-- The attempt is over, or its session has been left. -/
  | past
  /-- The end of the session has been announced. -/
  | silent
  /-- The login is complete, but its queue of events had been killed before. -/
  | unheard
deriving DecidableEq

/-- What leaves an attempt in its chapter. -/
def Chapter.allows (chapter : Chapter) : Happening → Bool
  | .entered state =>
      match chapter with
      | .loggingIn => state = .connected
      | .within => false
      | _ => state = .unstarted ∨ state = .failed
  | .reported report => chapter ≠ .silent ∧ chapter ≠ .unheard ∧ report.event.isMilestone = false
  | _ => true

/-- Some happenings lead an attempt from one chapter to another. Where the queue of events is not
killed before the login is complete, the listeners always hear of it. The stream of a connection
that is lost has come to one of the given ends. -/
inductive Life (killed : Bool) (ends : StreamEnd → Prop) :
    Chapter → List Happening → Chapter → Prop
  | done (chapter : Chapter) : Life killed ends chapter [] chapter
  | quiet {chapter last : Chapter} {happening : Happening} {rest : List Happening}
      (hallows : chapter.allows happening = true) (hrest : Life killed ends chapter rest last) :
      Life killed ends chapter (happening :: rest) last
  | welcome {last : Chapter} {user : String} {rest : List Happening}
      (hrest : Life killed ends .within rest last) :
      Life killed ends .loggingIn
        (.entered .loggedOn :: .reported ⟨some .logon, .loggedOn user⟩ :: rest) last
  | unheard {last : Chapter} {rest : List Happening} (hkilled : killed = true)
      (hrest : Life killed ends .unheard rest last) :
      Life killed ends .loggingIn (.entered .loggedOn :: rest) last
  | leave {chapter last : Chapter} {state : SessionState} {rest : List Happening}
      (hchapter : chapter = .loggingIn ∨ chapter = .within)
      (hstate : state = .unstarted ∨ state = .failed) (hrest : Life killed ends .past rest last) :
      Life killed ends chapter (.entered state :: rest) last
  | evicted {last : Chapter} {connection : Nat} {packet : Packet} {rest : List Happening}
      (hservice : packet.service = .logoff) (hbody : packet.has "7" = false)
      (hrest : Life killed ends .silent rest last) :
      Life killed ends .within
        (.received connection packet :: .entered .unstarted ::
          .reported ⟨some .logoff, .connectionClosed "session ended by server"⟩ :: rest) last
  | lost {last : Chapter} {finish : StreamEnd} {rest : List Happening} (hend : ends finish)
      (hrest : Life killed ends .silent rest last) :
      Life killed ends .within
        (.reported ⟨none, .exception finish.error.message⟩ ::
          .reported ⟨none, .connectionClosed finish.error.message⟩ ::
            .entered .failed :: rest) last

namespace Life

variable {killed : Bool} {ends : StreamEnd → Prop} {first middle last chapter : Chapter}
  {early late noted : List Happening}

theorem append (hearly : Life killed ends first early middle)
    (hlate : Life killed ends middle late last) :
    Life killed ends first (early ++ late) last := by
  induction hearly with
  | done chapter => exact hlate
  | quiet hallows hrest induction => exact .quiet hallows (induction hlate)
  | welcome hrest induction => exact .welcome (induction hlate)
  | unheard hkilled hrest induction => exact .unheard hkilled (induction hlate)
  | leave hchapter hstate hrest induction => exact .leave hchapter hstate (induction hlate)
  | evicted hservice hbody hrest induction => exact .evicted hservice hbody (induction hlate)
  | lost hend hrest induction => exact .lost hend (induction hlate)

theorem of_allowed (hallows : ∀ happening ∈ noted, chapter.allows happening = true) :
    Life killed ends chapter noted chapter := by
  induction noted with
  | nil => exact .done chapter
  | cons happening rest induction =>
      exact .quiet (hallows happening (List.mem_cons_self ..))
        (induction fun other hother => hallows other (List.mem_cons_of_mem happening hother))

/-- An attempt that is over stays so. -/
theorem stays (h : Life killed ends first noted last)
    (hfirst : first ≠ .loggingIn ∧ first ≠ .within) :
    last = first ∧ ∀ happening ∈ noted, first.allows happening = true := by
  induction h with
  | done chapter => exact ⟨rfl, by simp⟩
  | quiet hallows hrest induction =>
      obtain ⟨hlast, hrest⟩ := induction hfirst
      exact ⟨hlast, fun happening hmem => by
        rcases List.mem_cons.mp hmem with rfl | hmem
        · exact hallows
        · exact hrest happening hmem⟩
  | welcome hrest induction => exact absurd rfl hfirst.1
  | unheard hkilled hrest induction => exact absurd rfl hfirst.1
  | leave hchapter hstate hrest induction =>
      rcases hchapter with rfl | rfl
      · exact absurd rfl hfirst.1
      · exact absurd rfl hfirst.2
  | evicted hservice hbody hrest induction => exact absurd rfl hfirst.2
  | lost hend hrest induction => exact absurd rfl hfirst.2

end Life

/-- Neither a login nor the end of a session is announced. -/
def IsQuiet (journal : List Happening) : Prop :=
  ∀ report ∈ reportsOf journal, report.event.isMilestone = false

def greeting (user : String) : List Happening :=
  [.entered .loggedOn, .reported ⟨some .logon, .loggedOn user⟩]

/-- How a session that is logged on ends for its listeners: the server's goodbye, or the loss of the
connection, which is reported before. -/
inductive Farewell (ends : StreamEnd → Prop) : List Happening → Prop
  | evicted {connection : Nat} {packet : Packet} (hservice : packet.service = .logoff)
      (hbody : packet.has "7" = false) :
      Farewell ends [.received connection packet, .entered .unstarted,
        .reported ⟨some .logoff, .connectionClosed "session ended by server"⟩]
  | lost {finish : StreamEnd} (hend : ends finish) :
      Farewell ends [.reported ⟨none, .exception finish.error.message⟩,
        .reported ⟨none, .connectionClosed finish.error.message⟩, .entered .failed]

/-- The announcements of an attempt: none; the end of its login, as it is logged on; or that and, as
it leaves this state, the end of its session, after which nothing is reported. -/
inductive Announced (ends : StreamEnd → Prop) : List Happening → Prop
  | nothing {attempt : List Happening} (hquiet : IsQuiet attempt) : Announced ends attempt
  | welcomed {login rest : List Happening} (user : String) (hlogin : IsQuiet login)
      (hrest : IsQuiet rest) : Announced ends (login ++ greeting user ++ rest)
  | parted {login meanwhile farewell rest : List Happening} (user : String)
      (hlogin : IsQuiet login) (hmeanwhile : IsQuiet meanwhile)
      (hsame : visited meanwhile = []) (hfarewell : Farewell ends farewell)
      (hrest : reportsOf rest = []) :
      Announced ends (login ++ greeting user ++ (meanwhile ++ farewell ++ rest))

theorem IsQuiet.cons {happening : Happening} {rest : List Happening}
    (hhead : ∀ report, happening.report? = some report → report.event.isMilestone = false)
    (hrest : IsQuiet rest) :
    IsQuiet (happening :: rest) := by
  intro report hmem
  obtain ⟨other, hother, hreport⟩ := List.mem_filterMap.mp hmem
  rcases List.mem_cons.mp hother with rfl | hlater
  · exact hhead report hreport
  · exact hrest report (List.mem_filterMap.mpr ⟨other, hlater, hreport⟩)

theorem IsQuiet.neither {journal : List Happening} (h : IsQuiet journal) :
    ∀ report ∈ reportsOf journal,
      report.event.isLoggedOn = false ∧ report.event.isClosed = false :=
  fun report hmem => Bool.or_eq_false_iff.mp (h report hmem)

theorem IsQuiet.not_closed {journal : List Happening} (h : IsQuiet journal) :
    ∀ report ∈ reportsOf journal, report.event.isClosed = false :=
  fun report hmem => (h.neither report hmem).2

theorem isQuiet_of_silent {journal : List Happening} (hsilent : reportsOf journal = []) :
    IsQuiet journal := by
  intro report hmem
  rw [hsilent] at hmem
  cases hmem

namespace Chapter

theorem isMilestone_of_allows {chapter : Chapter} {happening : Happening} {report : Report}
    (hallows : chapter.allows happening = true) (hreport : happening.report? = some report) :
    report.event.isMilestone = false := by
  cases happening with
  | reported other =>
      cases hreport
      exact (of_decide_eq_true hallows).2.2
  | _ => cases hreport

theorem report?_of_allows {chapter : Chapter} (hchapter : chapter = .silent ∨ chapter = .unheard)
    {happening : Happening} (hallows : chapter.allows happening = true) :
    happening.report? = none := by
  cases happening with
  | reported report =>
      obtain ⟨hsilent, hunheard, -⟩ := of_decide_eq_true hallows
      rcases hchapter with rfl | rfl
      · exact absurd rfl hsilent
      · exact absurd rfl hunheard
  | _ => rfl

end Chapter

namespace Life

variable {killed : Bool} {ends : StreamEnd → Prop} {last : Chapter} {noted attempt : List Happening}

theorem isQuiet_stays {chapter : Chapter} (h : Life killed ends chapter noted last)
    (hchapter : chapter ≠ .loggingIn ∧ chapter ≠ .within) :
    IsQuiet noted := by
  intro report hmem
  obtain ⟨happening, hhappening, hreport⟩ := List.mem_filterMap.mp hmem
  exact Chapter.isMilestone_of_allows ((h.stays hchapter).2 happening hhappening) hreport

theorem reportsOf_unannounced {chapter : Chapter} (h : Life killed ends chapter noted last)
    (hchapter : chapter = .silent ∨ chapter = .unheard) :
    reportsOf noted = [] := by
  have hstays := h.stays (by rcases hchapter with rfl | rfl <;> decide)
  exact List.filterMap_eq_nil_iff.mpr fun happening hmem =>
    Chapter.report?_of_allows hchapter (hstays.2 happening hmem)

/-- What follows the announcement of a login. -/
theorem within (h : Life killed ends .within noted last) :
    IsQuiet noted ∨
      last = .silent ∧ ∃ meanwhile farewell rest, noted = meanwhile ++ farewell ++ rest ∧
        IsQuiet meanwhile ∧ visited meanwhile = [] ∧ Farewell ends farewell ∧
        reportsOf rest = [] := by
  generalize hfirst : Chapter.within = first at h
  induction h with
  | done chapter => exact .inl fun report hmem => nomatch hmem
  | @quiet chapter last happening rest hallows hrest induction =>
      subst hfirst
      have hhead : ∀ report, happening.report? = some report → report.event.isMilestone = false :=
        fun report => Chapter.isMilestone_of_allows hallows
      rcases induction rfl with hquiet |
        ⟨hlast, meanwhile, farewell, later, rfl, hquiet, hsame, hfarewell, hsilent⟩
      · exact .inl (hquiet.cons hhead)
      · refine .inr ⟨hlast, happening :: meanwhile, farewell, later, rfl, hquiet.cons hhead, ?_,
          hfarewell, hsilent⟩
        have hstate : happening.state? = none := by
          cases happening with
          | entered state => cases hallows
          | _ => rfl
        simp only [visited, List.filterMap_cons, hstate]
        exact hsame
  | welcome hrest induction => cases hfirst
  | unheard hkilled hrest induction => cases hfirst
  | leave hchapter hstate hrest induction =>
      exact .inl (.cons (fun report hreport => (nomatch hreport)) (hrest.isQuiet_stays (by decide)))
  | evicted hservice hbody hrest induction =>
      refine .inr ⟨(hrest.stays (by decide)).1, [], _, _, rfl, ?_, rfl, .evicted hservice hbody,
        hrest.reportsOf_unannounced (.inl rfl)⟩
      exact fun report hmem => nomatch hmem
  | lost hend hrest induction =>
      refine .inr ⟨(hrest.stays (by decide)).1, [], _, _, rfl, ?_, rfl, .lost hend,
        hrest.reportsOf_unannounced (.inl rfl)⟩
      exact fun report hmem => nomatch hmem

/-- What comes of a login. -/
theorem loggingIn (h : Life killed ends .loggingIn attempt last) :
    IsQuiet attempt ∨ ∃ login user rest, attempt = login ++ greeting user ++ rest ∧
      IsQuiet login ∧ Life killed ends .within rest last := by
  generalize hfirst : Chapter.loggingIn = first at h
  induction h with
  | done chapter => exact .inl fun report hmem => nomatch hmem
  | @quiet chapter last happening rest hallows hrest induction =>
      subst hfirst
      have hhead : ∀ report, happening.report? = some report → report.event.isMilestone = false :=
        fun report => Chapter.isMilestone_of_allows hallows
      rcases induction rfl with hquiet | ⟨login, user, later, rfl, hquiet, hwithin⟩
      · exact .inl (hquiet.cons hhead)
      · exact .inr ⟨happening :: login, user, later, rfl, hquiet.cons hhead, hwithin⟩
  | welcome hrest induction =>
      exact .inr ⟨[], _, _, rfl, fun report hmem => (nomatch hmem), hrest⟩
  | unheard hkilled hrest induction =>
      refine .inl (.cons (fun report hreport => (nomatch hreport)) ?_)
      exact isQuiet_of_silent (hrest.reportsOf_unannounced (.inr rfl))
  | leave hchapter hstate hrest induction =>
      exact .inl (.cons (fun report hreport => (nomatch hreport)) (hrest.isQuiet_stays (by decide)))
  | evicted hservice hbody hrest induction => cases hfirst
  | lost hend hrest induction => cases hfirst

theorem announced (h : Life killed ends .loggingIn attempt last) : Announced ends attempt := by
  rcases h.loggingIn with hquiet | ⟨login, user, rest, rfl, hlogin, hwithin⟩
  · exact .nothing hquiet
  · rcases hwithin.within with hrest |
      ⟨-, meanwhile, farewell, later, rfl, hmeanwhile, hsame, hfarewell, hsilent⟩
    · exact .welcomed user hlogin hrest
    · exact .parted user hlogin hmeanwhile hsame hfarewell hsilent

/-- The end of a session is announced only where its attempt falls silent. -/
theorem not_closed (h : Life killed ends .loggingIn attempt last) (hlast : last ≠ .silent) :
    ∀ report ∈ reportsOf attempt, report.event.isClosed = false := by
  rcases h.loggingIn with hattempt | ⟨login, user, rest, rfl, hlogin, hwithin⟩
  · exact hattempt.not_closed
  · rcases hwithin.within with hrest | ⟨hsilent, -⟩
    · intro report hmem
      rw [reportsOf_append, reportsOf_append, List.mem_append, List.mem_append] at hmem
      rcases hmem with (hmem | hmem) | hmem
      · exact hlogin.not_closed report hmem
      · rw [List.mem_singleton.mp hmem]
        rfl
      · exact hrest.not_closed report hmem
    · exact absurd hsilent hlast

/-- Where the queue is not killed before a login is complete, its end is announced. -/
theorem heard (h : Life false ends .loggingIn attempt last)
    (hloggedOn : .entered .loggedOn ∈ attempt) :
    ∃ user, .reported ⟨some .logon, .loggedOn user⟩ ∈ attempt := by
  generalize hfirst : Chapter.loggingIn = first at h
  induction h with
  | done chapter => cases hloggedOn
  | quiet hallows hrest induction =>
      subst hfirst
      rcases List.mem_cons.mp hloggedOn with rfl | hlater
      · cases hallows
      · obtain ⟨user, hmem⟩ := induction hlater rfl
        exact ⟨user, List.mem_cons_of_mem _ hmem⟩
  | welcome hrest induction => exact ⟨_, List.mem_cons_of_mem _ (List.mem_cons_self ..)⟩
  | unheard hkilled hrest induction => cases hkilled
  | leave hchapter hstate hrest induction =>
      rcases List.mem_cons.mp hloggedOn with hhead | hlater
      · cases hhead
        simp at hstate
      · cases (hrest.stays (by decide)).2 _ hlater
  | evicted hservice hbody hrest induction => cases hfirst
  | lost hend hrest induction => cases hfirst

end Life

namespace Announced

variable {ends : StreamEnd → Prop}

theorem countP_of_isQuiet {journal : List Happening} (hquiet : IsQuiet journal) :
    (reportsOf journal).countP (·.event.isLoggedOn) = 0 ∧
      (reportsOf journal).countP (·.event.isClosed) = 0 := by
  constructor
  · exact List.countP_eq_zero.mpr fun report hmem => by simp [(hquiet.neither report hmem).1]
  · exact List.countP_eq_zero.mpr fun report hmem => by simp [(hquiet.neither report hmem).2]

theorem countP_greeting (user : String) :
    (reportsOf (greeting user)).countP (·.event.isLoggedOn) = 1 ∧
      (reportsOf (greeting user)).countP (·.event.isClosed) = 0 :=
  ⟨rfl, rfl⟩

theorem countP_farewell {journal : List Happening} (h : Farewell ends journal) :
    (reportsOf journal).countP (·.event.isLoggedOn) = 0 ∧
      (reportsOf journal).countP (·.event.isClosed) = 1 := by
  cases h with
  | evicted hservice hbody => exact ⟨rfl, rfl⟩
  | lost hend => exact ⟨rfl, rfl⟩

/-- Neither announcement is made twice. -/
theorem once {attempt : List Happening} (h : Announced ends attempt) :
    (reportsOf attempt).countP (·.event.isLoggedOn) ≤ 1 ∧
      (reportsOf attempt).countP (·.event.isClosed) ≤ 1 := by
  cases h with
  | nothing hquiet =>
      obtain ⟨hloggedOn, hclosed⟩ := countP_of_isQuiet hquiet
      exact ⟨by omega, by omega⟩
  | @welcomed login rest user hlogin hrest =>
      obtain ⟨hlogin, hloginClosed⟩ := countP_of_isQuiet hlogin
      obtain ⟨hrest, hrestClosed⟩ := countP_of_isQuiet hrest
      obtain ⟨hgreeting, hgreetingClosed⟩ := countP_greeting user
      simp only [reportsOf_append, List.countP_append]
      exact ⟨by omega, by omega⟩
  | @parted login meanwhile farewell rest user hlogin hmeanwhile hsame hfarewell hrest =>
      obtain ⟨hlogin, hloginClosed⟩ := countP_of_isQuiet hlogin
      obtain ⟨hmeanwhile, hmeanwhileClosed⟩ := countP_of_isQuiet hmeanwhile
      obtain ⟨hgreeting, hgreetingClosed⟩ := countP_greeting user
      obtain ⟨hfarewell, hfarewellClosed⟩ := countP_farewell hfarewell
      simp only [reportsOf_append, List.countP_append, hrest, List.countP_nil]
      exact ⟨by omega, by omega⟩

end Announced

end Messenger
