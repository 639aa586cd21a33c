import DocumentLink.Proofs.Counterparts

/-!
# Opening Again with the Same Initializer

An initializer remembers two things between its openings: the prover whose step it
has sent on speculation, and the server's answer to that step. They are filled and
emptied at different times, and an opening may stop between any two of them, so that
the next one finds one of them, or both, or neither.

Whatever it finds makes no difference. A handshake that speculates keeps a prover of
its own in place of the one before, and the reply to it brings an answer, or that
there is none, in place of the one before. A handshake that does not speculate has
never kept a prover, and without one no answer is gone on with. That last point is
the invariant, `Setup.Admits`; an opening keeps it however it ends.

So each opening in a sequence goes as it would with an initializer of its own. And
where a conversation goes on from a handshake, the prover is the one that made the
step of this very handshake, and the answer is that of the reply to it.

## Main definitions

* `Desk.Spared`: What work at a desk leaves of a speculation, and how it counts.
* `Visit`, `Seat.opening`: A connection that is opened, and the opening.
* `Seat.visits`, `Seat.Fit`: An initializer after openings one after the other, and the
  invariant.
* `Setup.resumed`: What the authentication of an opening goes on with.
* `Setup.Resumes`: The right things to go on with.
* `Visit.Agree`: Two openings that go the same way.

## Theorems

* `Setup.runAt_authorize_resumed`: How this decides the authentication.
* `Setup.resumes_of_resumed`: Only the right things are gone on with.
* `Seat.Fit.visit`, `Seat.Fit.visits`: The invariant is kept by every opening, and holds
  after all of them.
* `Seat.Fit.agree`: An opening goes as with an initializer of its own.
* `Seat.visits_leave_nothing`: All of it together.
-/

namespace DocumentLink

/-- Work leaves alone what is kept of a speculation, and provers are only made. -/
structure Desk.Spared (before after : Desk) : Prop where
  speculation : after.speculation = before.speculation
  created : before.created ≤ after.created

namespace Blocking

variable {α β : Type}

theorem Spared.bind {act : Act α} {next : α → Act β} {desk : Desk}
    (hact : desk.Spared (act.runAt desk).2)
    (hnext : ∀ a between, Desk.Spared between ((next a).runAt between).2) :
    desk.Spared ((act >>= next).runAt desk).2 := by
  rw [Act.runAt_bind]
  rcases hdone : act.runAt desk with ⟨result, between⟩
  rw [hdone] at hact
  cases result with
  | error e => exact hact
  | ok a =>
      have hrest := hnext a between
      exact ⟨hrest.speculation.trans hact.speculation,
        Nat.le_trans hact.created hrest.created⟩

theorem spared_createFixedProver (login : Login) (desk : Desk) :
    desk.Spared (login.createFixedProver.runAt desk).2 := by
  rw [Login.createFixedProver]
  cases login.credential.mechanism with
  | none => exact ⟨rfl, Nat.le_refl _⟩
  | some mechanism =>
      simp only []
      rw [Login.runAt_createProver]
      cases login.provider.create desk.created mechanism login.credential with
      | none => exact ⟨rfl, Nat.le_refl _⟩
      | some prover => exact ⟨rfl, Nat.le_succ _⟩

/-- A conversation makes no provers and does not look at speculations, however many
    rounds it takes. -/
theorem spared_converse (login : Login) (running : Prover.Running) (reply : Sasl.Reply)
    (desk : Desk) : desk.Spared (Act.runAt (converse login running reply) desk).2 := by
  -- On the answers that are left: a round that another one follows takes one of them.
  induction hleft : desk.answersLeft using Nat.strongRecOn generalizing running reply desk with
  | ind left ih =>
      cases hdone : reply.done with
      | true =>
          rw [converse_of_done hdone, Login.runAt_finish]
          exact ⟨rfl, Nat.le_refl _⟩
      | false =>
          rw [converse_of_not_done hdone, Act.runAt_bind, Login.runAt_nextCommand]
          cases running.prover.answer (running.challenges ++ [reply.payload]) with
          | error e => exact ⟨rfl, Nat.le_refl _⟩
          | ok data =>
              simp only [Except.map]
              rw [runAt_hear]
              cases hheard : Sasl.heard _ _ with
              | error e => exact ⟨rfl, Nat.le_refl _⟩
              | ok next =>
                  have hless := answersLeft_exchange_lt hheard
                  have hrest := ih _ (hleft ▸ hless) (running.challenged reply.payload) next _ rfl
                  exact ⟨hrest.speculation, hrest.created⟩

theorem spared_resume (login : Login) (running : Prover.Running) (document : Document)
    (desk : Desk) : desk.Spared ((resume login running document).runAt desk).2 := by
  rw [resume, Act.runAt_mapError]
  exact Spared.bind ⟨rfl, Nat.le_refl _⟩ fun reply between =>
    spared_converse login running reply between

theorem spared_login (login : Login) (running : Prover.Running) (desk : Desk) :
    desk.Spared ((Blocking.login login running).runAt desk).2 := by
  rw [Blocking.login, Act.runAt_mapError, run]
  refine Spared.bind ?_ fun document between => ?_
  · rw [Login.runAt_firstCommand]
    exact ⟨rfl, Nat.le_refl _⟩
  · refine Spared.bind ?_ fun answer between => ?_
    · rw [runAt_command]
      exact ⟨rfl, Nat.le_refl _⟩
    · exact Spared.bind ⟨rfl, Nat.le_refl _⟩ fun reply between =>
        spared_converse login running reply between

theorem spared_probe (setup : Setup) (opened : Opened) (desk : Desk) :
    desk.Spared ((probe setup opened).runAt desk).2 := by
  rw [probe]
  by_cases hneeds : opened.needsProbe = true
  · rw [if_pos hneeds, Act.runAt_bind, Act.runAt_tried, runAt_command]
    exact ⟨rfl, Nat.le_refl _⟩
  · rw [if_neg hneeds]
    exact ⟨rfl, Nat.le_refl _⟩

variable {setup : Setup} {login : Login}

/-- An authentication that may go on from a handshake empties what was kept of it, and
    goes on from there or begins anew. -/
theorem runAt_authorize (hlogin : setup.authenticator = .speculative login) {opened : Opened}
    (hdo : setup.authenticates opened = true) (desk : Desk) :
    (authorize setup opened).runAt desk =
      (match desk.speculation.takeResumable.1 with
        | some (running, response) => resume login running response
        | none => do
          let running ← login.createFixedProver
          Blocking.login login running : Act Unit).runAt { desk with speculation := {} } := by
  rw [authorize, if_pos hdo, hlogin, authenticate, runAt_speculated]
  rfl

/-- After the authentication nothing is kept of the speculation. -/
theorem spared_authorize (hlogin : setup.authenticator = .speculative login) {opened : Opened}
    (hdo : setup.authenticates opened = true) (desk : Desk) :
    Desk.Spared { desk with speculation := {} } ((authorize setup opened).runAt desk).2 := by
  rw [runAt_authorize hlogin hdo]
  cases desk.speculation.takeResumable.1 with
  | some both => exact spared_resume login both.1 both.2 _
  | none =>
      exact Spared.bind (spared_createFixedProver login _) fun running between =>
        spared_login login running between

/-- What is left of a speculation once the reply to the handshake is there: nothing if
    there was an authentication, and everything if not. -/
theorem spared_acquaint (hlogin : setup.authenticator = .speculative login) (opened : Opened)
    (desk : Desk) :
    Desk.Spared
      { desk with speculation := if setup.authenticates opened then {} else desk.speculation }
      ((acquaint setup opened).runAt desk).2 := by
  rw [acquaint, Act.runAt_bind]
  by_cases hdo : setup.authenticates opened = true
  · have hauthorized := spared_authorize hlogin hdo desk
    rw [if_pos hdo]
    rcases hdone : (authorize setup opened).runAt desk with ⟨result, between⟩
    rw [hdone] at hauthorized
    cases result with
    | error e => exact hauthorized
    | ok done =>
        have hprobed := spared_probe setup opened between
        exact ⟨hprobed.speculation.trans hauthorized.speculation,
          Nat.le_trans hauthorized.created hprobed.created⟩
  · rw [authorize, if_neg hdo, if_neg hdo]
    exact spared_probe setup opened desk

end Blocking

/-- A step that cannot be made leaves what was kept before. -/
theorem Login.speculation_of_error {login : Login} {desk : Desk} {e : Error}
    (h : (login.speculate.runAt desk).1 = .error e) :
    (login.speculate.runAt desk).2.speculation = desk.speculation := by
  cases hmay : login.maySpeculate with
  | false => rw [runAt_speculate_of_not hmay]
  | true =>
      have hspared := Blocking.spared_createFixedProver login desk
      rw [runAt_speculate hmay] at h ⊢
      rcases hmade : login.createFixedProver.runAt desk with ⟨result, made⟩
      rw [hmade] at h hspared
      cases result with
      | error e => exact hspared.speculation
      | ok running =>
          simp only [] at h ⊢
          cases hinitial : running.prover.initial with
          | error e => exact hspared.speculation
          | ok data =>
              rw [hinitial] at h
              simp only [reduceCtorEq] at h

namespace Setup

variable {setup : Setup} {login : Login} {speculation : Speculation}

/-- Making the handshake keeps the invariant: a prover is put in only where it may
    speculate. -/
theorem Prepares.admits {after : Speculation} {created made : Nat} {course : Course}
    {result : Except Error Document}
    (h : setup.Prepares speculation created course after made result)
    (hadmits : setup.Admits speculation) : setup.Admits after ∧ created ≤ made := by
  cases h with
  | plain => exact ⟨hadmits, Nat.le_refl _⟩
  | unsupported => exact ⟨hadmits, Nat.le_refl _⟩
  | silent => exact ⟨hadmits, Nat.le_succ _⟩
  | @speculated login mechanism prover data hlogin hfixed hmay hcreate hinitial =>
      refine ⟨fun _ => ⟨login, hlogin, ?_⟩, Nat.le_succ _⟩
      rw [Login.maySpeculate, hfixed]
      exact hmay

theorem Admits.kept (h : setup.Admits speculation) (reply : Document) :
    setup.Admits (setup.kept speculation reply) := by
  rw [Admits, pending_kept]
  exact h

/-- An opening keeps the invariant, however it ends, and provers are only made. -/
theorem admits_establish (hlogin : setup.authenticator = .speculative login) {desk : Desk}
    (h : setup.Admits desk.speculation) :
    setup.Admits ((Blocking.establish setup).runAt desk).2.speculation ∧
      desk.created ≤ ((Blocking.establish setup).runAt desk).2.created := by
  rcases Blocking.course_handshake setup desk with ⟨course, _, hprepared⟩
  rcases hprepared.admits h with ⟨hmade, hcreated⟩
  rw [Blocking.establish, Act.runAt_bind, Blocking.runAt_greet]
  generalize setup.handshake.runAt desk = prepared at hmade hcreated ⊢
  rcases prepared with ⟨document, made⟩
  cases document with
  | error e => exact ⟨hmade, hcreated⟩
  | ok document =>
      simp only []
      cases Answer.checked _ made.address with
      | error e => exact ⟨hmade, hcreated⟩
      | ok reply =>
          simp only []
          have hspared := Blocking.spared_acquaint hlogin
            (.ofReply (Blocking.exchange made.line (setup.sends document)).2.connection reply)
            { made with
              line := (Blocking.exchange made.line (setup.sends document)).2
              speculation := setup.kept made.speculation reply }
          refine ⟨?_, Nat.le_trans hcreated hspared.created⟩
          rw [hspared.speculation]
          split
          · exact setup.admits_empty
          · exact hmade.kept reply

/-- The same of an opening in either mode, also of one that is refused. -/
theorem admits_openConnection (hlogin : setup.authenticator = .speculative login) {desk : Desk}
    (h : setup.Admits desk.speculation) (mode : Mode) :
    setup.Admits (mode.openConnection setup desk).2.speculation ∧
      desk.created ≤ (mode.openConnection setup desk).2.created := by
  by_cases hfresh : desk.line.connection.stage = .uninitialized
  · -- How the mode does it makes no difference, nor does what is stored at the end.
    rw [mode.openConnection_of_fresh setup hfresh]
    exact admits_establish hlogin (show setup.Admits desk.entered.speculation from h)
  · rw [Mode.openConnection_eq, Blocking.openConnection, Desk.begin,
      Connection.begin_of_ne hfresh]
    exact ⟨h, Nat.le_refl _⟩

/-- What the authentication of an opening goes on with, if it does not begin anew. -/
def resumed (setup : Setup) (desk : Desk) : Option (Prover.Running × Document) :=
  match desk.begin with
  | .error _ => none
  | .ok entered =>
    match (Blocking.greet setup).runAt entered with
    | (.error _, _) => none
    | (.ok opened, greeted) =>
      if setup.authenticates opened then greeted.speculation.takeResumable.1 else none

/-- This is what decides how the authentication is done: it goes on from there, or
    begins anew with a prover that is made for it. -/
theorem runAt_authorize_resumed (hlogin : setup.authenticator = .speculative login)
    {desk greeted : Desk} {opened : Opened}
    (hfresh : desk.line.connection.stage = .uninitialized)
    (hgreeted : (Blocking.greet setup).runAt desk.entered = (.ok opened, greeted))
    (hdo : setup.authenticates opened = true) :
    (Blocking.authorize setup opened).runAt greeted =
      (match setup.resumed desk with
        | some (running, response) => Blocking.resume login running response
        | none => do
          let running ← login.createFixedProver
          Blocking.login login running : Act Unit).runAt { greeted with speculation := {} } := by
  have hresumed : setup.resumed desk = greeted.speculation.takeResumable.1 := by
    rw [resumed, Desk.begin_of_uninitialized hfresh]
    simp only [hgreeted, hdo, if_true]
  rw [Blocking.runAt_authorize hlogin hdo, hresumed]

/-- The right things to go on with in an opening that leads from one desk to another. -/
structure Resumes (setup : Setup) (login : Login) (desk after : Desk) (running : Prover.Running)
    (response : Document) : Prop where
  /-- The prover has been made in this opening and has not been asked for answers. -/
  number_eq : running.number = desk.created + 1
  number_le : running.number ≤ after.created
  challenges : running.challenges = []
  made : ∃ mechanism, login.credential.mechanism = some mechanism ∧
    login.provider.create desk.created mechanism login.credential = some running.prover
  /-- The handshake of this opening has carried its first step. -/
  carried : ∃ data rest, running.prover.initial = .ok data ∧
    after.sent = desk.sent ++ setup.carries login running.prover.mechanism data :: rest
  /-- The answer was in the reply to this handshake. -/
  answered : ∃ reply, desk.line.connection.transport.take.1 = .ok reply ∧
    Handshake.speculativeReply? reply = some response
  /-- Neither of them is there any more. -/
  emptied : after.speculation = {}

/-- What is gone on with is left by a handshake that was answered, and is taken. -/
theorem resumed_eq_some {desk : Desk} {running : Prover.Running} {response : Document}
    (h : setup.resumed desk = some (running, response)) :
    desk.line.connection.stage = .uninitialized ∧
      ∃ document made reply, setup.handshake.runAt desk.entered = (.ok document, made) ∧
        desk.line.connection.transport.take.1 = .ok reply ∧
        (setup.kept made.speculation reply).takeResumable.1 = some (running, response) ∧
        ∃ opened, setup.authenticates opened = true ∧
          (Blocking.establish setup).runAt desk.entered =
            (Blocking.acquaint setup opened).runAt
              { made with
                line := (Blocking.exchange made.line (setup.sends document)).2
                speculation := setup.kept made.speculation reply } := by
  rw [resumed] at h
  by_cases hfresh : desk.line.connection.stage = .uninitialized
  · refine ⟨hfresh, ?_⟩
    rw [Desk.begin_of_uninitialized hfresh] at h
    simp only [Blocking.runAt_greet] at h
    have hconnection := Suspending.connection_handshake setup desk.entered
    rw [Blocking.establish, Act.runAt_bind, Blocking.runAt_greet]
    generalize setup.handshake.runAt desk.entered = prepared at h hconnection ⊢
    rcases prepared with ⟨document, made⟩
    cases document with
    | error e => simp only [reduceCtorEq] at h
    | ok document =>
        simp only [] at h hconnection ⊢
        -- The answer is the first one that this opening takes.
        have hanswer : (Blocking.exchange made.line (setup.sends document)).1 =
            desk.line.connection.transport.take.1 := by
          rw [Blocking.exchange_fst, hconnection]
          rfl
        cases hchecked : Answer.checked (Blocking.exchange made.line (setup.sends document)).1
            made.address with
        | error e =>
            rw [hchecked] at h
            simp only [reduceCtorEq] at h
        | ok reply =>
            rw [hchecked] at h
            simp only [] at h ⊢
            by_cases hdo : setup.authenticates (.ofReply
                (Blocking.exchange made.line (setup.sends document)).2.connection reply) = true
            · rw [if_pos hdo] at h
              refine ⟨document, made, reply, rfl, ?_, h, _, hdo, rfl⟩
              rw [← hanswer]
              exact (Answer.checked_eq_ok.mp hchecked).1
            · rw [if_neg hdo] at h
              simp only [reduceCtorEq] at h
  · rw [Desk.begin, Connection.begin_of_ne hfresh] at h
    simp only [Except.map, reduceCtorEq] at h

/-- Whatever was left of earlier openings, only the right things are gone on with. -/
theorem resumes_of_resumed (hlogin : setup.authenticator = .speculative login) {desk : Desk}
    (hadmits : setup.Admits desk.speculation) {running : Prover.Running} {response : Document}
    (h : setup.resumed desk = some (running, response)) (mode : Mode) :
    setup.Resumes login desk (mode.openConnection setup desk).2 running response := by
  rcases resumed_eq_some h with
    ⟨hfresh, document, made, reply, hmade, hreply, hresumable, opened, hdo, hestablish⟩
  rcases Blocking.course_handshake setup desk.entered with ⟨course, _, hprepared⟩
  rw [hmade] at hprepared
  have hconnection := congrArg Connection.transport
    (Suspending.connection_handshake setup desk.entered)
  rw [hmade] at hconnection
  have hspared := Blocking.spared_acquaint hlogin opened
    { made with
      line := (Blocking.exchange made.line (setup.sends document)).2
      speculation := setup.kept made.speculation reply }
  rcases Blocking.course_acquaint setup opened
    { made with
      line := (Blocking.exchange made.line (setup.sends document)).2
      speculation := setup.kept made.speculation reply } with ⟨talk, hfollows, _⟩
  rw [if_pos hdo, ← hestablish] at hspared
  rw [← hestablish] at hfollows
  rcases Speculation.takeResumable_eq_some hresumable with ⟨hpending, hresponse⟩
  rw [pending_kept] at hpending
  rw [Setup.kept, hlogin] at hresponse
  -- The end of the opening is stored in the connection only.
  rw [mode.openConnection_of_fresh setup hfresh]
  generalize hkept : made.speculation = after at hprepared hpending
  generalize hcount : made.created = count at hprepared
  cases hprepared with
  | plain hnot =>
      -- A handshake without a step leaves no prover, so there was nothing to go on with.
      have hnone := hadmits.pending_eq_none fun own hown => hnot own (by rw [hown]; rfl)
      rw [show desk.entered.speculation.pending = none from hnone] at hpending
      simp only [reduceCtorEq] at hpending
  | @speculated own mechanism prover data hown hfixed hmay hcreate hinitial =>
      have heq : Authenticator.speculative own = .speculative login := hown.symm.trans hlogin
      injection heq with heq
      subst heq
      injection hpending with hrunning
      subst hrunning
      refine ⟨rfl, ?_, rfl, ⟨mechanism, hfixed, hcreate⟩, ⟨data, talk.commands, hinitial, ?_⟩,
        ⟨reply, hreply, hresponse⟩, hspared.speculation⟩
      · have hcreated : made.created ≤ _ := hspared.created
        rw [hcount] at hcreated
        exact hcreated
      · have hsent := hfollows.sent_eq
        rw [Line.sent_exchange, hconnection, List.append_assoc] at hsent
        rw [Desk.sent_settle]
        exact hsent

end Setup

/-- A connection that is opened, and how. -/
structure Visit where
  mode : Mode
  line : Line

/-- The commands that have been sent before. -/
def Visit.sent (visit : Visit) : List Document :=
  visit.line.connection.transport.sent

namespace Seat

/-- The desk of an initializer and a line. -/
def desk (seat : Seat) (line : Line) : Desk where
  line := line
  speculation := seat.speculation
  created := seat.created

/-- Open a connection with the initializer. -/
def opening (seat : Seat) (visit : Visit) : Option (Except Error Opened) × Desk :=
  visit.mode.openConnection seat.setup (seat.desk visit.line)

/-- The initializer after the opening. -/
def visit (seat : Seat) (visit : Visit) : Seat :=
  Session.Seat.after seat (seat.opening visit).2

/-- The initializer after openings one after the other. -/
def visits (seat : Seat) (visits : List Visit) : Seat :=
  visits.foldl Seat.visit seat

/-- What the conversations of openings one after the other have gone on with, if they
    did not begin anew. -/
def resumptions (seat : Seat) : List Visit → List (Prover.Running × Document)
  | [] => []
  | first :: rest =>
    (seat.setup.resumed (seat.desk first.line)).toList ++ (seat.visit first).resumptions rest

/-- A new initializer. Its provider may have made provers before. -/
def fresh (setup : Setup) (created : Nat) : Seat where
  setup := setup
  created := created

/-- What is left of speculations at a seat is what may be left. -/
structure Fit (setup : Setup) (seat : Seat) : Prop where
  setup_eq : seat.setup = setup
  admits : setup.Admits seat.speculation

variable {setup : Setup} {login : Login} {seat : Seat}

theorem fit_fresh (setup : Setup) (created : Nat) : Fit setup (fresh setup created) :=
  ⟨rfl, setup.admits_empty⟩

/-- The invariant is kept by every opening, and provers are only made. -/
theorem Fit.visit (hlogin : setup.authenticator = .speculative login) (h : seat.Fit setup)
    (visit : Visit) : (seat.visit visit).Fit setup ∧ seat.created ≤ (seat.visit visit).created := by
  rcases h with ⟨rfl, hadmits⟩
  rcases Setup.admits_openConnection hlogin
      (show seat.setup.Admits (seat.desk visit.line).speculation from hadmits) visit.mode with
    ⟨hafter, hcreated⟩
  exact ⟨⟨rfl, hafter⟩, hcreated⟩

/-- So it holds after any openings. -/
theorem Fit.visits (hlogin : setup.authenticator = .speculative login) (h : seat.Fit setup)
    (visits : List Visit) : (seat.visits visits).Fit setup := by
  induction visits generalizing seat with
  | nil => exact h
  | cons first rest ih => exact ih (h.visit hlogin first).1

/-- The provers that are gone on with are all different: each of them has been made in
    its own opening, and after all those of the openings before. -/
theorem Fit.resumptions (hlogin : setup.authenticator = .speculative login) (h : seat.Fit setup)
    (visits : List Visit) :
    (∀ both ∈ seat.resumptions visits, seat.created < both.1.number) ∧
      ((seat.resumptions visits).map fun both => both.1.number).Pairwise (· < ·) := by
  induction visits generalizing seat with
  | nil => exact ⟨fun both hboth => absurd hboth List.not_mem_nil, List.Pairwise.nil⟩
  | cons first rest ih =>
      rcases h.visit hlogin first with ⟨hfit, hcreated⟩
      rcases ih hfit with ⟨hlater, hpairwise⟩
      rw [Seat.resumptions]
      rcases hresumed : seat.setup.resumed (seat.desk first.line) with _ | both
      · exact ⟨fun other hother => Nat.lt_of_le_of_lt hcreated (hlater other hother), hpairwise⟩
      · rcases h with ⟨rfl, hadmits⟩
        rcases both with ⟨running, response⟩
        have hresumes := Setup.resumes_of_resumed hlogin
          (show seat.setup.Admits (seat.desk first.line).speculation from hadmits) hresumed
          first.mode
        have hnumber : running.number = seat.created + 1 := hresumes.number_eq
        have hbefore : running.number ≤ (seat.visit first).created := hresumes.number_le
        -- Later openings go on with provers that are made after this opening.
        refine ⟨?_, ?_⟩
        · intro other hother
          rcases List.mem_cons.mp hother with rfl | hother
          · show seat.created < running.number
            omega
          · have := hlater other hother
            omega
        · refine List.Pairwise.cons ?_ hpairwise
          intro number hnumber'
          rcases List.mem_map.mp hnumber' with ⟨other, hother, rfl⟩
          have := hlater other hother
          show running.number < other.1.number
          omega

end Seat

/-- Two openings go the same way: they have the same result and leave the same behind,
    but for the numbers, and they send the same commands. -/
structure Visit.Agree (visit other : Visit)
    (outcome outcome' : Option (Except Error Opened) × Desk) : Prop where
  result : ∃ result result', outcome.1 = some result ∧ outcome'.1 = some result' ∧
    result.map Opened.anonymous = result'.map Opened.anonymous
  connection : outcome.2.line.connection.Counterpart outcome'.2.line.connection
  sent : ∃ commands, outcome.2.sent = visit.sent ++ commands ∧
    outcome'.2.sent = other.sent ++ commands

/-- An opening does not depend on what the initializer remembers, nor on how many
    provers its provider has made. -/
theorem Seat.Fit.agree {setup : Setup} {login : Login}
    (hlogin : setup.authenticator = .speculative login) (huniform : login.provider.Uniform)
    {seat seat' : Seat} (h : seat.Fit setup) (h' : seat'.Fit setup) {visit other : Visit}
    (hfresh : visit.line.connection.stage = .uninitialized)
    (hbeside : visit.line.connection.Counterpart other.line.connection) :
    visit.Agree other (seat.opening visit) (seat'.opening other) := by
  rcases h with ⟨rfl, hadmits⟩
  rcases h' with ⟨hsetup', hadmits'⟩
  have hfresh' : other.line.connection.stage = .uninitialized := by
    rw [← hbeside.stage, hfresh]
  have hdesks : (Likeness.counterparts visit.sent other.sent).Desks (seat.desk visit.line)
      (seat'.desk other.line) :=
    Likeness.desks_counterparts (show (seat.desk visit.line).line.connection.Counterpart
      (seat'.desk other.line).line.connection from hbeside)
  rcases Likeness.openConnection (Setup.alike_counterparts hlogin huniform) hadmits hadmits' hdesks
      hfresh hfresh' visit.mode other.mode with
    ⟨result, result', after, after', hopened, hopened', hresult, hafter⟩
  rw [opening, opening, hsetup', hopened, hopened']
  exact ⟨⟨result, result', rfl, rfl, Likeness.map_anonymous_of_paired hresult⟩,
    hafter.line.connection, hafter.line.sent⟩

/-- Openings leave nothing behind for the next one. Open connections one after the other
    with one initializer, in whichever modes, whatever comes of them. Each opening goes
    as it would with an initializer of its own. A conversation that goes on from a
    handshake does so with the prover whose step that handshake has carried and the
    answer in the reply to it, and neither is there any more afterwards; any other one
    begins with a prover made for it, and no prover is gone on with twice. And a step
    that cannot be made leaves everything as it was. -/
theorem Seat.visits_leave_nothing (setup : Setup) {login : Login}
    (hlogin : setup.authenticator = .speculative login) (huniform : login.provider.Uniform)
    (created : Nat) (visits : List Visit) :
    (∀ (visit other : Visit) (created' : Nat),
      visit.line.connection.stage = .uninitialized →
      visit.line.connection.Counterpart other.line.connection →
      visit.Agree other (((fresh setup created).visits visits).opening visit)
        ((fresh setup created').opening other)) ∧
    (∀ (visit : Visit) (running : Prover.Running) (response : Document),
      setup.resumed (((fresh setup created).visits visits).desk visit.line) =
        some (running, response) →
      setup.Resumes login (((fresh setup created).visits visits).desk visit.line)
        (((fresh setup created).visits visits).opening visit).2 running response) ∧
    (∀ (desk greeted : Desk) (opened : Opened),
      desk.line.connection.stage = .uninitialized →
      (Blocking.greet setup).runAt desk.entered = (.ok opened, greeted) →
      setup.authenticates opened = true →
      (Blocking.authorize setup opened).runAt greeted =
        (match setup.resumed desk with
          | some (running, response) => Blocking.resume login running response
          | none => do
            let running ← login.createFixedProver
            Blocking.login login running : Act Unit).runAt { greeted with speculation := {} }) ∧
    (((fresh setup created).resumptions visits).map fun both => both.1.number).Pairwise (· < ·) ∧
    (∀ (desk : Desk) (e : Error), (login.speculate.runAt desk).1 = .error e →
      (login.speculate.runAt desk).2.speculation = desk.speculation) := by
  have hfit := (fit_fresh setup created).visits hlogin visits
  refine ⟨?_, ?_, ?_, ((fit_fresh setup created).resumptions hlogin visits).2, ?_⟩
  · intro visit other created' hfresh hbeside
    exact hfit.agree hlogin huniform (fit_fresh setup created') hfresh hbeside
  · intro visit running response hresumed
    have hresumes := Setup.resumes_of_resumed hlogin
      (show setup.Admits (((fresh setup created).visits visits).desk visit.line).speculation from
        hfit.admits) hresumed visit.mode
    rw [opening, hfit.setup_eq]
    exact hresumes
  · intro desk greeted opened hfresh hgreeted hdo
    exact Setup.runAt_authorize_resumed hlogin hfresh hgreeted hdo
  · intro desk e hfailed
    exact Login.speculation_of_error hfailed

/-- An arbiter that answers the step in the handshake is not authenticated with, so that
    both the prover and the answer are left behind. The next server gets to see nothing
    of it. -/
theorem Seat.visits_leave_nothing_after_arbiter :
    let setup := ({} : Setup).withCredential
      (Script.config { first := .ok [], answers := [] } .scramSha256) none
    let arbiter : Visit := ⟨.blocking, { Session.nowhere with
      transport.answers := [.ok ⟨[("ok", .bool true), ("setName", .string "set"),
        ("arbiterOnly", .bool true), (Handshake.speculativeKey, .object [])]⟩] }, {}⟩
    let server : Visit :=
      ⟨.blocking, { Session.nowhere with transport.answers := [.ok ⟨[("ok", .bool true)]⟩] }, {}⟩
    ((fresh setup 0).visits [arbiter]).speculation.takeResumable.1.isSome = true ∧
      server.Agree server (((fresh setup 0).visits [arbiter]).opening server)
        ((fresh setup 0).opening server) := by
  intro setup arbiter server
  have huniform := Script.uniform_provider { first := .ok [], answers := [] }
  exact ⟨rfl, (visits_leave_nothing setup rfl huniform 0 [arbiter]).1 server server 0 rfl
    (.refl server.line.connection)⟩

end DocumentLink
