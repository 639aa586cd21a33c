import DocumentLink.Proofs.Frame

/-!
# What Is Left of a Suspended Computation

A suspended client is a value that says where it waits. What it has still to do
from there can also be written down as blocking work, and that is what these
definitions do for every place where a client may wait.

The blocking work that is left does not change when the client goes on. A step
either ends with what the blocking work ends with, or reaches another place with
the same end. So a client that goes on often enough ends as if it had blocked
all the time. Often enough is once more than there are answers, because a step
that suspends again has taken one.

## Main definitions

* `Progress.outcome`: What a computation comes to if the rest is done blocking.
* `Suspending.Faithful`: A step keeps the outcome.
* `Suspending.Consuming`: A step that suspends again takes an answer.
* `Suspending.Talk.rest`, `Suspending.Authenticating.rest`,
  `Suspending.Waiting.rest`: What is left, as blocking work.

## Theorems

* `Suspending.goOnFully_eq`: Faithful and consuming steps lead to the outcome.
* `Suspending.faithful_continueTalk`, `Suspending.faithful_continueAuthentication`,
  `Suspending.faithful_continueOpening`: The steps there are keep the outcome.
* `Suspending.consuming_of_takesOne`, `Suspending.consuming_continueOpening`: They
  take an answer to suspend again.
* `Suspending.sent_prefix_outcome`: What has been sent by a wait is sent in the end.
* `Suspending.greet_outcome`, `Suspending.openConnection_outcome`: The beginning of an
  opening keeps the outcome.
-/

namespace DocumentLink

namespace Progress

variable {ω ω' α : Type}

/-- What a computation comes to if the rest is done blocking. -/
def outcome (rest : ω → Act α) (progress : Progress ω α) (desk : Desk) : Except Error α × Desk :=
  match progress with
  | suspended waiting => (rest waiting).runAt desk
  | finished result => (result, desk)

theorem outcome_mapWaiting (rest : ω' → Act α) (f : ω → ω') (progress : Progress ω α)
    (desk : Desk) :
    (progress.mapWaiting f).outcome rest desk = progress.outcome (fun w => rest (f w)) desk := by
  cases progress <;> rfl

end Progress

/-- Work to open a connection, with its end stored in the connection. -/
def Act.settled (act : Act Opened) : Act Opened := fun desk =>
  let (result, desk) := act.runAt desk
  (result, desk.settle result)

/-- Go on from the end of other work, or store that it failed. -/
def Act.settledAfter {α : Type} (next : α → Act Opened) :
    Except Error α × Desk → Except Error Opened × Desk
  | (.error e, ended) => (.error e, ended.settle (.error e))
  | (.ok a, ended) => (next a).settled.runAt ended

theorem Act.runAt_settled_bind {α : Type} (act : Act α) (next : α → Act Opened) (desk : Desk) :
    (act >>= next).settled.runAt desk = settledAfter next (act.runAt desk) := by
  show (((act >>= next).runAt desk).1,
    ((act >>= next).runAt desk).2.settle ((act >>= next).runAt desk).1) = _
  rw [Act.runAt_bind]
  cases act.runAt desk with
  | mk result ended => cases result <;> rfl

namespace Suspending

variable {ω α : Type}

/-- A step keeps what the computation comes to. -/
def Faithful (step : ω → StateM Desk (Progress ω α)) (rest : ω → Act α) : Prop :=
  ∀ waiting desk,
    ((step waiting).run desk).1.outcome rest ((step waiting).run desk).2 =
      (rest waiting).runAt desk

/-- A step that suspends again takes an answer. -/
def Consuming (step : ω → StateM Desk (Progress ω α)) : Prop :=
  ∀ waiting desk next, ((step waiting).run desk).1 = .suspended next →
    ((step waiting).run desk).2.answersLeft < desk.answersLeft

theorem goOn_finished (step : ω → StateM Desk (Progress ω α)) (n : Nat) (result : Except Error α)
    (desk : Desk) : goOn step n (.finished result) desk = (.finished result, desk) := by
  cases n <;> rfl

/-- Faithful and consuming steps lead to the outcome. -/
theorem goOn_eq {step : ω → StateM Desk (Progress ω α)} {rest : ω → Act α}
    (hfaithful : Faithful step rest) (hconsuming : Consuming step) :
    ∀ (n : Nat) (progress : Progress ω α) (desk : Desk), desk.answersLeft < n →
      goOn step n progress desk =
        (.finished (progress.outcome rest desk).1, (progress.outcome rest desk).2) := by
  intro n
  induction n with
  | zero =>
      intro progress desk h
      omega
  | succ k ih =>
      intro progress desk h
      cases progress with
      | finished result => rfl
      | suspended waiting =>
          -- One step is made, and the rest of the steps are those of the hypothesis.
          have hkept := hfaithful waiting desk
          have hgone : goOn step (k + 1) (.suspended waiting) desk =
              goOn step k ((step waiting).run desk).1 ((step waiting).run desk).2 := rfl
          rw [hgone]
          cases hnext : ((step waiting).run desk).1 with
          | finished result =>
              rw [hnext] at hkept
              rw [goOn_finished]
              simp only [Progress.outcome] at hkept ⊢
              rw [← hkept]
          | suspended next =>
              have hless := hconsuming waiting desk next hnext
              rw [hnext] at hkept
              rw [ih _ _ (by omega), hkept]
              rfl

theorem goOnFully_eq {step : ω → StateM Desk (Progress ω α)} {rest : ω → Act α}
    (hfaithful : Faithful step rest) (hconsuming : Consuming step) (progress : Progress ω α)
    (desk : Desk) :
    goOnFully step progress desk =
      (.finished (progress.outcome rest desk).1, (progress.outcome rest desk).2) :=
  goOn_eq hfaithful hconsuming _ progress desk (Nat.lt_succ_self _)

/-- What is left of a conversation that waits for a reply. -/
def Talk.rest (talk : Talk) : Act Unit :=
  Act.mapError talk.login.wrap do
    let document ← receive talk.ticket
    let reply ← Act.ofResult (Sasl.Reply.read document)
    Blocking.converse talk.login talk.running reply

/-- What is left of an authentication that waits for a reply. -/
def Authenticating.rest : Authenticating → Act Unit
  | .conversation talk => talk.rest
  | .certificate credential ticket => Act.mapError (.authenticating credential) do
    let _ ← receive ticket

/-- What is left of an opening that waits for a reply, but for storing its end. -/
def Waiting.work (setup : Setup) : Waiting → Act Opened
  | .handshake ticket => do
    let reply ← (receive ticket).mapError setup.handshakeFailure
    let opened ← setup.learn reply
    Blocking.acquaint setup opened
  | .authentication opened waiting => do
    waiting.rest
    Blocking.probe setup opened
  | .probe opened ticket => do
    let result ← (receive ticket).tried
    return opened.applyProbe result

/-- What is left of an opening that waits for a reply. -/
def Waiting.rest (setup : Setup) (waiting : Waiting) : Act Opened :=
  (waiting.work setup).settled

/-- Taking in a reply comes to what answering it comes to blocking. -/
theorem converse_outcome (login : Login) (running : Prover.Running) (reply : Sasl.Reply)
    (desk : Desk) :
    (((converse login running reply).run desk).1.mapError login.wrap).outcome Talk.rest
        ((converse login running reply).run desk).2 =
      (Act.mapError login.wrap (Blocking.converse login running reply)).runAt desk := by
  cases hdone : reply.done with
  | true =>
      rw [Blocking.converse_of_done hdone]
      simp only [converse, hdone, if_true]
      rfl
  | false =>
      -- The prover is asked the same in both, and the next reply is waited for or not.
      rw [Blocking.converse_of_not_done hdone, Act.runAt_mapError, Act.runAt_bind,
        run_converse_of_not_done hdone]
      cases (login.nextCommand running reply).runAt desk with
      | mk next asked =>
          cases next with
          | error e => rfl
          | ok step => rfl

/-- A conversation goes on faithfully. -/
theorem faithful_continueTalk : Faithful continueTalk Talk.rest := by
  intro talk desk
  rw [run_continueTalk, Talk.rest, Act.runAt_mapError, Act.runAt_bind]
  cases (receive talk.ticket).runAt desk with
  | mk answer answered =>
      cases answer with
      | error e => rfl
      | ok document =>
          simp only [Act.runAt_bind, Act.runAt_ofResult]
          cases Sasl.Reply.read document with
          | error e => rfl
          | ok reply => exact converse_outcome talk.login talk.running reply answered

/-- A conversation that is begun comes to what it comes to blocking. -/
theorem login_outcome (login : Login) (running : Prover.Running) (desk : Desk) :
    ((Suspending.login login running).run desk).1.outcome Talk.rest
        ((Suspending.login login running).run desk).2 =
      (Blocking.login login running).runAt desk := by
  rw [run_login, Blocking.login, Blocking.run, Act.runAt_mapError, Act.runAt_bind]
  cases (login.firstCommand running).runAt desk with
  | mk first asked =>
      cases first with
      | error e => rfl
      | ok document => rfl

/-- So does one that goes on from a reply which is there already, although the
    failure to read that reply is wrapped in another place. -/
theorem pickUp_outcome (login : Login) (running : Prover.Running) (document : Document)
    (desk : Desk) :
    ((pickUp login running document).run desk).1.outcome Talk.rest
        ((pickUp login running document).run desk).2 =
      (Blocking.resume login running document).runAt desk := by
  rw [Blocking.resume, Act.runAt_mapError, Act.runAt_bind, Act.runAt_ofResult]
  cases hread : Sasl.Reply.read document with
  | error e =>
      rw [run_pickUp_of_error hread]
      rfl
  | ok reply =>
      rw [run_pickUp_of_ok hread]
      exact converse_outcome login running reply desk

/-- A conversation that begins with having a prover made comes to the same. -/
theorem loginWith_outcome (login : Login) (make : Act Prover.Running) (desk : Desk) :
    ((loginWith login make).run desk).1.outcome Authenticating.rest
        ((loginWith login make).run desk).2 =
      (do let running ← make
          Blocking.login login running : Act Unit).runAt desk := by
  rw [run_loginWith, Act.runAt_bind]
  cases make.runAt desk with
  | mk prover asked =>
      cases prover with
      | error e => rfl
      | ok running =>
          exact (Progress.outcome_mapWaiting _ _ _ _).trans (login_outcome login running asked)

/-- An authentication that is begun comes to what it comes to blocking. -/
theorem authenticate_outcome (authenticator : Authenticator) (description : ConnectionDescription)
    (desk : Desk) :
    ((authenticate authenticator description).run desk).1.outcome Authenticating.rest
        ((authenticate authenticator description).run desk).2 =
      (Blocking.authenticate authenticator description).runAt desk := by
  cases authenticator with
  | none => rfl
  | certificate credential api => rfl
  | negotiating login =>
      exact loginWith_outcome login (login.createProver description.negotiated) desk
  | speculative login =>
      rw [authenticate, Blocking.authenticate, run_speculated, Blocking.runAt_speculated]
      cases desk.speculation.takeResumable.1 with
      | none => exact loginWith_outcome login login.createFixedProver _
      | some both =>
          exact (Progress.outcome_mapWaiting _ _ _ _).trans (pickUp_outcome login both.1 both.2 _)

theorem faithful_continueAuthentication :
    Faithful continueAuthentication Authenticating.rest := by
  intro waiting desk
  cases waiting with
  | conversation talk =>
      exact (Progress.outcome_mapWaiting _ _ _ _).trans (faithful_continueTalk talk desk)
  | certificate credential ticket =>
      rw [Authenticating.rest, Act.runAt_mapError, Act.runAt_bind]
      have hrun : (continueAuthentication (.certificate credential ticket)).run desk =
          (.finished ((((receive ticket).runAt desk).1.map fun _ => ()).mapError
            (.authenticating credential)), ((receive ticket).runAt desk).2) := rfl
      rw [hrun]
      cases (receive ticket).runAt desk with
      | mk answer answered => cases answer <;> rfl

/-- Where the end is near, asking for the number comes to the same. -/
theorem probe_outcome (setup : Setup) (opened : Opened) (desk : Desk) :
    ((probe setup opened).run desk).1.outcome (Waiting.rest setup)
        ((probe setup opened).run desk).2 =
      (Blocking.probe setup opened).settled.runAt desk := by
  rw [probe, Blocking.probe]
  cases opened.needsProbe <;> rfl

theorem afterAuthentication_outcome (setup : Setup) (opened : Opened)
    (progress : Progress Authenticating Unit) (desk : Desk) :
    ((afterAuthentication setup opened progress).run desk).1.outcome (Waiting.rest setup)
        ((afterAuthentication setup opened progress).run desk).2 =
      Act.settledAfter (fun _ => Blocking.probe setup opened)
        (progress.outcome Authenticating.rest desk) := by
  cases progress with
  | finished result =>
      cases result with
      | error e => rfl
      | ok done => exact probe_outcome setup opened desk
  | suspended waiting =>
      show (waiting.rest >>= fun _ => Blocking.probe setup opened).settled.runAt desk = _
      rw [Act.runAt_settled_bind]
      rfl

theorem afterHandshake_outcome (setup : Setup) (reply : Document) (desk : Desk) :
    ((afterHandshake setup reply).run desk).1.outcome (Waiting.rest setup)
        ((afterHandshake setup reply).run desk).2 =
      (do let opened ← setup.learn reply
          Blocking.acquaint setup opened : Act Opened).settled.runAt desk := by
  have hblocking : (do
      let opened ← setup.learn reply
      Blocking.acquaint setup opened : Act Opened).settled.runAt desk =
      (Blocking.acquaint setup ((setup.learn reply).run desk).1).settled.runAt
        ((setup.learn reply).run desk).2 := rfl
  have hrun : (afterHandshake setup reply).run desk =
      (if setup.authenticates ((setup.learn reply).run desk).1 then do
          afterAuthentication setup ((setup.learn reply).run desk).1
            (← authenticate setup.authenticator ((setup.learn reply).run desk).1.connection)
        else probe setup ((setup.learn reply).run desk).1 : StateM Desk _).run
        ((setup.learn reply).run desk).2 := rfl
  -- What has been learned is the same on both sides, and can be any opening from here.
  rw [hblocking, hrun]
  generalize (setup.learn reply).run desk = learned
  rw [Blocking.acquaint, Blocking.authorize, Act.runAt_settled_bind]
  cases hauthenticates : setup.authenticates learned.1 with
  | false => exact probe_outcome setup learned.1 learned.2
  | true =>
      -- An authentication that waits is followed by the same probe as one that has ended.
      simp only [if_true]
      rw [← authenticate_outcome]
      exact afterAuthentication_outcome setup learned.1 _ _

/-- An opening goes on faithfully. -/
theorem faithful_continueOpening (setup : Setup) :
    Faithful (continueOpening setup) (Waiting.rest setup) := by
  intro waiting desk
  cases waiting with
  | handshake ticket =>
      rw [run_continueOpening_handshake, Waiting.rest, Waiting.work, Act.runAt_settled_bind,
        Act.runAt_mapError]
      cases (receive ticket).runAt desk with
      | mk answer answered =>
          cases answer with
          | error e => rfl
          | ok reply => exact afterHandshake_outcome setup reply answered
  | authentication opened waiting =>
      rw [run_continueOpening_authentication, afterAuthentication_outcome,
        faithful_continueAuthentication, Waiting.rest, Waiting.work, Act.runAt_settled_bind]
  | probe opened ticket => rfl

/-- Steps that take an answer before they send take one to suspend again. -/
theorem consuming_of_takesOne {ω : Type} {step : ω → StateM Desk (Progress ω Unit)}
    (h : ∀ waiting, TakesOne (step waiting)) : Consuming step := by
  intro waiting desk next hnext
  rcases h waiting desk with ⟨answered, _, hsent, hless⟩
  rw [hsent.answersLeft_eq]
  refine hless (fun e hfailed => ?_)
  rw [hnext] at hfailed
  simp only [reduceCtorEq] at hfailed

/-- An opening that waits again has taken an answer. -/
theorem consuming_continueOpening (setup : Setup) : Consuming (continueOpening setup) := by
  intro waiting desk next hnext
  rcases reaches_continueOpening setup waiting desk with ⟨answered, _, hreach, hless⟩
  have hsent : answered.OnlySent ((continueOpening setup waiting).run desk).2 := by
    rw [hnext] at hreach
    exact hreach
  rw [hsent.answersLeft_eq]
  exact hless next hnext

/-- What has been sent by a wait is a part of what is sent in the end. -/
theorem sent_prefix_outcome (setup : Setup) (progress : Progress Waiting Opened) (desk : Desk) :
    desk.line.connection.transport.sent <+:
      (progress.outcome (Waiting.rest setup) desk).2.line.connection.transport.sent := by
  -- By induction on how many answers there are to wait for.
  induction hleft : desk.answersLeft using Nat.strongRecOn generalizing progress desk with
  | _ n ih =>
      cases progress with
      | finished result => exact List.prefix_refl _
      | suspended waiting =>
          rcases reaches_continueOpening setup waiting desk with ⟨answered, htaken, hreach, hless⟩
          -- Taking an answer sends nothing.
          have hsame : answered.line.connection.transport.sent =
              desk.line.connection.transport.sent := by
            rw [htaken, Connection.taking, Transport.take_snd]
          have hsent := hreach.sent_prefix
          rw [hsame] at hsent
          refine hsent.trans ?_
          rw [Progress.outcome, ← faithful_continueOpening setup waiting desk]
          cases hnext : ((continueOpening setup waiting).run desk).1 with
          | finished result => exact List.prefix_refl _
          | suspended next =>
              have hfewer := consuming_continueOpening setup waiting desk next hnext
              exact ih _ (by omega) _ _ rfl

/-- An opening that has been entered and gone on with comes to what is left of it. Storing
    the end belongs to the blocking work that is left, so that a step which ends the opening
    and one which waits again can be compared. -/
theorem greet_outcome (setup : Setup) (entered : Desk) :
    ((greet setup).run entered).1.outcome (Waiting.rest setup) ((greet setup).run entered).2 =
      (Blocking.establish setup).settled.runAt entered := by
  rw [run_greet, Blocking.establish, Blocking.greet]
  simp only [bind_assoc]
  rw [Act.runAt_settled_bind]
  cases setup.handshake.runAt entered with
  | mk document made =>
      cases document with
      | error e => rfl
      | ok document => rfl

/-- An opening that has been begun comes to what it comes to blocking. -/
theorem openConnection_outcome (setup : Setup) (desk : Desk) :
    (openConnection setup desk).1.outcome (Waiting.rest setup) (openConnection setup desk).2 =
      Blocking.openConnection setup desk := by
  rw [openConnection, Blocking.openConnection]
  cases desk.begin with
  | error e => rfl
  | ok entered => exact greet_outcome setup entered

end Suspending

end DocumentLink
