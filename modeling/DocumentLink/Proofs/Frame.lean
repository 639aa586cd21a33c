import DocumentLink.Opening.Mode

/-!
# What Steps Leave Alone

Between two waits a suspended client sends commands and asks provers, and that is
all: it takes no answers, and neither the stage nor the descriptions of its
connection change. When it goes on it takes one answer first. Only the step that
ends an opening stores anything else.

## Main definitions

* `Desk.OnlySent`: The connection is as it was but for commands sent.
* `Desk.entered`: The desk once an opening has been entered.
* `Suspending.OnlySends`: A step does no more than that.
* `Desk.Reaches`: A step either pauses, or stores the end of the opening.
* `Progress.stage`: The stage that goes with a pause or an end.

## Theorems

* `Suspending.reaches_greet`: What beginning an opening does.
* `Suspending.reaches_continueOpening`: What going on with it does.
-/

namespace DocumentLink

/-- The connection after more commands have been sent. -/
def Connection.sending (c : Connection) (commands : List Document) : Connection :=
  { c with transport.sent := c.transport.sent ++ commands }

/-- The connection after an answer has been taken. -/
def Connection.taking (c : Connection) : Connection :=
  { c with transport := c.transport.take.2 }

/-- The stage of a connection whose opening has come so far. -/
def Progress.stage : Progress Suspending.Waiting Opened → Stage
  | .suspended _ => .initializing
  | .finished (.ok _) => .ready
  | .finished (.error _) => .failed

namespace Desk

/-- The connection is as it was, but for commands that have been sent. -/
def OnlySent (before after : Desk) : Prop :=
  ∃ commands, after.line.connection = before.line.connection.sending commands

theorem onlySent_of_eq {before after : Desk}
    (h : after.line.connection = before.line.connection) : before.OnlySent after := by
  refine ⟨[], ?_⟩
  rw [h, Connection.sending, List.append_nil]

theorem OnlySent.trans {before between after : Desk} (h₁ : before.OnlySent between)
    (h₂ : between.OnlySent after) : before.OnlySent after := by
  rcases h₁ with ⟨first, hfirst⟩
  rcases h₂ with ⟨second, hsecond⟩
  refine ⟨first ++ second, ?_⟩
  rw [hsecond, hfirst]
  simp only [Connection.sending, List.append_assoc]

theorem OnlySent.answersLeft_eq {before after : Desk} (h : before.OnlySent after) :
    after.answersLeft = before.answersLeft := by
  rcases h with ⟨commands, hcommands⟩
  rw [Desk.answersLeft, hcommands]
  rfl

/-- The desk once the opening of its connection has been entered. -/
def entered (desk : Desk) : Desk :=
  { desk with line.connection.stage := .initializing }

theorem begin_of_uninitialized {desk : Desk}
    (h : desk.line.connection.stage = .uninitialized) : desk.begin = .ok desk.entered := by
  rw [Desk.begin, Connection.begin, if_pos h]
  rfl

/-- Where a step of an opening leads: to another wait, or to an end that it has
    stored. -/
def Reaches (desk : Desk) (progress : Progress Suspending.Waiting Opened) (after : Desk) : Prop :=
  match progress with
  | .suspended _ => desk.OnlySent after
  | .finished result => ∃ settling, desk.OnlySent settling ∧ after = settling.settle result

theorem OnlySent.reaches {before between after : Desk}
    {progress : Progress Suspending.Waiting Opened} (h : before.OnlySent between)
    (hreach : between.Reaches progress after) : before.Reaches progress after := by
  cases progress with
  | suspended waiting => exact h.trans hreach
  | finished result =>
      rcases hreach with ⟨settling, hsent, hafter⟩
      exact ⟨settling, h.trans hsent, hafter⟩

theorem OnlySent.sent_prefix {before after : Desk} (h : before.OnlySent after) :
    before.line.connection.transport.sent <+: after.line.connection.transport.sent := by
  rcases h with ⟨commands, hcommands⟩
  rw [hcommands]
  exact List.prefix_append _ commands

theorem Reaches.sent_prefix {desk after : Desk} {progress : Progress Suspending.Waiting Opened}
    (h : desk.Reaches progress after) :
    desk.line.connection.transport.sent <+: after.line.connection.transport.sent := by
  cases progress with
  | suspended waiting => exact OnlySent.sent_prefix h
  | finished result =>
      rcases h with ⟨settling, hsent, rfl⟩
      cases result <;> exact hsent.sent_prefix

/-- A connection is in the middle of its opening until the end has been stored. -/
theorem Reaches.stage_eq {desk after : Desk} {progress : Progress Suspending.Waiting Opened}
    (h : desk.Reaches progress after) (hstage : desk.line.connection.stage = .initializing) :
    after.line.connection.stage = progress.stage := by
  cases progress with
  | suspended waiting =>
      rcases h with ⟨commands, hcommands⟩
      rw [hcommands]
      exact hstage
  | finished result =>
      rcases h with ⟨settling, _, rfl⟩
      cases result <;> rfl

end Desk

namespace Suspending

variable {α β : Type}

/-- A step does no more to the connection than send commands. -/
def OnlySends (step : StateM Desk β) : Prop :=
  ∀ desk : Desk, desk.OnlySent (step.run desk).2

theorem onlySends_pure (b : β) : OnlySends (pure b) :=
  fun _ => Desk.onlySent_of_eq rfl

theorem OnlySends.bind {step : StateM Desk α} {next : α → StateM Desk β} (hstep : OnlySends step)
    (hnext : ∀ a, OnlySends (next a)) : OnlySends (step >>= next) :=
  fun desk => (hstep desk).trans (hnext _ _)

theorem onlySends_send (database : String) (command : Document) (api : Option ServerApi) :
    OnlySends (send database command api) := by
  intro desk
  refine ⟨[Command.prepare command database api], ?_⟩
  show ((desk.line.announce (Command.prepare command database api)).2.send _).connection = _
  -- Telling the listener first does not touch the connection.
  rw [Line.send, Blocking.connection_announce]
  rfl

/-- Work that leaves the connection alone sends nothing at all. -/
theorem onlySends_attempt {act : Act β}
    (h : ∀ desk, (act.runAt desk).2.line.connection = desk.line.connection) :
    OnlySends act.attempt :=
  fun desk => Desk.onlySent_of_eq (h desk)

theorem connection_createProver (login : Login) (mechanism : Mechanism) (desk : Desk) :
    ((login.createProver mechanism).runAt desk).2.line.connection = desk.line.connection := by
  rw [Login.runAt_createProver]
  cases login.provider.create desk.created mechanism login.credential <;> rfl

theorem connection_createFixedProver (login : Login) (desk : Desk) :
    (login.createFixedProver.runAt desk).2.line.connection = desk.line.connection := by
  rw [Login.createFixedProver]
  cases login.credential.mechanism with
  | none => rfl
  | some mechanism => exact connection_createProver login mechanism desk

theorem connection_speculate (login : Login) (desk : Desk) :
    (login.speculate.runAt desk).2.line.connection = desk.line.connection := by
  cases hmay : login.maySpeculate with
  | false => rw [Login.runAt_speculate_of_not hmay]
  | true =>
      have hmade := connection_createFixedProver login desk
      rw [Login.runAt_speculate hmay]
      cases hprover : login.createFixedProver.runAt desk with
      | mk prover made =>
          rw [hprover] at hmade
          cases prover with
          | error e => exact hmade
          | ok running =>
              simp only []
              split <;> exact hmade

/-- Making the handshake leaves the connection alone, also where it speculates. -/
theorem connection_handshake (setup : Setup) (desk : Desk) :
    (setup.handshake.runAt desk).2.line.connection = desk.line.connection := by
  cases hspeculative : setup.authenticator.speculative? with
  | none => rw [Setup.runAt_handshake_of_none hspeculative]
  | some login =>
      rw [Setup.runAt_handshake_of_some hspeculative]
      exact connection_speculate login desk

theorem onlySends_handshake (setup : Setup) : OnlySends setup.handshake.attempt :=
  onlySends_attempt (connection_handshake setup)

theorem onlySends_learn (setup : Setup) (reply : Document) : OnlySends (setup.learn reply) := by
  intro desk
  refine Desk.onlySent_of_eq ?_
  rw [Setup.run_learn]
  simp only []
  split <;> rfl

theorem onlySends_converse (login : Login) (running : Prover.Running) (reply : Sasl.Reply) :
    OnlySends (converse login running reply) := by
  -- A reply that is done asks the prover only; any other one is answered.
  rw [converse]
  cases reply.done with
  | true =>
      refine OnlySends.bind (onlySends_attempt (fun desk => ?_)) (fun _ => onlySends_pure _)
      rw [Login.runAt_finish]
      rfl
  | false =>
      refine OnlySends.bind (onlySends_attempt (fun desk => ?_)) (fun next => ?_)
      · rw [Login.runAt_nextCommand]
        rfl
      · cases next with
        | error e => exact onlySends_pure _
        | ok step => exact OnlySends.bind (onlySends_send _ _ _) (fun _ => onlySends_pure _)

theorem onlySends_login (login : Login) (running : Prover.Running) :
    OnlySends (Suspending.login login running) := by
  rw [Suspending.login]
  refine OnlySends.bind (onlySends_attempt (fun desk => ?_)) (fun first => ?_)
  · rw [Login.runAt_firstCommand]
    rfl
  · cases first with
    | error e => exact onlySends_pure _
    | ok document => exact OnlySends.bind (onlySends_send _ _ _) (fun _ => onlySends_pure _)

theorem onlySends_pickUp (login : Login) (running : Prover.Running) (document : Document) :
    OnlySends (pickUp login running document) := by
  rw [pickUp]
  cases (Sasl.Reply.read document).mapError login.wrap with
  | error e => exact onlySends_pure _
  | ok reply =>
      exact OnlySends.bind (onlySends_converse login running reply) (fun _ => onlySends_pure _)

theorem onlySends_loginWith (login : Login) {make : Act Prover.Running}
    (h : OnlySends make.attempt) : OnlySends (loginWith login make) := by
  rw [loginWith]
  refine OnlySends.bind h (fun made => ?_)
  cases made with
  | error e => exact onlySends_pure _
  | ok running =>
      exact OnlySends.bind (onlySends_login login running) (fun _ => onlySends_pure _)

/-- Beginning an authentication sends at most its first command. -/
theorem onlySends_authenticate (authenticator : Authenticator)
    (description : ConnectionDescription) :
    OnlySends (authenticate authenticator description) := by
  cases authenticator with
  | none => exact onlySends_pure _
  | negotiating login =>
      exact onlySends_loginWith login
        (onlySends_attempt (connection_createProver login description.negotiated))
  | certificate credential api =>
      exact OnlySends.bind (onlySends_send _ _ _) (fun _ => onlySends_pure _)
  | speculative login =>
      -- What was kept of a speculation is taken from the desk, not from the connection.
      refine OnlySends.bind (fun desk => Desk.onlySent_of_eq rfl) (fun both => ?_)
      cases both with
      | none =>
          exact onlySends_loginWith login (onlySends_attempt (connection_createFixedProver login))
      | some both =>
          exact OnlySends.bind (onlySends_pickUp login both.1 both.2) (fun _ => onlySends_pure _)

/-- An answer is taken before anything else is done, and a reply that reports
    success leaves one answer less. -/
theorem receive_cases (ticket : Option Ticket) (desk : Desk) :
    ((receive ticket).runAt desk).2.line.connection = desk.line.connection.taking ∧
      ∀ reply, ((receive ticket).runAt desk).1 = .ok reply →
        ((receive ticket).runAt desk).2.answersLeft < desk.answersLeft := by
  -- What the listener is told is in the journal, not in the connection.
  have hconnection : ((receive ticket).runAt desk).2.line.connection =
      desk.line.connection.taking := by
    show (desk.line.take.2.report ticket desk.line.take.1).connection = _
    rw [Blocking.connection_report]
    rfl
  refine ⟨hconnection, fun reply hreply => ?_⟩
  -- A reply that was accepted is one that came, so there was an answer to take.
  have hanswer : ∃ answer, desk.line.connection.transport.take.1 = .ok answer := by
    cases htaken : desk.line.connection.transport.take.1 with
    | ok answer => exact ⟨answer, rfl⟩
    | error e =>
        have herror : ((receive ticket).runAt desk).1 =
            desk.line.connection.transport.take.1.bind fun reply =>
              reply.checked (desk.line.take.2.report ticket desk.line.take.1).connection.address :=
          rfl
        rw [herror, htaken] at hreply
        exact absurd hreply (by simp only [Except.bind, reduceCtorEq, not_false_eq_true])
  rcases hanswer with ⟨answer, htaken⟩
  rw [Desk.answersLeft, Desk.answersLeft, hconnection]
  exact Blocking.answers_take_lt htaken

/-- Going on with an authentication takes an answer, and then only sends. Unless
    it fails there was an answer to take. -/
def TakesOne {ω : Type} (step : StateM Desk (Progress ω Unit)) : Prop :=
  ∀ desk : Desk, ∃ answered : Desk,
    answered.line.connection = desk.line.connection.taking ∧
    answered.OnlySent (step.run desk).2 ∧
    ((∀ e, (step.run desk).1 ≠ .finished (.error e)) → answered.answersLeft < desk.answersLeft)

theorem takesOne_continueTalk (talk : Talk) : TakesOne (continueTalk talk) := by
  intro desk
  rcases receive_cases talk.ticket desk with ⟨htaken, hless⟩
  refine ⟨((receive talk.ticket).runAt desk).2, htaken, ?_⟩
  rw [run_continueTalk]
  cases hanswer : ((receive talk.ticket).runAt desk).1 with
  | error e => exact ⟨Desk.onlySent_of_eq rfl, fun hfine => absurd rfl (hfine _)⟩
  | ok document =>
      refine ⟨?_, fun _ => hless document hanswer⟩
      simp only []
      cases Sasl.Reply.read document with
      | error e => exact Desk.onlySent_of_eq rfl
      | ok reply =>
          exact OnlySends.bind (onlySends_converse talk.login talk.running reply)
            (fun _ => onlySends_pure _) _

theorem takesOne_continueAuthentication (waiting : Authenticating) :
    TakesOne (continueAuthentication waiting) := by
  intro desk
  cases waiting with
  | conversation talk =>
      rcases takesOne_continueTalk talk desk with ⟨answered, htaken, hsent, hless⟩
      refine ⟨answered, htaken, hsent, fun hfine => hless (fun e hfailed => ?_)⟩
      -- The failure of the conversation would be that of the authentication.
      refine hfine e ?_
      show ((continueTalk talk).run desk).1.mapWaiting Authenticating.conversation = _
      rw [hfailed]
      rfl
  | certificate credential ticket =>
      rcases receive_cases ticket desk with ⟨htaken, hless⟩
      refine ⟨((receive ticket).runAt desk).2, htaken, Desk.onlySent_of_eq rfl, fun hfine => ?_⟩
      cases hanswer : ((receive ticket).runAt desk).1 with
      | ok reply => exact hless reply hanswer
      | error e =>
          refine absurd ?_ (hfine (.authenticating credential e))
          show Progress.finished
            ((((receive ticket).runAt desk).1.map fun _ => ()).mapError _) = _
          rw [hanswer]
          rfl

theorem reaches_conclude (result : Except Error Opened) (desk : Desk) :
    desk.Reaches ((conclude result).run desk).1 ((conclude result).run desk).2 :=
  ⟨desk, Desk.onlySent_of_eq rfl, rfl⟩

theorem reaches_probe (setup : Setup) (opened : Opened) (desk : Desk) :
    desk.Reaches ((probe setup opened).run desk).1 ((probe setup opened).run desk).2 := by
  rw [probe]
  cases opened.needsProbe with
  | true => exact onlySends_send _ _ _ desk
  | false => exact reaches_conclude _ desk

theorem reaches_afterAuthentication (setup : Setup) (opened : Opened)
    (progress : Progress Authenticating Unit) (desk : Desk) :
    desk.Reaches ((afterAuthentication setup opened progress).run desk).1
      ((afterAuthentication setup opened progress).run desk).2 := by
  cases progress with
  | suspended waiting => exact Desk.onlySent_of_eq rfl
  | finished result =>
      cases result with
      | error e => exact reaches_conclude _ desk
      | ok done => exact reaches_probe setup opened desk

theorem reaches_afterHandshake (setup : Setup) (reply : Document) (desk : Desk) :
    desk.Reaches ((afterHandshake setup reply).run desk).1
      ((afterHandshake setup reply).run desk).2 := by
  -- Learning changes nothing on the connection, and then there are two ways to go on.
  refine (onlySends_learn setup reply desk).reaches ?_
  show Desk.Reaches _
    (StateT.run (if setup.authenticates _ then _ else _ : StateM Desk _) _).1
    (StateT.run (if setup.authenticates _ then _ else _ : StateM Desk _) _).2
  split
  · exact (onlySends_authenticate _ _ _).reaches (reaches_afterAuthentication setup _ _ _)
  · exact reaches_probe setup _ _

/-- Beginning an opening pauses after the handshake, or stores that there is none
    to send. -/
theorem reaches_greet (setup : Setup) (desk : Desk) :
    desk.Reaches ((greet setup).run desk).1 ((greet setup).run desk).2 := by
  have hsent : desk.OnlySent (setup.handshake.runAt desk).2 := onlySends_handshake setup desk
  rw [run_greet]
  refine hsent.reaches ?_
  cases (setup.handshake.runAt desk).1 with
  | error e => exact reaches_conclude _ _
  | ok document => exact onlySends_send _ _ _ _

/-- Going on with an opening takes an answer and leads to the next place. If that
    is another wait, there was an answer to take. -/
theorem reaches_continueOpening (setup : Setup) (waiting : Waiting) (desk : Desk) :
    ∃ answered : Desk, answered.line.connection = desk.line.connection.taking ∧
      answered.Reaches ((continueOpening setup waiting).run desk).1
        ((continueOpening setup waiting).run desk).2 ∧
      ∀ next, ((continueOpening setup waiting).run desk).1 = .suspended next →
        answered.answersLeft < desk.answersLeft := by
  cases waiting with
  | handshake ticket =>
      rcases receive_cases ticket desk with ⟨htaken, hless⟩
      refine ⟨((receive ticket).runAt desk).2, htaken, ?_⟩
      rw [run_continueOpening_handshake]
      cases hanswer : ((receive ticket).runAt desk).1 with
      | error e =>
          refine ⟨reaches_conclude _ _, ?_⟩
          intro next hnext
          cases hnext
      | ok reply => exact ⟨reaches_afterHandshake setup reply _, fun _ _ => hless reply hanswer⟩
  | authentication opened waiting =>
      rcases takesOne_continueAuthentication waiting desk with ⟨answered, htaken, hsent, hless⟩
      refine ⟨answered, htaken, ?_⟩
      rw [run_continueOpening_authentication]
      refine ⟨hsent.reaches (reaches_afterAuthentication setup opened _ _), fun next hnext => ?_⟩
      -- An authentication that failed would have ended the opening.
      refine hless (fun e hfailed => ?_)
      rw [hfailed] at hnext
      cases hnext
  | probe opened ticket =>
      rcases receive_cases ticket desk with ⟨htaken, hless⟩
      refine ⟨((receive ticket).runAt desk).2, htaken, reaches_conclude _ _, ?_⟩
      intro next hnext
      cases hnext

end Suspending

end DocumentLink
