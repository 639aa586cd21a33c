import DocumentLink.Proofs.Speculation

/-!
# Answers That Were Not Taken

A client sees the answers of a transport one at a time. What it does until it has taken one
of them cannot hang on that answer, or on any after it: had there been others, it would have
done the same up to there.

This is not so for work that fails. A transport without any answers left makes an exchange
fail, and with one more answer it might not have failed. So it is work that succeeds of which
this is said here. Every command of it was answered, and the answers to its commands are what
it has used up.

Two such pieces of work in sequence are another one, which is what `Act.Steady.bind` says,
and everything that an opening does before it asks for the server's number is made up of such
pieces.

## Main definitions

* `Line.answering`, `Desk.answering`: The same with other answers to come.
* `Act.Silent`: Work that has nothing to do with the transport.
* `Act.Steady`: Work that does not hang on what comes after the answers it has used.

## Theorems

* `Line.exchange_answering`: An exchange looks at one answer only.
* `Act.Silent.steady`: Work without exchanges is steady.
* `Act.Steady.bind`, `Act.Steady.mapError`: Steady work in sequence, and with other errors.
* `Blocking.steady_command`: A command is steady.
* `Blocking.steady_converse`: A conversation is, for as many rounds as it takes.
* `Blocking.steady_authorize`: An authentication is, in whichever way.
* `Blocking.greet_eq_ok`: Greeting a server uses up the reply to the handshake.
-/

namespace DocumentLink

/-- The line with other answers to come. -/
def Line.answering (line : Line) (answers : List Answer) : Line :=
  { line with connection.transport.answers := answers }

/-- An exchange looks at the next answer, and leaves those after it. -/
theorem Line.exchange_answering (line : Line) (answer : Answer) (rest others : List Answer)
    (command : Document) :
    Blocking.exchange (line.answering (answer :: others)) command =
      (answer,
        (Blocking.exchange (line.answering (answer :: rest)) command).2.answering others) := by
  simp only [Blocking.exchange, announce, number, tellStarted, answering]
  cases line.connection.listener with
  | none => rfl
  | some listener => rfl

namespace Desk

/-- The answers that are still to come. -/
def answers (desk : Desk) : List Answer :=
  desk.line.connection.transport.answers

/-- The desk with other answers to come. -/
def answering (desk : Desk) (answers : List Answer) : Desk :=
  { desk with line := desk.line.answering answers }

theorem answering_answers (desk : Desk) : desk.answering desk.answers = desk :=
  rfl

theorem answering_eq {desk : Desk} {answers : List Answer} (h : desk.answers = answers) :
    desk.answering answers = desk := by
  rw [← h, answering_answers]

end Desk

theorem Connection.amid_nil (c : Connection) : c.amid [] c.transport.answers = c := by
  rw [amid, List.append_nil]

theorem Connection.amid_amid (c : Connection) (first second : List Document)
    (between answers : List Answer) :
    (c.amid first between).amid second answers = c.amid (first ++ second) answers := by
  simp only [amid, List.append_assoc]

namespace Act

variable {α β : Type}

/-- Work that has nothing to do with the transport. -/
structure Silent (act : Act α) : Prop where
  connection : ∀ desk, (act.runAt desk).2.line.connection = desk.line.connection
  answering : ∀ desk answers, act.runAt (desk.answering answers) =
    ((act.runAt desk).1, (act.runAt desk).2.answering answers)

/-- Work that, if it succeeds, has sent one command for each answer it has used, and would
    have done the same whatever answers had come after those. -/
def Steady (act : Act α) (desk : Desk) : Prop :=
  ∀ a after, act.runAt desk = (.ok a, after) →
    ∃ (used : List Answer) (commands : List Document),
      commands.length = used.length ∧ desk.answers = used ++ after.answers ∧
      after.line.connection = desk.line.connection.amid commands after.answers ∧
      ∀ others, act.runAt (desk.answering (used ++ others)) = (.ok a, after.answering others)

/-- Work without exchanges uses no answers. -/
theorem Silent.steady {act : Act α} (h : act.Silent) (desk : Desk) : act.Steady desk := by
  intro a after hrun
  have hconnection := h.connection desk
  rw [hrun] at hconnection
  refine ⟨[], [], rfl, ?_, ?_, fun others => ?_⟩
  · rw [List.nil_append, Desk.answers, Desk.answers, hconnection]
  · rw [Desk.answers, hconnection, Connection.amid_nil]
  · rw [List.nil_append, h.answering, hrun]

/-- Work in sequence succeeds where both parts do. -/
theorem runAt_bind_eq_ok {act : Act α} {next : α → Act β} {desk after : Desk} {b : β} :
    (act >>= next).runAt desk = (.ok b, after) ↔
      ∃ a between, act.runAt desk = (.ok a, between) ∧ (next a).runAt between = (.ok b, after) := by
  rw [runAt_bind]
  rcases act.runAt desk with ⟨result, between⟩
  cases result with
  | error e => simp only [Prod.mk.injEq, reduceCtorEq, false_and, exists_false]
  | ok a =>
      simp only [Prod.mk.injEq, Except.ok.injEq]
      constructor
      · intro h
        exact ⟨a, between, ⟨rfl, rfl⟩, h⟩
      · rintro ⟨_, _, ⟨rfl, rfl⟩, h⟩
        exact h

/-- Changing the errors of work changes nothing about what it does when it succeeds. -/
theorem runAt_mapError_eq_ok {act : Act α} {f : Error → Error} {desk after : Desk} {a : α} :
    (act.mapError f).runAt desk = (.ok a, after) ↔ act.runAt desk = (.ok a, after) := by
  rw [runAt_mapError]
  rcases act.runAt desk with ⟨result, left⟩
  cases result with
  | error e =>
      exact iff_of_false (fun h => nomatch congrArg Prod.fst h) fun h => nomatch congrArg Prod.fst h
  | ok b => exact Iff.rfl

/-- Steady work in sequence is steady. What the second part has used comes after what the
    first one has. -/
theorem Steady.bind {act : Act α} {next : α → Act β} {desk : Desk} (hact : act.Steady desk)
    (hnext : ∀ a between, act.runAt desk = (.ok a, between) → (next a).Steady between) :
    (act >>= next).Steady desk := by
  intro b after hrun
  rcases runAt_bind_eq_ok.mp hrun with ⟨a, between, hfirst, hsecond⟩
  rcases hact a between hfirst with ⟨used, commands, hlength, hanswers, hbetween, hsame⟩
  rcases hnext a between hfirst b after hsecond with
    ⟨used', commands', hlength', hanswers', hafter, hsame'⟩
  refine ⟨used ++ used', commands ++ commands', ?_, ?_, ?_, fun others => ?_⟩
  · rw [List.length_append, List.length_append, hlength, hlength']
  · rw [hanswers, hanswers', List.append_assoc]
  · rw [hafter, hbetween, Connection.amid_amid]
  · rw [List.append_assoc]
    exact runAt_bind_eq_ok.mpr ⟨a, _, hsame _, hsame' others⟩

theorem Steady.mapError {act : Act α} {desk : Desk} (f : Error → Error) (h : act.Steady desk) :
    (act.mapError f).Steady desk := by
  intro a after hrun
  rcases h a after (runAt_mapError_eq_ok.mp hrun) with
    ⟨used, commands, hlength, hanswers, hafter, hsame⟩
  exact ⟨used, commands, hlength, hanswers, hafter,
    fun others => runAt_mapError_eq_ok.mpr (hsame others)⟩

theorem silent_ofResult (result : Except Error α) : (ofResult result).Silent :=
  ⟨fun _ => rfl, fun _ _ => rfl⟩

theorem steady_pure (a : α) (desk : Desk) : (pure a : Act α).Steady desk :=
  Silent.steady ⟨fun _ => rfl, fun _ _ => rfl⟩ desk

end Act

namespace Login

variable (login : Login)

theorem silent_createProver (mechanism : Mechanism) : (login.createProver mechanism).Silent := by
  refine ⟨Suspending.connection_createProver login mechanism, fun desk answers => ?_⟩
  -- How many provers have been made is not a matter of the transport.
  have hcreated : (desk.answering answers).created = desk.created := rfl
  rw [runAt_createProver, runAt_createProver, hcreated]
  cases login.provider.create desk.created mechanism login.credential <;> rfl

theorem silent_createFixedProver : login.createFixedProver.Silent := by
  rw [createFixedProver]
  cases login.credential.mechanism with
  | none => exact ⟨fun _ => rfl, fun _ _ => rfl⟩
  | some mechanism => exact login.silent_createProver mechanism

variable (running : Prover.Running)

theorem silent_firstCommand : (login.firstCommand running).Silent := by
  refine ⟨fun desk => ?_, fun desk answers => ?_⟩
  · rw [runAt_firstCommand]
    rfl
  · rw [runAt_firstCommand, runAt_firstCommand]
    rfl

theorem silent_nextCommand (reply : Sasl.Reply) : (login.nextCommand running reply).Silent := by
  refine ⟨fun desk => ?_, fun desk answers => ?_⟩
  · rw [runAt_nextCommand]
    rfl
  · rw [runAt_nextCommand, runAt_nextCommand]
    rfl

theorem silent_finish (reply : Sasl.Reply) : (login.finish running reply).Silent := by
  refine ⟨fun desk => ?_, fun desk answers => ?_⟩
  · rw [runAt_finish]
    rfl
  · rw [runAt_finish, runAt_finish]
    rfl

theorem silent_speculate : login.speculate.Silent := by
  refine ⟨Suspending.connection_speculate login, fun desk answers => ?_⟩
  cases hmay : login.maySpeculate with
  | false => rw [runAt_speculate_of_not hmay, runAt_speculate_of_not hmay]
  | true =>
      rw [runAt_speculate hmay, runAt_speculate hmay, login.silent_createFixedProver.answering]
      rcases login.createFixedProver.runAt desk with ⟨made, after⟩
      cases made with
      | error e => rfl
      | ok running =>
          simp only []
          cases running.prover.initial <;> rfl

end Login

/-- Making the handshake takes no answers, also where it speculates. -/
theorem Setup.silent_handshake (setup : Setup) : setup.handshake.Silent := by
  refine ⟨Suspending.connection_handshake setup, fun desk answers => ?_⟩
  cases hspeculative : setup.authenticator.speculative? with
  | none => rw [runAt_handshake_of_none hspeculative, runAt_handshake_of_none hspeculative]
  | some login =>
      rw [runAt_handshake_of_some hspeculative, runAt_handshake_of_some hspeculative,
        login.silent_speculate.answering]

/-- A transport that gives a reply had it to give. -/
theorem Transport.answers_of_take_eq_ok {t : Transport} {reply : Document}
    (h : t.take.1 = .ok reply) : t.answers = .ok reply :: t.take.2.answers := by
  rw [take] at h ⊢
  cases hanswers : t.answers with
  | nil => simp only [hanswers, reduceCtorEq] at h
  | cons answer rest =>
      simp only [hanswers] at h
      rw [h]

namespace Blocking

/-- A command that succeeds was answered by a reply, and uses up that answer. -/
theorem command_eq_ok {database : String} {document reply : Document} {api : Option ServerApi}
    {desk after : Desk} (h : (command database document api).runAt desk = (.ok reply, after)) :
    reply.isOk = true ∧ desk.answers = .ok reply :: after.answers ∧
      after.line.connection =
        desk.line.connection.amid [Command.prepare document database api] after.answers ∧
      ∀ others, (command database document api).runAt (desk.answering (.ok reply :: others)) =
        (.ok reply, after.answering others) := by
  rw [runAt_command] at h
  generalize hsent : Command.prepare document database api = sent at h
  injection h with hchecked hafter
  rcases Answer.checked_eq_ok.mp hchecked with ⟨hanswer, hok⟩
  rw [exchange_fst] at hanswer
  -- There was an answer to take, since the transport fails without one.
  have hanswers := Transport.answers_of_take_eq_ok hanswer
  generalize desk.line.connection.transport.take.2.answers = rest at hanswers
  have hamid : desk.line.connection = desk.line.connection.amid [] (.ok reply :: rest) := by
    rw [← hanswers, Connection.amid_nil]
  have hconnection : after.line.connection = desk.line.connection.amid [sent] rest := by
    rw [← hafter]
    exact (Line.exchange_amid hamid sent).2
  have hleft : after.answers = rest := by
    rw [Desk.answers, hconnection]
    rfl
  rw [hleft]
  refine ⟨hok, hanswers, hconnection, fun others => ?_⟩
  -- The exchange with other answers behind is the same one.
  have hsame := desk.line.exchange_answering (.ok reply) rest others sent
  rw [show desk.line.answering (.ok reply :: rest) = desk.line from
    congrArg Desk.line (Desk.answering_eq hanswers)] at hsame
  rw [runAt_command, hsent]
  show (Answer.checked (exchange (desk.line.answering (.ok reply :: others)) sent).1 desk.address,
    ({ desk with line := (exchange (desk.line.answering (.ok reply :: others)) sent).2 } : Desk))
    = _
  rw [hsame, Answer.checked_eq_ok.mpr ⟨rfl, hok⟩, ← hafter]
  rfl

theorem steady_command (database : String) (document : Document) (api : Option ServerApi)
    (desk : Desk) : (command database document api).Steady desk := by
  intro reply after hrun
  rcases command_eq_ok hrun with ⟨_, hanswers, hafter, hsame⟩
  exact ⟨[.ok reply], [Command.prepare document database api], rfl, hanswers, hafter, hsame⟩

/-- A conversation is steady from any reply on. -/
theorem steady_converse (login : Login) (running : Prover.Running) (reply : Sasl.Reply)
    (desk : Desk) : Act.Steady (converse login running reply) desk := by
  -- On the answers that are left: a round that another one follows takes one of them.
  induction hleft : desk.answersLeft using Nat.strongRecOn generalizing running reply desk with
  | ind left ih =>
      cases hdone : reply.done with
      | true =>
          rw [converse_of_done hdone]
          exact (login.silent_finish running reply).steady desk
      | false =>
          rw [converse_of_not_done hdone]
          refine ((login.silent_nextCommand running reply).steady desk).bind ?_
          rintro ⟨document, next⟩ asked hasked
          have hasked := congrArg (fun done => done.2.answersLeft) hasked
          rw [answersLeft_nextCommand] at hasked
          refine (steady_command _ document _ asked).bind fun answer answered hanswered => ?_
          refine ((Act.silent_ofResult _).steady answered).bind fun reply read hread => ?_
          -- Reading the reply leaves the desk alone.
          injection hread with _ hread
          have hless := answersLeft_command_lt (congrArg Prod.fst hanswered)
          rw [hanswered, hread] at hless
          refine ih read.answersLeft ?_ next reply read rfl
          simp only at hasked hless
          omega

theorem steady_resume (login : Login) (running : Prover.Running) (document : Document)
    (desk : Desk) : (resume login running document).Steady desk := by
  refine Act.Steady.mapError login.wrap ?_
  refine ((Act.silent_ofResult _).steady desk).bind fun reply between _ => ?_
  exact steady_converse login running reply between

theorem steady_login (login : Login) (running : Prover.Running) (desk : Desk) :
    (Blocking.login login running).Steady desk := by
  refine Act.Steady.mapError login.wrap ?_
  refine ((login.silent_firstCommand running).steady desk).bind fun document asked _ => ?_
  refine (steady_command _ document _ asked).bind fun answer answered _ => ?_
  refine ((Act.silent_ofResult _).steady answered).bind fun reply between _ => ?_
  exact steady_converse login running reply between

theorem steady_certificate (credential : Credential) (api : Option ServerApi) (desk : Desk) :
    (certificate credential api).Steady desk := by
  refine Act.Steady.mapError (.authenticating credential) ?_
  exact (steady_command _ _ api desk).bind fun _ answered _ => Act.steady_pure () answered

/-- What was kept of a speculation is taken from the desk, and not from the transport. -/
theorem steady_speculated (login : Login) (desk : Desk) : (speculated login).Steady desk := by
  -- What is gone on with does not depend on the answers that are left.
  obtain ⟨rest, hspeculated, hrest⟩ : ∃ rest : Act Unit,
      (∀ answers, (speculated login).runAt (desk.answering answers) = rest.runAt
        ({ desk with speculation := desk.speculation.takeResumable.2 }.answering answers)) ∧
      rest.Steady { desk with speculation := desk.speculation.takeResumable.2 } := by
    cases hresumable : desk.speculation.takeResumable.1 with
    | some both =>
        refine ⟨resume login both.1 both.2, fun answers => ?_, steady_resume login both.1 both.2 _⟩
        rw [runAt_speculated, show (desk.answering answers).speculation.takeResumable.1 =
          some both from hresumable]
        rfl
    | none =>
        refine ⟨login.createFixedProver >>= Blocking.login login, fun answers => ?_,
          (login.silent_createFixedProver.steady _).bind fun running made _ =>
            steady_login login running made⟩
        rw [runAt_speculated, show (desk.answering answers).speculation.takeResumable.1 =
          none from hresumable]
        rfl
  intro done after hrun
  rcases hrest done after ((hspeculated desk.answers).symm.trans hrun) with
    ⟨used, commands, hlength, hanswers, hafter, hsame⟩
  exact ⟨used, commands, hlength, hanswers, hafter,
    fun others => (hspeculated _).trans (hsame others)⟩

/-- An authentication is steady, in whichever way, and so is passing it over. -/
theorem steady_authorize (setup : Setup) (opened : Opened) (desk : Desk) :
    (authorize setup opened).Steady desk := by
  rw [authorize]
  split
  · cases setup.authenticator with
    | none => exact Act.steady_pure () desk
    | negotiating login =>
        refine ((login.silent_createProver _).steady desk).bind fun running made _ => ?_
        exact steady_login login running made
    | certificate credential api => exact steady_certificate credential api desk
    | speculative login => exact steady_speculated login desk
  · exact Act.steady_pure () desk

/-- Learning from the reply keeps the answer to a speculation, and does no more. -/
theorem runAt_learned (setup : Setup) (reply : Document) (desk : Desk) :
    Act.runAt (setup.learn reply) desk =
      (.ok (.ofReply desk.line.connection reply),
        { desk with speculation := setup.kept desk.speculation reply }) := by
  show (Except.ok ((setup.learn reply).run desk).1, ((setup.learn reply).run desk).2) = _
  rw [Setup.run_learn, Setup.kept]
  cases setup.authenticator.speculative?.isSome <;> rfl

/-- A server that was greeted has replied to the handshake, and that reply is what has been
    used up. -/
theorem greet_eq_ok {setup : Setup} {desk after : Desk} {opened : Opened}
    (h : (greet setup).runAt desk = (.ok opened, after)) :
    ∃ reply document, desk.answers = .ok reply :: after.answers ∧ reply.isOk = true ∧
      opened = .ofReply desk.line.connection reply ∧
      after.line.connection = desk.line.connection.amid [document] after.answers ∧
      ∀ others, (greet setup).runAt (desk.answering (.ok reply :: others)) =
        (.ok opened, after.answering others) := by
  rcases Act.runAt_bind_eq_ok.mp h with ⟨document, made, hmade, hrest⟩
  rcases Act.runAt_bind_eq_ok.mp hrest with ⟨reply, answered, hanswered, hlearned⟩
  have hcommand := Act.runAt_mapError_eq_ok.mp hanswered
  rw [runAt_learned, Prod.mk.injEq, Except.ok.injEq] at hlearned
  rcases hlearned with ⟨rfl, rfl⟩
  -- Making the handshake has left the connection alone.
  have hconnection : made.line.connection = desk.line.connection := by
    rw [← setup.silent_handshake.connection desk, hmade]
  rcases command_eq_ok hcommand with ⟨hok, hanswers, hline, hsame⟩
  refine ⟨reply, setup.sends document, ?_, hok, ?_, ?_, fun others => ?_⟩
  · rw [Desk.answers, ← hconnection]
    exact hanswers
  · -- What is learned does not depend on what has been sent and answered.
    rw [hline, hconnection]
    rfl
  · rw [← hconnection]
    exact hline
  · have hmade' : setup.handshake.runAt (desk.answering (.ok reply :: others)) =
        (.ok document, made.answering (.ok reply :: others)) := by
      rw [setup.silent_handshake.answering, hmade]
    refine Act.runAt_bind_eq_ok.mpr ⟨document, _, hmade', ?_⟩
    refine Act.runAt_bind_eq_ok.mpr ⟨reply, _, Act.runAt_mapError_eq_ok.mpr (hsame others), ?_⟩
    rw [runAt_learned]
    rfl

end Blocking

end DocumentLink
