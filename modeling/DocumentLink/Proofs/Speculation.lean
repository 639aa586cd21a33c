import DocumentLink.Proofs.Counterparts

/-!
# Speculating Changes Nothing

A login with a mechanism that allows it sends its first step inside the handshake.
If the server answers it there then the conversation goes on from that answer; if
not, the conversation is begun anew, with a new prover, and one more exchange is
spent on what has been said before.

Here a server is run twice. The first time its reply to the handshake holds the
answer to the step; the second time the reply does not, and the same answer comes
as the reply to `saslStart`. The two openings end in the same way, also where the
answer is none that a conversation can be gone on with, and where the prover fails
later. The second one has sent one command more.

What makes them meet is `Blocking.runAt_login_of_answer`: to begin a conversation
and be answered is to go on from the answer. From there on they are counterparts.

## Main definitions

* `Desk.expecting`: A desk with answers that come before all others.
* `Connection.amid`: A connection between two exchanges.

## Theorems

* `Opened.ofReply_insert_speculative`: What a handshake teaches does not depend on the
  answer to a step that it carried.
* `Sasl.erase_start`: A step outside of a handshake is one inside, without the database.
* `Blocking.runAt_login_of_answer`: Beginning a conversation is going on from the
  answer to its first command.
* `Blocking.ends_acquaint_speculated`: The two openings meet.
* `Mode.openConnection_speculated`: They end in the same way.
-/

namespace DocumentLink

open Json (Value)

namespace Document

/-- The document less the field under a key; the others keep their order. -/
def erase (d : Document) (key : String) : Document :=
  ⟨d.fields.filter fun field => field.1 ≠ key⟩

/-- A field that was put in is taken out again, with whatever it has replaced. -/
theorem erase_insert_self (d : Document) (key : String) (value : Value) :
    (d.insert key value).erase key = d.erase key := by
  rcases d with ⟨fields⟩
  simp only [insert, erase, mk.injEq]
  have hdrop : ∀ (v : Value) (rest : List (String × Value)),
      List.filter (fun field => decide (field.1 ≠ key)) ((key, v) :: rest) =
        List.filter (fun field => decide (field.1 ≠ key)) rest := by
    intro v rest
    exact List.filter_cons_of_neg (by simp only [ne_eq, not_true_eq_false, decide_false,
      Bool.false_eq_true, not_false_eq_true])
  induction fields with
  | nil => exact hdrop value []
  | cons field rest ih =>
      rcases field with ⟨k, v⟩
      by_cases hkey : k = key
      · subst hkey
        rw [insertField, if_pos rfl, hdrop, hdrop]
      · rw [insertField, if_neg hkey, List.filter_cons, List.filter_cons, ih]

theorem erase_of_get?_eq_none {d : Document} {key : String} (h : d.get? key = none) :
    d.erase key = d := by
  rcases d with ⟨fields⟩
  simp only [get?] at h
  simp only [erase, mk.injEq, List.filter_eq_self]
  intro field hfield
  have hne : (key == field.1) = false := by
    simpa only [bne_iff_ne, ne_eq, beq_eq_false_iff_ne] using
      List.lookup_eq_none_iff.mp h field hfield
  exact decide_eq_true (Ne.symm (ne_of_beq_false hne))

section Reading

variable (d : Document) {key other : String} (value : Value)

theorem flag_insert_of_ne (h : other ≠ key) : (d.insert key value).flag other = d.flag other := by
  rw [flag, flag, get?_insert_of_ne d value h]

theorem number?_insert_of_ne (h : other ≠ key) :
    (d.insert key value).number? other = d.number? other := by
  rw [number?, number?, get?_insert_of_ne d value h]

theorem string?_insert_of_ne (h : other ≠ key) :
    (d.insert key value).string? other = d.string? other := by
  rw [string?, string?, get?_insert_of_ne d value h]

theorem strings_insert_of_ne (h : other ≠ key) :
    (d.insert key value).strings other = d.strings other := by
  rw [strings, strings, get?_insert_of_ne d value h]

theorem contains_insert_of_ne (h : other ≠ key) :
    (d.insert key value).contains other = d.contains other := by
  rw [contains, contains, get?_insert_of_ne d value h]

end Reading

end Document

/-- A step outside of a handshake is the same step inside of it, but for the database
    that has to be named there. -/
theorem Sasl.erase_start (mechanism : Mechanism) (payload : Bytes) (database : String) :
    (start mechanism payload (some database)).erase "db" = start mechanism payload none := by
  have hnone : (start mechanism payload none).get? "db" = none := by
    show Document.get? (Document.insertSome _ "options" _) "db" = none
    rw [Document.get?_insertSome_of_ne _ _ (by decide), Document.get?_insert_of_ne _ _ (by decide),
      Document.get?_insert_of_ne _ _ (by decide), Document.get?_command _ _ (by decide)]
  show ((start mechanism payload none).insert "db" (.string database)).erase "db" = _
  rw [Document.erase_insert_self, Document.erase_of_get?_eq_none hnone]

theorem Sasl.database_start (mechanism : Mechanism) (payload : Bytes) (database : String) :
    (start mechanism payload (some database)).get? "db" = some (.string database) :=
  Document.get?_insertSome_self _ "db" (some (.string database))

namespace Handshake

variable (reply response : Document)

theorem speculativeReply?_insert :
    speculativeReply? (reply.insert speculativeKey (.ofDocument response)) = some response := by
  rw [speculativeReply?, Document.document?, Document.get?_insert_self]
  rfl

theorem speculativeReply?_of_not_contains {reply : Document}
    (h : reply.contains speculativeKey = false) : speculativeReply? reply = none := by
  rw [Document.contains, Option.isSome_eq_false_iff, Option.isNone_iff_eq_none] at h
  rw [speculativeReply?, Document.document?, h]
  rfl

/-- The answer to a step is no part of what else a reply says. -/
theorem isOk_insert_speculative (value : Value) :
    (reply.insert speculativeKey value).isOk = reply.isOk :=
  reply.flag_insert_of_ne value (by decide)

end Handshake

/-- What a handshake teaches does not depend on the answer to a step that it carried:
    every field is read by its key, and none of the keys is that of the answer. -/
theorem Opened.ofReply_insert_speculative (c : Connection) (reply : Document) (value : Value) :
    ofReply c (reply.insert Handshake.speculativeKey value) = ofReply c reply := by
  have htype : ServerType.ofReply (reply.insert Handshake.speculativeKey value) =
      .ofReply reply := by
    simp (disch := decide) only [ServerType.ofReply, ServerType.ofMemberReply,
      Handshake.isOk_insert_speculative, Document.flag_insert_of_ne,
      Document.string?_insert_of_ne]
  simp (disch := decide) only [ofReply, ConnectionDescription.ofReply, ServerDescription.ofReply,
    ConnectionDescription.identify, StatusProbe.serverValue?, wireVersion, documentSize, htype,
    Handshake.isOk_insert_speculative, Document.integer?, Document.int32?,
    Document.number?_insert_of_ne, Document.string?_insert_of_ne, Document.strings_insert_of_ne,
    Document.contains_insert_of_ne]

/-- The connection after commands have been sent over it, with these answers to come. -/
def Connection.amid (c : Connection) (commands : List Document) (answers : List Answer) :
    Connection :=
  { c with transport.sent := c.transport.sent ++ commands, transport.answers := answers }

/-- The desk with answers that come before all others. -/
def Desk.expecting (desk : Desk) (answers : List Answer) : Desk :=
  { desk with
    line.connection.transport.answers := answers ++ desk.line.connection.transport.answers }

/-- An exchange takes the answer that is to come next. -/
theorem Line.exchange_amid {line : Line} {c : Connection} {commands : List Document}
    {answer : Answer} {answers : List Answer}
    (h : line.connection = c.amid commands (answer :: answers)) (command : Document) :
    (Blocking.exchange line command).1 = answer ∧
      (Blocking.exchange line command).2.connection = c.amid (commands ++ [command]) answers := by
  rw [Blocking.exchange_fst, connection_exchange, h]
  refine ⟨rfl, ?_⟩
  simp only [Connection.amid, Transport.send, Transport.take, List.append_assoc]

/-- Two connections to one server, wherever they are, have the same ahead of them if they
    have the same answers to come. -/
theorem Connection.Counterpart.amid {c c' : Connection} (h : c.Counterpart c')
    (commands commands' : List Document) (answers : List Answer) :
    (c.amid commands answers).Counterpart (c'.amid commands' answers) :=
  ⟨h.address, rfl, h.exhausted, h.stage, h.description, h.serverDescription⟩

/-- Where an opening has failed, what can be seen does not depend on what was sent and
    answered. -/
theorem Connection.Counterpart.shown_settle_error {c c' : Connection} (h : c.Counterpart c')
    (commands commands' : List Document) (answers answers' : List Answer) (e : Error) :
    ((c.amid commands answers).settle (.error e)).shown =
      ((c'.amid commands' answers').settle (.error e)).shown := by
  show (Stage.failed, c.description.anonymous, c.serverDescription.map ServerDescription.timeless) =
    (Stage.failed, c'.description.anonymous, c'.serverDescription.map ServerDescription.timeless)
  rw [h.description, h.serverDescription]

/-- An opening that begins at such a desk has sent nothing, and has these answers to come. -/
theorem Desk.entered_expecting (desk : Desk) (answers : List Answer) :
    (desk.expecting answers).entered.line.connection =
      desk.entered.line.connection.amid []
        (answers ++ desk.line.connection.transport.answers) := by
  rw [Connection.amid, List.append_nil]
  rfl

namespace Blocking

/-- A handshake that is answered by a reply teaches what is in the reply. -/
theorem runAt_greet_of_reply {setup : Setup} {desk made : Desk} {document reply : Document}
    {c : Connection} {answers : List Answer}
    (hmade : setup.handshake.runAt desk = (.ok document, made))
    (hline : made.line.connection = c.amid [] (.ok reply :: answers)) (hok : reply.isOk = true) :
    ∃ line : Line, line.connection = c.amid [setup.sends document] answers ∧
      (greet setup).runAt desk = (.ok (.ofReply line.connection reply),
        { made with line := line, speculation := setup.kept made.speculation reply }) := by
  rcases Line.exchange_amid hline (setup.sends document) with ⟨hanswer, hafter⟩
  refine ⟨(exchange made.line (setup.sends document)).2, hafter, ?_⟩
  rw [runAt_greet, hmade]
  simp only [hanswer, Answer.checked_eq_ok.mpr ⟨rfl, hok⟩]

/-- To begin a conversation and be answered is to go on from the answer. -/
theorem runAt_login_of_answer {login : Login} {running : Prover.Running} {data : Bytes}
    {response : Document} {desk : Desk} (hinitial : running.prover.initial = .ok data)
    (hanswer : (exchange (desk.note login.provider.observed (.initial running.number)).line
      (login.sends (Sasl.start running.prover.mechanism data none))).1 = .ok response)
    (hok : response.isOk = true) :
    (Blocking.login login running).runAt desk =
      (resume login running response).runAt
        { desk with
          line := (exchange (desk.note login.provider.observed (.initial running.number)).line
            (login.sends (Sasl.start running.prover.mechanism data none))).2 } := by
  rw [Blocking.login, resume, Act.runAt_mapError, Act.runAt_mapError, run, Act.runAt_bind,
    Login.runAt_firstCommand, hinitial]
  simp only [Except.map]
  rw [Act.runAt_bind, runAt_command, ← Login.sends, hanswer, Answer.checked_eq_ok.mpr ⟨rfl, hok⟩]
  rfl

/-- Where there is no handshake to send the opening is over. -/
theorem runAt_establish_of_error {setup : Setup} {desk made : Desk} {e : Error}
    (h : setup.handshake.runAt desk = (.error e, made)) :
    (establish setup).runAt desk = (.error e, made) := by
  rw [establish, Act.runAt_bind, runAt_greet, h]

theorem runAt_establish_of_greeted {setup : Setup} {desk greeted : Desk} {opened : Opened}
    (h : (greet setup).runAt desk = (.ok opened, greeted)) :
    (establish setup).runAt desk = (acquaint setup opened).runAt greeted := by
  rw [establish, Act.runAt_bind, h]

section Speculated

variable {setup : Setup} {login : Login} {mechanism : Mechanism} {response : Document}
  {prover : Prover} {data : Bytes} {answers : List Answer}

/-- Without an answer to go on with the conversation is begun anew, and after its first
    command there is one. -/
theorem runAt_speculated_anew {desk : Desk} {c : Connection} {commands : List Document}
    (hfixed : login.credential.mechanism = some mechanism)
    (hcreate : login.provider.create desk.created mechanism login.credential = some prover)
    (hinitial : prover.initial = .ok data) (hresponse : response.isOk = true)
    (hline : desk.line.connection = c.amid commands (.ok response :: answers))
    (hnone : desk.speculation.takeResumable.1 = none) :
    ∃ after : Desk,
      after.line.connection =
        c.amid (commands ++ [login.sends (Sasl.start prover.mechanism data none)]) answers ∧
      (speculated login).runAt desk =
        (resume login { number := desk.created + 1, prover := prover } response).runAt after := by
  let again : Prover.Running := { number := desk.created + 1, prover := prover }
  let made : Desk := { desk with
    line.journal := desk.line.journal.note login.provider.observed
      (.create mechanism login.credential)
    speculation := desk.speculation.takeResumable.2
    created := desk.created + 1 }
  have hasked : (made.note login.provider.observed (.initial again.number)).line.connection =
      c.amid commands (.ok response :: answers) := hline
  rcases Line.exchange_amid hasked (login.sends (Sasl.start prover.mechanism data none)) with
    ⟨hanswer, hafter⟩
  refine ⟨{ made with line := (exchange
    (made.note login.provider.observed (.initial again.number)).line _).2 }, hafter, ?_⟩
  have hmade : (login.createProver mechanism).runAt
      { desk with speculation := desk.speculation.takeResumable.2 } = (.ok again, made) := by
    rw [Login.runAt_createProver]
    simp only [hcreate]
    rfl
  rw [runAt_speculated, hnone]
  simp only [Login.createFixedProver, hfixed]
  rw [Act.runAt_bind, hmade]
  exact runAt_login_of_answer hinitial hanswer hresponse

/-- The two openings meet. One goes on from the answer in the handshake, and the other
    one has had to begin anew to get it. -/
theorem ends_acquaint_speculated (hlogin : setup.authenticator = .speculative login)
    (hfixed : login.credential.mechanism = some mechanism) (huniform : login.provider.Uniform)
    {n : Nat} (hcreate : login.provider.create n mechanism login.credential = some prover)
    (hinitial : prover.initial = .ok data) (hresponse : response.isOk = true)
    {c c' : Connection} (hbeside : c.Counterpart c') {desk desk' : Desk} {o o' : Opened}
    {handshake : Document} (number : Nat)
    (hline : desk.line.connection = c.amid [handshake] answers)
    (hline' : desk'.line.connection = c'.amid [handshake] (.ok response :: answers))
    (hresumable : desk.speculation.takeResumable.1 =
      some ({ number := number, prover := prover }, response))
    (hresumable' : desk'.speculation.takeResumable.1 = none)
    (hopened : o.anonymous = o'.anonymous) (hdo : setup.authenticates o = true) :
    (Likeness.counterparts (c.transport.sent ++ [handshake])
      (c'.transport.sent ++
        [handshake, login.sends (Sasl.start prover.mechanism data none)])).Ends
      (fun o o' => o.anonymous = o'.anonymous) ((acquaint setup o).runAt desk)
      ((acquaint setup o').runAt desk') := by
  -- The other prover is made with another number, and does the same.
  have hagain : login.provider.create desk'.created mechanism login.credential = some prover := by
    rw [← hcreate, huniform]
  rcases runAt_speculated_anew hfixed hagain hinitial hresponse hline' hresumable' with
    ⟨after, hafter, hplain⟩
  have hquick : (speculated login).runAt desk =
      (resume login { number := number, prover := prover } response).runAt
        { desk with speculation := desk.speculation.takeResumable.2 } := by
    rw [runAt_speculated, hresumable]
  have hsent : desk.sent = c.transport.sent ++ [handshake] := by
    rw [Desk.sent, hline]
    rfl
  have hsent' : after.sent = c'.transport.sent ++
      [handshake, login.sends (Sasl.start prover.mechanism data none)] := by
    rw [Desk.sent, hafter]
    rfl
  -- What has been sent until they meet is where the likeness begins.
  rw [← hsent, ← hsent']
  generalize hbase : desk.sent = base
  generalize hbase' : after.sent = base'
  have hsetup : setup.Alike (Likeness.counterparts base base') setup :=
    Setup.alike_counterparts hlogin huniform
  have hmet : (Likeness.counterparts base base').Ends Eq ((speculated login).runAt desk)
      ((speculated login).runAt desk') := by
    have hcounterpart : desk.line.connection.Counterpart after.line.connection := by
      rw [hline, hafter]
      exact hbeside.amid _ _ _
    have hdesks := Likeness.desks_counterparts hcounterpart
    rw [hbase, hbase'] at hdesks
    rw [hquick, hplain]
    refine Likeness.ends_resume (Login.alike_counterparts huniform) ?_ response
      ⟨hdesks.line, trivial⟩
    exact ⟨Likeness.alike_counterparts prover, rfl⟩
  have hdo' : setup.authenticates o' = true := by
    rw [← hdo]
    exact (Likeness.authenticates_eq hsetup hopened).symm
  have hauthorized : (Likeness.counterparts base base').Ends Eq ((authorize setup o).runAt desk)
      ((authorize setup o').runAt desk') := by
    rw [authorize, authorize, if_pos hdo, if_pos hdo', hlogin]
    exact hmet
  refine hauthorized.bind ?_
  intro _ _ next next' _ hnext
  exact Likeness.ends_probe hsetup hopened hnext

/-- Either there is no handshake to send, and both openings end with the same error; or
    both send the same one, and meet later on. -/
theorem establish_speculated (hlogin : setup.authenticator = .speculative login)
    (hfixed : login.credential.mechanism = some mechanism) (hmay : mechanism.isSpeculative = true)
    (huniform : login.provider.Uniform) {reply : Document} (hreply : reply.isOk = true)
    (hunanswered : reply.contains Handshake.speculativeKey = false)
    (harbiter : ¬ reply.DescribesArbiter) (hresponse : response.isOk = true)
    {c c' : Connection} (hbeside : c.Counterpart c') {desk desk' : Desk}
    (hline : desk.line.connection = c.amid []
      (.ok (reply.insert Handshake.speculativeKey (.ofDocument response)) :: answers))
    (hline' : desk'.line.connection = c'.amid [] (.ok reply :: .ok response :: answers)) :
    (∃ e made made', (setup.handshake.runAt desk).1 = .error e ∧
      (establish setup).runAt desk = (.error e, made) ∧
      (establish setup).runAt desk' = (.error e, made') ∧
      made.line.connection = desk.line.connection ∧
      made'.line.connection = desk'.line.connection) ∨
    ∃ (spoken : Mechanism) (data : Bytes),
      (Likeness.counterparts (c.transport.sent ++ [setup.carries login spoken data])
        (c'.transport.sent ++ [setup.carries login spoken data,
          login.sends (Sasl.start spoken data none)])).Ends
        (fun o o' => o.anonymous = o'.anonymous) ((establish setup).runAt desk)
        ((establish setup).runAt desk') := by
  have hmade := Setup.runAt_handshake_of_fixed hlogin hfixed hmay desk
  have hmade' := Setup.runAt_handshake_of_fixed hlogin hfixed hmay desk'
  rw [huniform desk'.created desk.created] at hmade'
  cases hcreate : login.provider.create desk.created mechanism login.credential with
  | none =>
      -- The provider has no prover, and nothing can be sent.
      simp only [hcreate] at hmade hmade'
      exact .inl ⟨_, _, _, congrArg Prod.fst hmade, runAt_establish_of_error hmade,
        runAt_establish_of_error hmade', rfl, rfl⟩
  | some prover =>
      simp only [hcreate] at hmade hmade'
      cases hinitial : prover.initial with
      | error e =>
          -- The prover has no first step, with the same effect.
          simp only [hinitial] at hmade hmade'
          exact .inl ⟨_, _, _, congrArg Prod.fst hmade, runAt_establish_of_error hmade,
            runAt_establish_of_error hmade', rfl, rfl⟩
      | ok data =>
          simp only [hinitial] at hmade hmade'
          refine .inr ⟨prover.mechanism, data, ?_⟩
          -- The handshake is the same, and so is what its reply teaches, but for the answer.
          have hok :
              (reply.insert Handshake.speculativeKey (.ofDocument response)).isOk = true := by
            rw [Handshake.isOk_insert_speculative, hreply]
          rcases runAt_greet_of_reply hmade hline hok with ⟨line, hafter, hgreeted⟩
          rcases runAt_greet_of_reply hmade' hline' hreply with ⟨line', hafter', hgreeted'⟩
          have hopened : (Opened.ofReply line.connection
              (reply.insert Handshake.speculativeKey (.ofDocument response))).anonymous =
              (Opened.ofReply line'.connection reply).anonymous := by
            rw [Opened.ofReply_insert_speculative, hafter, hafter']
            exact hbeside.ofReply reply
          have hdo : setup.authenticates (Opened.ofReply line.connection
              (reply.insert Handshake.speculativeKey (.ofDocument response))) = true := by
            have htype : ServerType.ofReply reply ≠ .arbiter :=
              fun h => harbiter (ServerType.ofReply_eq_arbiter.mp h)
            rw [Opened.ofReply_insert_speculative, Setup.authenticates, hlogin]
            exact decide_eq_true htype
          rw [runAt_establish_of_greeted hgreeted, runAt_establish_of_greeted hgreeted']
          refine ends_acquaint_speculated hlogin hfixed huniform hcreate hinitial hresponse hbeside
            (desk.created + 1) hafter hafter' ?_ ?_ hopened hdo
          · rw [Setup.takeResumable_kept_of_some hlogin rfl, Handshake.speculativeReply?_insert]
            rfl
          · rw [Setup.takeResumable_kept_of_some hlogin rfl,
              Handshake.speculativeReply?_of_not_contains hunanswered]
            rfl

end Speculated

end Blocking

/-- A server that answers the step in the handshake and one that answers it as the
    beginning of a conversation are spoken to in the same way. The results are the same,
    and so is what can be seen of the connections, but for the numbers. Unless there is
    no handshake to send, the second opening sends the commands of the first with one
    more after the handshake: the step that the handshake carried, made into a command
    of its own. -/
theorem Mode.openConnection_speculated (mode : Mode) (setup : Setup) (config : CredentialConfig)
    (api : Option ServerApi) {mechanism : Mechanism}
    (hfixed : config.credential.mechanism = some mechanism)
    (hmay : mechanism.isSpeculative = true) (huniform : config.provider.Uniform)
    {reply response : Document} (hreply : reply.isOk = true)
    (hunanswered : reply.contains Handshake.speculativeKey = false)
    (harbiter : ¬ reply.DescribesArbiter) (hresponse : response.isOk = true)
    {desk desk' : Desk} (hbeside : desk.line.connection.Counterpart desk'.line.connection)
    (hfresh : desk.line.connection.stage = .uninitialized) :
    ∃ result result' after after',
      mode.openConnection (setup.withCredential config api)
          (desk.expecting
            [.ok (reply.insert Handshake.speculativeKey (.ofDocument response))]) =
        (some result, after) ∧
      mode.openConnection (setup.withCredential config api)
          (desk'.expecting [.ok reply, .ok response]) = (some result', after') ∧
      result.map Opened.anonymous = result'.map Opened.anonymous ∧
      after.line.connection.shown = after'.line.connection.shown ∧
      ((∃ e, ((setup.withCredential config api).handshake.runAt desk).1 = .error e ∧
          result = .error e ∧ after.sent = desk.sent ∧ after'.sent = desk'.sent) ∨
        ∃ handshake step rest,
          handshake.document? Handshake.speculativeKey = some step ∧
          step.name? = some "saslStart" ∧
          step.get? "db" = some (.string config.credential.source) ∧
          after.sent = desk.sent ++ handshake :: rest ∧
          after'.sent = desk'.sent ++
            handshake :: Command.prepare (step.erase "db") config.credential.source api ::
              rest) := by
  have hlogin : (setup.withCredential config api).authenticator =
      .speculative (.ofConfig config api) := by
    refine Authenticator.ofCredential_of_ne hfixed ?_
    rintro rfl
    exact absurd hmay Bool.false_ne_true
  have hfresh' : desk'.line.connection.stage = .uninitialized := by
    rw [← hbeside.stage, hfresh]
  have hentered := hbeside.entered
  have hline := desk.entered_expecting
    [.ok (reply.insert Handshake.speculativeKey (.ofDocument response))]
  have hline' := desk'.entered_expecting [.ok reply, .ok response]
  rw [← hbeside.answers] at hline'
  refine ⟨_, _, _, _, mode.openConnection_of_fresh _ hfresh, mode.openConnection_of_fresh _ hfresh',
    ?_⟩
  rcases Blocking.establish_speculated hlogin hfixed hmay huniform hreply hunanswered harbiter
      hresponse hentered hline hline' with
    ⟨e, made, made', hunsent, hended, hended', hmade, hmade'⟩ | ⟨spoken, data, hended⟩
  · -- Nothing was sent and nothing was learned.
    rw [hline] at hmade
    rw [hline'] at hmade'
    rw [hended, hended']
    refine ⟨rfl, ?_, .inl ⟨e, ?_, rfl, ?_, ?_⟩⟩
    · show (made.line.connection.settle (.error e)).shown =
        (made'.line.connection.settle (.error e)).shown
      rw [hmade, hmade']
      exact hentered.shown_settle_error [] [] _ _ e
    · rw [Setup.fst_handshake_of_fixed hlogin hfixed hmay] at hunsent ⊢
      exact hunsent
    · show made.line.connection.transport.sent = desk.sent
      rw [hmade]
      exact List.append_nil _
    · show made'.line.connection.transport.sent = desk'.sent
      rw [hmade']
      exact List.append_nil _
  · -- From the meeting on the commands are the same, and come after those before it.
    have hsettled := Line.Beside.settle hended.desks.line hended.result
    rcases hsettled.sent with ⟨rest, hsent, hsent'⟩
    refine ⟨Likeness.map_anonymous_of_paired hended.result, hsettled.connection.shown_eq,
      .inr ⟨_, Sasl.start spoken data (some config.credential.source), rest, ?_,
        Sasl.name?_start _ _ _, Sasl.database_start _ _ _, hsent.trans (List.append_assoc _ _ _),
        ?_⟩⟩
    · rw [Setup.carries, Setup.document?_speculative_sends, Document.document?,
        Handshake.speculative_command]
      rfl
    · rw [Sasl.erase_start]
      exact hsent'.trans (List.append_assoc _ _ _)

/-- A conversation that is over with the first answer takes two commands in the second
    opening, the handshake and the step, and in the first only the handshake. Each of them
    is followed by the status probe. -/
theorem Mode.openConnection_speculated_at_once :
    ∃ result result' after after',
      blocking.openConnection
          (({} : Setup).withCredential
            (Script.config { first := .ok [], answers := [] } .scramSha256) none)
          (Desk.nowhere.expecting [.ok (Document.insert ⟨[("ok", .bool true)]⟩
            Handshake.speculativeKey (.ofDocument
              ⟨[("ok", .bool true), ("conversationId", .null), ("done", .bool true)]⟩))]) =
        (some result, after) ∧
      blocking.openConnection
          (({} : Setup).withCredential
            (Script.config { first := .ok [], answers := [] } .scramSha256) none)
          (Desk.nowhere.expecting [.ok ⟨[("ok", .bool true)]⟩,
            .ok ⟨[("ok", .bool true), ("conversationId", .null), ("done", .bool true)]⟩]) =
        (some result', after') ∧
      result.map Opened.anonymous = result'.map Opened.anonymous ∧
      after'.sent.length = after.sent.length + 1 := by
  have hreply : Document.isOk ⟨[("ok", .bool true)]⟩ = true := rfl
  have harbiter : ¬ Document.DescribesArbiter ⟨[("ok", .bool true)]⟩ :=
    fun h => absurd h.setName (by decide)
  have hresponse : Document.isOk
      ⟨[("ok", .bool true), ("conversationId", .null), ("done", .bool true)]⟩ = true := rfl
  rcases openConnection_speculated .blocking {}
      (Script.config { first := .ok [], answers := [] } .scramSha256) none rfl rfl
      (Script.uniform_provider _) hreply rfl harbiter hresponse
      (.refl Desk.nowhere.line.connection) rfl with
    ⟨result, result', after, after', hopened, hopened', hresult, _,
      ⟨e, hunsent, _⟩ | ⟨handshake, step, rest, _, _, _, hsent, hsent'⟩⟩
  · cases hunsent
  · refine ⟨result, result', after, after', hopened, hopened', hresult, ?_⟩
    rw [hsent, hsent', List.length_append, List.length_append]
    rfl

end DocumentLink
