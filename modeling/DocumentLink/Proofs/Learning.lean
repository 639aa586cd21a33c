import DocumentLink.Proofs.Unread

/-!
# What an Opening Teaches

A connection that has been opened is described by the reply to its handshake. That reply is
read once, before the authentication, and what was read is carried through a conversation of
any length. Only one thing may be filled in afterwards: the number that the server has for the
connection. If the reply does not tell it, the server is asked, and whatever comes of that
question, the opening has succeeded by then. There is no other number that could be left:
a connection is made without one, and only an opening fills it in, so the theorems begin
with a connection that has none.

So the answer to the question can be exchanged for any other one, or for none, and nothing
else about the opening changes. The answers before it decide everything up to there, since
work that succeeds does not hang on what it has not taken.

## Main definitions

* `StatusProbe.told?`: The number that the next answer tells.
* `ConnectionDescription.unnumbered`: A description without the server's number.
* `Opened.Learned`: The result of an opening, by the reply to its handshake.

## Theorems

* `ServerType.ofReply_ne_unknown`: A server that has accepted the handshake is known.
* `Blocking.runAt_probe_ofReply`: What asking for the number comes to.
* `Blocking.establish_eq_ok`: What answers an opening that succeeds has taken.
* `Mode.openConnection_learned`: What a connection that was opened has learned, and that it
  hangs on the last answer through the number only.
-/

namespace DocumentLink

/-- The number that the next answer tells, if it is a reply that reports success and has one. -/
def StatusProbe.told? : List Answer → Option Int
  | .ok reply :: _ => if reply.isOk then serverValue? reply else none
  | _ => none

/-- The description without the server's number for the connection. -/
def ConnectionDescription.unnumbered (d : ConnectionDescription) : ConnectionDescription :=
  { d with id.serverValue := none }

/-- The result with this number for the server's, or with none. -/
def Opened.numbered (o : Opened) (number : Option Int) : Opened :=
  { o with connection.id.serverValue := number }

/-- A server that has accepted the handshake is of a known type. -/
theorem ServerType.ofReply_ne_unknown {reply : Document} (h : reply.isOk = true) :
    ofReply reply ≠ unknown := by
  have hmember : ofMemberReply reply ≠ unknown := by
    unfold ofMemberReply
    repeat' split
    all_goals decide
  unfold ofReply
  rw [h]
  -- Ghost, member of a set, router, or alone.
  repeat' split
  · contradiction
  · decide
  · exact hmember
  · decide
  · decide

/-- The result of opening a connection, as the reply to the handshake has it. The number may
    have been told in answer to the status probe. -/
structure Opened.Learned (opened : Opened) (c : Connection) (reply : Document)
    (told : Option Int) : Prop where
  server : opened.server = .ofReply c.address reply c.transport.latency
  ok : opened.server.ok = true
  /-- Everything about the connection but the server's number is in the reply. -/
  connection : opened.connection.unnumbered =
    (ConnectionDescription.ofReply c.description.id reply).unnumbered
  number : opened.connection.id.serverValue = (StatusProbe.serverValue? reply).or told
  known : opened.connection.serverType ≠ .unknown
  serverType : opened.connection.serverType = opened.server.serverType
  minWireVersion : opened.connection.minWireVersion = opened.server.minWireVersion
  maxWireVersion : opened.connection.maxWireVersion = opened.server.maxWireVersion
  maxDocumentSize : opened.connection.maxDocumentSize = opened.server.maxDocumentSize

namespace Opened

variable {c : Connection} {reply : Document}

/-- The two halves of a result are read from the same reply. -/
theorem learned_numbered (hok : reply.isOk = true) (told : Option Int) :
    ((ofReply c reply).numbered ((StatusProbe.serverValue? reply).or told)).Learned c reply
      told where
  server := rfl
  ok := hok
  connection := rfl
  number := rfl
  known := ServerType.ofReply_ne_unknown hok
  serverType := rfl
  minWireVersion := rfl
  maxWireVersion := rfl
  maxDocumentSize := rfl

/-- A probe is made where the reply to the handshake tells no number. -/
theorem needsProbe_ofReply (reply : Document) (hid : c.description.id.serverValue = none) :
    (ofReply c reply).needsProbe = (StatusProbe.serverValue? reply).isNone := by
  show (ConnectionDescription.identify c.description.id reply).serverValue.isNone = _
  rw [ConnectionDescription.identify]
  cases StatusProbe.serverValue? reply with
  | none =>
      show c.description.id.serverValue.isNone = true
      rw [hid]
      rfl
  | some number => rfl

/-- The number comes from the reply to the handshake or else from the answer to the probe. -/
theorem numbered_ofReply (reply : Document) (hid : c.description.id.serverValue = none) :
    (ofReply c reply).numbered (StatusProbe.serverValue? reply) = ofReply c reply := by
  have hnumber : (ConnectionDescription.identify c.description.id reply).serverValue =
      StatusProbe.serverValue? reply := by
    rw [ConnectionDescription.identify]
    cases StatusProbe.serverValue? reply with
    | none => exact hid
    | some number => rfl
  rw [← hnumber]
  rfl

/-- The answer to a probe fills in the number that it tells, if it tells one. -/
theorem applyProbe_checked {opened : Opened} (hid : opened.connection.id.serverValue = none)
    (t : Transport) (address : Address) :
    opened.applyProbe (t.take.1.checked address) =
      opened.numbered (StatusProbe.told? t.answers) := by
  have hnone : opened.numbered none = opened := by
    rw [← hid]
    rfl
  rw [Transport.take]
  rcases t.answers with _ | ⟨answer, rest⟩
  · exact hnone.symm
  · cases answer with
    | error e => exact hnone.symm
    | ok reply =>
        simp only [Answer.checked, Except.bind, Document.checked, StatusProbe.told?]
        by_cases hok : reply.isOk = true
        · rw [if_pos hok, if_pos hok, applyProbe]
          cases StatusProbe.serverValue? reply with
          | none => exact hnone.symm
          | some number => rfl
        · rw [if_neg hok, if_neg hok]
          exact hnone.symm

end Opened

/-- After an exchange a connection is as it was, but for the command and the answers. -/
theorem Line.connection_exchange_amid (line : Line) (command : Document) :
    (Blocking.exchange line command).2.connection =
      line.connection.amid [command]
        (Blocking.exchange line command).2.connection.transport.answers := by
  rw [connection_exchange, Transport.take_snd]
  rfl

/-- The commands by which the server is asked for the number that a reply does not tell. -/
def Setup.asks (setup : Setup) (reply : Document) : List Document :=
  if (StatusProbe.serverValue? reply).isSome then [] else [setup.sends StatusProbe.command]

namespace Blocking

/-- Asking for the number cannot fail, and does nothing at the desk but to exchange one
    command, if that. -/
theorem runAt_probe_ofReply (setup : Setup) {c : Connection} (reply : Document)
    (hid : c.description.id.serverValue = none) (desk : Desk) :
    ∃ line : Line,
      (probe setup (.ofReply c reply)).runAt desk =
        (.ok ((Opened.ofReply c reply).numbered
          ((StatusProbe.serverValue? reply).or (StatusProbe.told? desk.answers))),
          { desk with line := line }) ∧
      line.connection =
        desk.line.connection.amid (setup.asks reply) line.connection.transport.answers ∧
      line.journal.calls = desk.line.journal.calls := by
  have hneeds := Opened.needsProbe_ofReply reply hid
  have hkept := Opened.numbered_ofReply reply hid
  rw [probe, Setup.asks]
  cases htold : StatusProbe.serverValue? reply with
  | some number =>
      rw [htold] at hneeds hkept
      refine ⟨desk.line, ?_, (Connection.amid_nil _).symm, rfl⟩
      rw [hneeds, Option.some_or, hkept]
      rfl
  | none =>
      rw [htold] at hneeds hkept
      refine ⟨(exchange desk.line (setup.sends StatusProbe.command)).2, ?_,
        Line.connection_exchange_amid _ _, Line.calls_exchange _ _⟩
      have hnumber : (Opened.ofReply c reply).connection.id.serverValue = none := by
        rw [← hkept]
        rfl
      rw [hneeds, if_pos (Option.isNone_none), Act.runAt_bind, Act.runAt_tried, runAt_command,
        exchange_fst, ← Setup.sends]
      simp only [Act.runAt_pure, Option.none_or]
      rw [Opened.applyProbe_checked hnumber, Desk.answers]

/-- An opening that succeeds comes to the probe, and so it does whatever comes after the
    answers to its handshake and its authentication. Each of these answers one command. -/
theorem establish_eq_ok {setup : Setup} {desk after : Desk} {opened : Opened}
    (h : (establish setup).runAt desk = (.ok opened, after)) :
    ∃ (reply : Document) (used left : List Answer) (commands : List Document) (between : Desk),
      desk.answers = .ok reply :: (used ++ left) ∧ reply.isOk = true ∧
      commands.length = used.length + 1 ∧
      between.line.connection = desk.line.connection.amid commands left ∧
      ∀ others, (establish setup).runAt (desk.answering (.ok reply :: (used ++ others))) =
        (probe setup (.ofReply desk.line.connection reply)).runAt (between.answering others) := by
  rcases Act.runAt_bind_eq_ok.mp h with ⟨learned, greeted, hgreeted, hrest⟩
  rcases Act.runAt_bind_eq_ok.mp hrest with ⟨done, between, hauthorized, _⟩
  rcases greet_eq_ok hgreeted with ⟨reply, handshake, hanswers, hok, rfl, hgreeting, hsame⟩
  rcases steady_authorize setup _ greeted done between hauthorized with
    ⟨used, commands, hlength, hused, hbetween, hsame'⟩
  refine ⟨reply, used, between.answers, handshake :: commands, between, ?_, hok, ?_, ?_,
    fun others => ?_⟩
  · rw [hanswers, hused]
  · rw [List.length_cons, hlength]
  · rw [hbetween, hgreeting, Connection.amid_amid]
    rfl
  · rw [establish, Act.runAt_bind, hsame]
    simp only []
    rw [acquaint, Act.runAt_bind, hsame']

end Blocking

/-- Only an opening of a connection that has not been opened before succeeds. -/
theorem Mode.fresh_of_openConnection {mode : Mode} {setup : Setup} {desk after : Desk}
    {opened : Opened} (h : mode.openConnection setup desk = (some (.ok opened), after)) :
    desk.line.connection.stage = .uninitialized := by
  by_cases hfresh : desk.line.connection.stage = .uninitialized
  · exact hfresh
  · rw [openConnection_eq, Blocking.openConnection, Desk.begin, Connection.begin_of_ne hfresh] at h
    simp only [Except.map, Prod.mk.injEq, Option.some.injEq, reduceCtorEq, false_and] at h

/-- The desk of an opening that has succeeded, up to what the probe has added. -/
theorem Mode.openConnection_eq_ok {mode : Mode} {setup : Setup} {desk after : Desk}
    {opened : Opened} (hid : desk.line.connection.description.id.serverValue = none)
    (h : mode.openConnection setup desk = (some (.ok opened), after)) :
    ∃ (reply : Document) (used left : List Answer) (commands : List Document) (between : Desk),
      desk.answers = .ok reply :: (used ++ left) ∧ reply.isOk = true ∧
      commands.length = used.length + 1 ∧
      between.line.connection = desk.entered.line.connection.amid commands left ∧
      ∀ others, ∃ (line : Line) (result : Opened),
        mode.openConnection setup (desk.answering (.ok reply :: (used ++ others))) =
          (some (.ok result), Desk.settle { between with line := line } (.ok result)) ∧
        result = (Opened.ofReply desk.line.connection reply).numbered
          ((StatusProbe.serverValue? reply).or (StatusProbe.told? others)) ∧
        line.connection = (between.line.answering others).connection.amid (setup.asks reply)
          line.connection.transport.answers ∧
        line.journal.calls = between.line.journal.calls := by
  have hfresh := fresh_of_openConnection h
  rw [mode.openConnection_of_fresh setup hfresh, Prod.mk.injEq, Option.some.injEq] at h
  have hrun : (Blocking.establish setup).runAt desk.entered =
      (.ok opened, ((Blocking.establish setup).runAt desk.entered).2) := Prod.ext h.1 rfl
  rcases Blocking.establish_eq_ok hrun with
    ⟨reply, used, left, commands, between, hanswers, hok, hlength, hbetween, hsame⟩
  refine ⟨reply, used, left, commands, between, hanswers, hok, hlength, hbetween, fun others => ?_⟩
  rcases Blocking.runAt_probe_ofReply (c := desk.line.connection) setup reply hid
    (between.answering others) with ⟨line, hprobed, hline, hcalls⟩
  refine ⟨line, _, ?_, rfl, hline, hcalls⟩
  have hcame := (hsame others).trans hprobed
  rw [mode.openConnection_of_fresh setup (show (desk.answering
    (.ok reply :: (used ++ others))).line.connection.stage = .uninitialized from hfresh)]
  show (some ((Blocking.establish setup).runAt (desk.entered.answering _)).1,
    ((Blocking.establish setup).runAt (desk.entered.answering _)).2.settle
      ((Blocking.establish setup).runAt (desk.entered.answering _)).1) = _
  rw [hcame]
  rfl

/-- A connection that was opened, in either mode, has learned what the reply to its handshake
    says, and its number from that reply or from the next answer after those to its handshake
    and its authentication. With any other answers after these it would have been opened as
    well, with the same commands and the same result, but for the number. -/
theorem Mode.openConnection_learned (mode : Mode) (setup : Setup) {desk after : Desk}
    {opened : Opened} (hid : desk.line.connection.description.id.serverValue = none)
    (h : mode.openConnection setup desk = (some (.ok opened), after)) :
    ∃ (reply : Document) (used left : List Answer) (commands : List Document),
      desk.answers = .ok reply :: (used ++ left) ∧ reply.isOk = true ∧
      commands.length = used.length + 1 ∧
      after.sent = desk.sent ++ (commands ++
        if (StatusProbe.serverValue? reply).isSome then []
        else [Command.prepare StatusProbe.command Command.adminDatabase setup.api]) ∧
      opened.Learned desk.line.connection reply (StatusProbe.told? left) ∧
      ∀ others, ∃ (opened' : Opened) (after' : Desk),
        mode.openConnection setup (desk.answering (.ok reply :: (used ++ others))) =
          (some (.ok opened'), after') ∧
        opened'.Learned desk.line.connection reply (StatusProbe.told? others) ∧
        opened' = opened.numbered opened'.connection.id.serverValue ∧
        after'.line.journal.calls = after.line.journal.calls ∧
        after' = { after with
          line.connection.description := opened'.connection
          line.connection.transport.answers := after'.answers
          line.journal := after'.line.journal } := by
  rcases openConnection_eq_ok hid h with
    ⟨reply, used, left, commands, between, hanswers, hok, hlength, hbetween, hopen⟩
  -- The opening itself is the one with what was left.
  rcases hopen left with ⟨line, result, hown, hresult, hline, hcalls⟩
  rw [Desk.answering_eq hanswers, h, Prod.mk.injEq, Option.some.injEq, Except.ok.injEq] at hown
  rcases hown with ⟨rfl, rfl⟩
  refine ⟨reply, used, left, commands, hanswers, hok, hlength, ?_, ?_, fun others => ?_⟩
  · show line.connection.transport.sent = _
    rw [hline]
    show between.line.connection.transport.sent ++ setup.asks reply = _
    rw [hbetween]
    exact List.append_assoc _ _ _
  · rw [hresult]
    exact Opened.learned_numbered hok _
  · rcases hopen others with ⟨line', result', hopened, hresult', hline', hcalls'⟩
    refine ⟨result', _, hopened, ?_, ?_, ?_, ?_⟩
    · rw [hresult']
      exact Opened.learned_numbered hok _
    · rw [hresult, hresult']
      rfl
    · exact hcalls'.trans hcalls.symm
    · -- Neither connection differs from the one before the probe in anything else.
      rcases line with ⟨c, journal⟩
      rcases line' with ⟨c', journal'⟩
      simp only at hline hline'
      generalize c.transport.answers = rest at hline
      generalize c'.transport.answers = rest' at hline'
      rw [hline, hline', hresult, hresult']
      rfl

/-- A server that does not tell its number in the handshake tells it when it is asked, after
    a certificate was shown. Had it not answered, the connection would still be open. -/
theorem Mode.openConnection_learned_legacy :
    let setup : Setup :=
      { authenticator := .certificate (Credential.make "$external" (some "cn") none) none }
    let desk := Desk.nowhere.answering [.ok ⟨[("ok", .bool true)]⟩, .ok ⟨[("ok", .bool true)]⟩,
      .ok ⟨[("ok", .bool true), ("connectionId", .number 7)]⟩]
    desk.line.connection.description.id.serverValue = none ∧
    ∃ (opened : Opened) (after : Desk) (reply : Document) (used left : List Answer),
      blocking.openConnection setup desk = (some (.ok opened), after) ∧
      desk.answers = .ok reply :: (used ++ left) ∧
      opened.Learned desk.line.connection reply (StatusProbe.told? left) ∧
      opened.connection.id.serverValue = some 7 ∧
      ∃ (opened' : Opened) (after' : Desk),
        blocking.openConnection setup (desk.answering (.ok reply :: (used ++ []))) =
          (some (.ok opened'), after') ∧
        opened'.connection.id.serverValue = none := by
  intro setup desk
  have hid : desk.line.connection.description.id.serverValue = none := rfl
  have hsuccess : ∃ (opened : Opened) (after : Desk),
      blocking.openConnection setup desk = (some (.ok opened), after) ∧
        opened.connection.id.serverValue = some 7 := ⟨_, _, rfl, by decide⟩
  rcases hsuccess with ⟨opened, after, hopened, hseven⟩
  rcases openConnection_learned .blocking setup hid hopened with
    ⟨reply, used, left, _, hanswers, _, _, _, hlearned, hothers⟩
  rcases hothers [] with ⟨opened', after', hopened', hlearned', _⟩
  refine ⟨hid, opened, after, reply, used, left, hopened, hanswers, hlearned, hseven, opened',
    after', hopened', ?_⟩
  -- The reply to the handshake is the first answer there was.
  have hreply := congrArg List.head? hanswers
  injection hreply with hreply
  injection hreply with hreply
  rw [hlearned'.number, ← hreply]
  rfl

end DocumentLink
