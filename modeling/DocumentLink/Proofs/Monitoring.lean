import DocumentLink.Proofs.Speculation
import DocumentLink.Proofs.Telling
import DocumentLink.Proofs.Wire

/-!
# Monitoring Connections

A connection for monitoring is opened from the same context as one for an
application, and takes neither the credential nor the listener from it. So it
authenticates with nothing, nobody is told of its commands, and it comes to the
same in every context that differs in these two only.

What is left of an opening then is a handshake and a probe. The handshake is that
of an application without the two fields that belong to an authentication. To see
this, the two keys are taken out of a command, which can be done before or after
everything else has been put in.

## Main definitions

* `Handshake.plain`: A handshake without anything for an authentication.
* `Access.heartbeatFactory`: Where the transports for monitoring come from.
* `Access.withHeartbeat`: What is left after one has been made.

## Theorems

* `Document.erase_insert_of_ne`, `Command.erase_prepare`: Taking a field out of a
  command.
* `Handshake.erase_command`: A handshake without its two fields is the plain one.
* `Blocking.runAt_establish_of_none`: An opening without an authentication.
* `Mode.openConnection_unauthenticated`: What can be seen of it if nobody listens.
* `Access.openConnection_monitoring`: Opening a connection for monitoring.
-/

namespace DocumentLink

open Json (Value)

namespace Document

/-- A field is put and another one taken out, in either order. -/
theorem erase_insert_of_ne (d : Document) {key other : String} (value : Value) (h : key ≠ other) :
    (d.insert key value).erase other = (d.erase other).insert key value := by
  rcases d with ⟨fields⟩
  simp only [insert, erase, mk.injEq]
  induction fields with
  | nil => simp only [insertField, List.filter_cons, List.filter_nil, decide_eq_true_eq, if_pos h]
  | cons field rest ih =>
      rcases field with ⟨k, v⟩
      -- The value goes into the field that is found first, which is not taken out.
      by_cases hkey : k = key
      · subst hkey
        simp only [insertField, if_pos, List.filter_cons, decide_eq_true_eq, if_pos h]
      · rw [insertField, if_neg hkey, List.filter_cons, List.filter_cons, ih]
        split
        · rw [insertField, if_neg hkey]
        · rfl

theorem erase_insertSome_of_ne (d : Document) {key other : String} (value : Option Value)
    (h : key ≠ other) :
    (d.insertSome key value).erase other = (d.erase other).insertSome key value := by
  cases value with
  | none => rfl
  | some value => exact erase_insert_of_ne d value h

/-- A field that may have been put under a new key is taken out again. -/
theorem erase_insertSome_self {d : Document} {key : String} (value : Option Value)
    (h : d.get? key = none) : (d.insertSome key value).erase key = d := by
  cases value with
  | none => exact erase_of_get?_eq_none h
  | some value => exact (erase_insert_self d key value).trans (erase_of_get?_eq_none h)

theorem erase_foldl_insert (d : Document) {other : String} (fields : List (String × Value))
    (h : ∀ field ∈ fields, field.1 ≠ other) :
    (fields.foldl (fun d field => d.insert field.1 field.2) d).erase other =
      fields.foldl (fun d field => d.insert field.1 field.2) (d.erase other) := by
  induction fields generalizing d with
  | nil => rfl
  | cons field rest ih =>
      rw [List.foldl_cons, List.foldl_cons, ih _ fun f hf => h f (List.mem_cons_of_mem _ hf),
        erase_insert_of_ne d field.2 (h field List.mem_cons_self)]

end Document

/-- A command is prepared and a field taken out of it, in either order. -/
theorem Command.erase_prepare (command : Document) (database : String) (api : Option ServerApi)
    {key : String} (hdatabase : key ≠ databaseKey) (hkeys : key ∉ ServerApi.keys) :
    (prepare command database api).erase key = prepare (command.erase key) database api := by
  have haddressed := Document.erase_insert_of_ne command (.string database) (Ne.symm hdatabase)
  cases api with
  | none => exact haddressed
  | some api =>
      refine (Document.erase_foldl_insert _ api.fields fun field hfield heq => ?_).trans ?_
      · exact hkeys (heq ▸ api.mem_keys_of_mem_fields hfield)
      · rw [haddressed]
        rfl

namespace Handshake

/-- A handshake without anything for an authentication. -/
def plain (h : Handshake) : Handshake :=
  { h with mechanismsOf := none, speculative := none }

/-- Without the question for mechanisms and without a step to send, a handshake is the
    plain one. -/
theorem erase_command (h : Handshake) :
    (h.command.erase mechanismsKey).erase speculativeKey = h.plain.command := by
  have hnone : ∀ key, key ≠ "helloOk" → key ≠ "client" → key ≠ compressionKey →
      key ≠ helloName → key ≠ legacyName → h.plain.command.get? key = none := by
    intro key hhelloOk hclient hcompression hhello hlegacy
    show ((((Document.command h.name).insertSome "helloOk" _).insertSome "client" _).insertSome
      compressionKey _).get? key = none
    rw [Document.get?_insertSome_of_ne _ _ hcompression, Document.get?_insertSome_of_ne _ _ hclient,
      Document.get?_insertSome_of_ne _ _ hhelloOk,
      Document.get?_command _ _ (h.ne_name_of_ne hhello hlegacy)]
  -- The two fields are put in last, under keys that the plain handshake does not have.
  show (((h.plain.command.insertSome mechanismsKey _).insertSome speculativeKey _).erase
    mechanismsKey).erase speculativeKey = _
  rw [Document.erase_insertSome_of_ne _ _ (by decide), Document.erase_insertSome_self _
    (hnone _ (by decide) (by decide) (by decide) (by decide) (by decide)),
    Document.erase_insertSome_self _
    (hnone _ (by decide) (by decide) (by decide) (by decide) (by decide))]

end Handshake

namespace Setup

/-- The handshake of a setup that does not ask for mechanisms is the plain one. -/
theorem baseHandshake_of_unauthenticated {setup : Setup} (h : setup.authenticator = .none) :
    setup.baseHandshake = setup.baseHandshake.plain := by
  rw [baseHandshake, askedUser, h]
  rfl

/-- A plain handshake is made from the client, the compressors and the interface only. -/
theorem plain_baseHandshake {setup setup' : Setup} (hclient : setup.client = setup'.client)
    (hcompressors : setup.compressors = setup'.compressors) (hapi : setup.api = setup'.api) :
    setup.baseHandshake.plain = setup'.baseHandshake.plain := by
  have hplain : ∀ s : Setup, s.baseHandshake.plain =
      { hello := s.api.isSome, client := s.client, compressors := s.compressors } := by
    intro s
    rw [baseHandshake]
    cases s.askedUser <;> rfl
  rw [hplain, hplain, hclient, hcompressors, hapi]

/-- The handshake that is prepared is the one that every handshake is, and a step if there
    is one. -/
theorem Prepares.eq_command {setup : Setup} {speculation after : Speculation}
    {created made : Nat} {course : Course} {document : Document}
    (h : setup.Prepares speculation created course after made (.ok document)) :
    ∃ step, document = { setup.baseHandshake with speculative := step : Handshake }.command := by
  cases h with
  | plain _ => exact ⟨none, by rw [setup.baseHandshake_of_none]⟩
  | speculated _ _ _ _ _ => exact ⟨_, rfl⟩

/-- The first command of an opening is its handshake. -/
theorem Opens.head_commands {setup : Setup} {connection : Connection} {speculation : Speculation}
    {created : Nat} {course : Course} {result : Except Error Opened}
    (h : setup.Opens connection speculation created course result) {first : Document}
    (hfirst : course.commands.head? = some first) :
    ∃ step, first =
      setup.sends { setup.baseHandshake with speculative := step : Handshake }.command := by
  -- Whatever comes after the handshake, making it has exchanged nothing.
  have hhead : ∀ {after made document talk answer},
      setup.Prepares speculation created talk after made (.ok document) → ∀ rest,
      (Course.commands (talk ++ .exchanged (setup.sends document) answer :: rest)).head? =
        some first →
      ∃ step, first =
        setup.sends { setup.baseHandshake with speculative := step : Handshake }.command := by
    intro after made document talk answer hprepared rest hcommands
    rw [Course.commands_append_exchanged hprepared.exchanges_eq.1, List.head?_cons] at hcommands
    rcases hprepared.eq_command with ⟨step, rfl⟩
    exact ⟨step, (Option.some.inj hcommands).symm⟩
  cases h with
  | unsent hprepared =>
      rw [Course.commands, hprepared.exchanges_eq.1] at hfirst
      simp only [List.map_nil, List.head?_nil, reduceCtorEq] at hfirst
  | refused hprepared _ => exact hhead hprepared _ hfirst
  | rejected hprepared _ _ => exact hhead hprepared _ hfirst
  | opened hprepared _ _ _ => exact hhead hprepared _ hfirst

end Setup

namespace Blocking

/-- Without a listener an exchange is what the transport does. -/
theorem exchange_of_none {line : Line} (h : line.connection.listener = none)
    (command : Document) : exchange line command = (line.send command).take := by
  simp only [exchange, line.announce_of_none h]
  rfl

/-- Nobody is told of it then, and no number is taken for it. -/
theorem journal_exchange_of_none {line : Line} (h : line.connection.listener = none)
    (command : Document) :
    (exchange line command).2.journal =
      line.journal.hand line.connection.description.id command := by
  rw [exchange_of_none h]
  rfl

/-- Without an authentication an opening exchanges the handshake and goes on with the
    probe. -/
theorem runAt_establish_of_none {setup : Setup} (h : setup.authenticator = .none) (desk : Desk) :
    (establish setup).runAt desk =
      match (exchange desk.line (setup.sends setup.baseHandshake.command)).1.checked
        desk.address with
      | .error e => (.error e,
        { desk with line := (exchange desk.line (setup.sends setup.baseHandshake.command)).2 })
      | .ok reply =>
        (probe setup (.ofReply desk.line.connection reply)).runAt { desk with
          line := (exchange desk.line (setup.sends setup.baseHandshake.command)).2 } := by
  have hspeculative : setup.authenticator.speculative? = none := by
    rw [h]
    rfl
  rw [establish, Act.runAt_bind, runAt_greet, Setup.runAt_handshake_of_none hspeculative]
  simp only []
  cases Answer.checked _ _ with
  | error e =>
      simp only [Setup.handshakeFailure, h]
      rfl
  | ok reply =>
      -- What is learned is about the connection before the exchange as well as after it.
      have hlearned := ofReply_of_follows (.exchanged (.refl (exchange desk.line
        (setup.sends setup.baseHandshake.command)).2) : desk.line.Follows setup.observed _ _) reply
      have hpassed : setup.authenticates (.ofReply desk.line.connection reply) = false := by
        rw [Setup.authenticates, h]
        rfl
      simp only [Setup.kept, hspeculative, hlearned, acquaint, authorize, hpassed]
      rfl

/-- The probe cannot fail, and exchanges a command at most. -/
theorem runAt_probe (setup : Setup) (opened : Opened) (desk : Desk) :
    (probe setup opened).runAt desk =
      if opened.needsProbe then
        (.ok (opened.applyProbe ((exchange desk.line (setup.sends StatusProbe.command)).1.checked
          desk.address)),
          { desk with line := (exchange desk.line (setup.sends StatusProbe.command)).2 })
      else (.ok opened, desk) := by
  rw [probe]
  split
  · rw [Act.runAt_bind, Act.runAt_tried, runAt_command]
    rfl
  · rfl

end Blocking

/-- An opening without an authentication, of a connection that nobody listens to: it
    sends the handshake and the probe at most, nothing is done for them but handing them
    over, and no prover is made. It succeeds if the handshake does. -/
theorem Mode.openConnection_unauthenticated (mode : Mode) {setup : Setup} {desk : Desk}
    (hsetup : setup.authenticator = .none)
    (hfresh : desk.line.connection.stage = .uninitialized)
    (hlistener : desk.line.connection.listener = none) :
    ∃ result after probe, mode.openConnection setup desk = (some result, after) ∧
      after.line.connection.transport.sent = desk.line.connection.transport.sent ++
        setup.sends setup.baseHandshake.command :: probe ∧
      (probe = [] ∨ probe = [setup.sends StatusProbe.command]) ∧
      after.line.journal = { desk.line.journal with
        trace := desk.line.journal.trace ++
          (setup.sends setup.baseHandshake.command :: probe).map
            (Occurrence.handed desk.line.connection.description.id) } ∧
      after.created = desk.created ∧
      ((∃ opened, result = .ok opened) ↔
        ∃ reply, desk.line.connection.transport.answer 0 = .ok reply ∧ reply.isOk = true) := by
  rw [mode.openConnection_of_fresh setup hfresh, Blocking.runAt_establish_of_none hsetup]
  have hentered : desk.entered.line.connection.listener = none := hlistener
  -- The handshake is answered by the first answer, and leaves a connection nobody listens to.
  have hanswer : (Blocking.exchange desk.entered.line
      (setup.sends setup.baseHandshake.command)).1 = desk.line.connection.transport.answer 0 :=
    (Blocking.exchange_fst _ _).trans (Transport.take_eq_answer _)
  have hjournal := Blocking.journal_exchange_of_none hentered
    (setup.sends setup.baseHandshake.command)
  have hsent := Line.sent_exchange desk.entered.line (setup.sends setup.baseHandshake.command)
  have hgreeted : (Blocking.exchange desk.entered.line
      (setup.sends setup.baseHandshake.command)).2.connection.listener = none := by
    rw [Line.connection_exchange]
    exact hlistener
  have hid : (Blocking.exchange desk.entered.line
      (setup.sends setup.baseHandshake.command)).2.connection.description.id =
        desk.line.connection.description.id := by
    rw [Line.connection_exchange]
    rfl
  cases hchecked : Answer.checked _ desk.entered.address with
  | error e =>
      refine ⟨_, _, [], rfl, hsent, .inl rfl, hjournal, rfl, ?_⟩
      constructor
      · rintro ⟨opened, hopened⟩
        simp only [reduceCtorEq] at hopened
      · rintro ⟨reply, hreply⟩
        rw [hanswer, Answer.checked_eq_ok.mpr hreply] at hchecked
        simp only [reduceCtorEq] at hchecked
  | ok reply =>
      rw [hanswer] at hchecked
      have hok : ∃ reply, desk.line.connection.transport.answer 0 = .ok reply ∧
          reply.isOk = true :=
        ⟨reply, Answer.checked_eq_ok.mp hchecked⟩
      simp only [Blocking.runAt_probe]
      split
      · refine ⟨_, _, [setup.sends StatusProbe.command], rfl, ?_, .inr rfl, ?_, rfl,
          iff_of_true ⟨_, rfl⟩ hok⟩
        · exact (Line.sent_exchange _ _).trans (by rw [hsent, List.append_assoc]; rfl)
        · refine (Blocking.journal_exchange_of_none hgreeted _).trans ?_
          rw [hjournal, hid]
          simp only [Journal.hand, List.append_assoc]
          rfl
      · exact ⟨_, _, [], rfl, hsent, .inl rfl, hjournal, rfl, iff_of_true ⟨_, rfl⟩ hok⟩

/-- The first command of an application's connection is a handshake that is the plain one
    of the context but for what belongs to an authentication. -/
theorem Mode.erase_head_openConnection (mode : Mode) (setup : Setup) {desk : Desk}
    (hfresh : desk.line.connection.stage = .uninitialized)
    (hsent : desk.line.connection.transport.sent = []) {result : Option (Except Error Opened)}
    {after : Desk} (hopen : mode.openConnection setup desk = (result, after)) {first : Document}
    (hfirst : after.line.connection.transport.sent.head? = some first) :
    (first.erase Handshake.mechanismsKey).erase Handshake.speculativeKey =
      setup.sends setup.baseHandshake.plain.command := by
  rcases mode.course_openConnection setup hfresh with ⟨course, own, left, hcame, hperforms, hopens⟩
  rw [hopen, Prod.mk.injEq] at hcame
  rcases hcame with ⟨_, rfl⟩
  rw [hperforms.sent_eq, hsent, List.nil_append] at hfirst
  rcases hopens.head_commands hfirst with ⟨step, rfl⟩
  rw [Setup.sends, Command.erase_prepare _ _ _ (by decide) (by decide),
    Command.erase_prepare _ _ _ (by decide) (by decide), Handshake.erase_command]
  rfl

namespace Access

/-- Where the transports for monitoring come from: a factory of its own, or that for
    applications if they share one. -/
def heartbeatFactory (access : Access) : TransportFactory :=
  access.heartbeat.getD access.application

/-- What is left when a transport for monitoring has been made. -/
def withHeartbeat (access : Access) (factory : TransportFactory) : Access :=
  match access.heartbeat with
  | some _ => { access with heartbeat := some factory }
  | none => { access with application := factory }

theorem createTransport_monitoring (access : Access) (address : Address) :
    access.createTransport .monitoring address =
      ((access.heartbeatFactory.create address).1,
        access.withHeartbeat (access.heartbeatFactory.create address).2) := by
  unfold createTransport heartbeatFactory withHeartbeat
  cases access.heartbeat <;> rfl

theorem nextLocalValue_withHeartbeat (access : Access) (factory : TransportFactory) :
    (access.withHeartbeat factory).nextLocalValue = access.nextLocalValue := by
  unfold withHeartbeat
  cases access.heartbeat <;> rfl

theorem journal_withHeartbeat (access : Access) (factory : TransportFactory) :
    (access.withHeartbeat factory).journal = access.journal := by
  unfold withHeartbeat
  cases access.heartbeat <;> rfl

theorem connect_monitoring (access : Access) (context : Context) (server : ServerId) :
    access.connect context .monitoring server =
      match access.heartbeatFactory.create server.address with
      | (.error e, left) => (.error e, access.withHeartbeat left)
      | (.ok transport, left) =>
        (.ok (.make transport { server := server, localValue := access.nextLocalValue } none),
          { access.withHeartbeat left with nextLocalValue := access.nextLocalValue + 1 }) := by
  rw [connect, createTransport_monitoring]
  rcases access.heartbeatFactory.create server.address with ⟨transport, left⟩
  cases transport with
  | error e => rfl
  | ok transport =>
      simp only [nextLocalValue_withHeartbeat]
      rfl

/-- What an opening without an authentication, that nobody listens to, leaves behind:
    the same things are shared afterwards as were before, but that its commands have been
    handed over. -/
theorem attempt_unauthenticated (shared : Access) (mode : Mode) {setup : Setup}
    {fresh : Connection} (hsetup : setup.authenticator = .none)
    (hfresh : fresh.stage = .uninitialized) (hsent : fresh.transport.sent = [])
    (hlistener : fresh.listener = none) :
    ∃ connection result probe,
      ((⟨some (mode.openConnection setup (shared.desk fresh)).2.line.connection,
          (mode.openConnection setup (shared.desk fresh)).1⟩,
        shared.after (mode.openConnection setup (shared.desk fresh)).2) : Attempt × Access) =
        (⟨some connection, some result⟩, { shared with
          journal.trace := shared.journal.trace ++
            connection.transport.sent.map (Occurrence.handed fresh.description.id) }) ∧
      connection.transport.sent = setup.sends setup.baseHandshake.command :: probe ∧
      (probe = [] ∨ probe = [setup.sends StatusProbe.command]) ∧
      ((∃ opened, result = .ok opened) ↔
        ∃ reply, fresh.transport.answers[0]? = some (.ok reply) ∧ reply.isOk = true) := by
  rcases mode.openConnection_unauthenticated hsetup
    (show (shared.desk fresh).line.connection.stage = .uninitialized from hfresh) hlistener with
    ⟨result, after, probe, hopen, hafter, hprobe, hjournal, hcreated, hok⟩
  rw [hopen]
  have hcommands : after.line.connection.transport.sent =
      setup.sends setup.baseHandshake.command :: probe := by
    rw [hafter]
    exact congrArg (· ++ _) hsent
  refine ⟨after.line.connection, result, probe, ?_, hcommands, hprobe, ?_⟩
  · rw [Access.after, hjournal, hcreated, hcommands]
    rfl
  · rw [hok]
    simp only [← Transport.answer_eq_ok_iff]
    rfl

/-- The handshake for monitoring is that of any connection for an application that was
    sent one, once the two fields of an authentication are taken out. -/
theorem erase_head_application (access : Access) (context : Context) (mode : Mode)
    (server : ServerId) {connection : Connection} {first : Document}
    (hconnection : (access.openConnection context .application mode server).1.connection =
      some connection) (hfirst : connection.transport.sent.head? = some first) :
    (first.erase Handshake.mechanismsKey).erase Handshake.speculativeKey =
      (context.setup .monitoring).sends (context.setup .monitoring).baseHandshake.command := by
  have hplain : (context.setup .monitoring).baseHandshake =
      (context.setup .application).baseHandshake.plain :=
    (Setup.baseHandshake_of_unauthenticated rfl).trans (Setup.plain_baseHandshake rfl rfl rfl)
  rw [openConnection] at hconnection
  cases hconnect : access.connect context .application server with
  | mk connected left =>
      rw [hconnect] at hconnection
      cases connected with
      | error e => simp only [reduceCtorEq] at hconnection
      | ok fresh =>
          rcases connect_ok hconnect with ⟨hfresh, hsent⟩
          injection hconnection with hconnection
          rw [← hconnection] at hfirst
          rw [mode.erase_head_openConnection (context.setup .application) hfresh hsent rfl hfirst,
            hplain]
          rfl

/-- The handshake for monitoring has nothing of an authentication. -/
theorem contains_handshake_monitoring (context : Context) {key : String}
    (hkey : key = Handshake.mechanismsKey ∨ key = Handshake.speculativeKey) :
    ((context.setup .monitoring).sends
      (context.setup .monitoring).baseHandshake.command).contains key = false := by
  have hplain : (context.setup .monitoring).baseHandshake =
      (context.setup .monitoring).baseHandshake.plain :=
    Setup.baseHandshake_of_unauthenticated rfl
  rw [hplain, Document.contains, Setup.sends]
  rcases hkey with rfl | rfl
  · rw [Command.get?_prepare _ _ _ (by decide) (by decide), Handshake.mechanisms_command]
    rfl
  · rw [Command.get?_prepare _ _ _ (by decide) (by decide), Handshake.speculative_command]
    rfl

/-- Opening a connection for monitoring takes a transport of the factory for it, and
    changes nothing that openings share but the number of the next connection. Nothing is
    done for its commands but handing them over: no listener is told and no request number
    is taken. Over the transport goes the handshake of an application's connection, without
    the two fields of an authentication, and a probe at most. It succeeds if the reply to the
    handshake reports success. No other credential and no other listener would make a
    difference. -/
theorem openConnection_monitoring (access : Access) (context : Context) (mode : Mode)
    (server : ServerId) :
    ∃ handshake : Document,
      handshake.contains Handshake.mechanismsKey = false ∧
      handshake.contains Handshake.speculativeKey = false ∧
      (∀ (other : Access) (mode' : Mode) (server' : ServerId) (connection : Connection)
          (first : Document),
        (other.openConnection context .application mode' server').1.connection = some connection →
        connection.transport.sent.head? = some first →
        (first.erase Handshake.mechanismsKey).erase Handshake.speculativeKey = handshake) ∧
      (∀ credential listener,
        access.openConnection { context with credential := credential, listener := listener }
            .monitoring mode server =
          access.openConnection context .monitoring mode server) ∧
      match access.heartbeatFactory.create server.address with
      | (.error e, left) =>
        access.openConnection context .monitoring mode server =
          (⟨none, some (.error e)⟩, access.withHeartbeat left)
      | (.ok transport, left) =>
        ∃ connection result probe,
          access.openConnection context .monitoring mode server =
            (⟨some connection, some result⟩, { access.withHeartbeat left with
              journal.trace := access.journal.trace ++ connection.transport.sent.map
                (Occurrence.handed { server := server, localValue := access.nextLocalValue })
              nextLocalValue := access.nextLocalValue + 1 }) ∧
          connection.transport.sent = handshake :: probe ∧
          (probe = [] ∨ probe =
            [Command.prepare StatusProbe.command Command.adminDatabase context.api]) ∧
          ((∃ opened, result = .ok opened) ↔
            ∃ reply, transport.answers[0]? = some (.ok reply) ∧ reply.isOk = true) := by
  refine ⟨(context.setup .monitoring).sends (context.setup .monitoring).baseHandshake.command,
    contains_handshake_monitoring context (.inl rfl),
    contains_handshake_monitoring context (.inr rfl),
    fun other mode' server' _ _ hconnection hfirst =>
      other.erase_head_application context mode' server' hconnection hfirst,
    fun _ _ => rfl, ?_⟩
  have hconnect := access.connect_monitoring context server
  rw [openConnection]
  rcases hcreate : access.heartbeatFactory.create server.address with ⟨transport, left⟩
  rw [hcreate] at hconnect
  cases transport with
  | error e =>
      simp only [] at hconnect
      simp only [hconnect]
  | ok transport =>
      simp only [] at hconnect
      simp only [hconnect]
      rcases connect_ok hconnect with ⟨hfresh, hsent⟩
      rw [← access.journal_withHeartbeat left]
      exact attempt_unauthenticated { access.withHeartbeat left with
        nextLocalValue := access.nextLocalValue + 1 } mode rfl hfresh hsent rfl

end Access

end DocumentLink
