import DocumentLink.Proofs.Likeness

/-!
# Passwords Are Not Seen

Open a connection twice, with two passwords and the same answers from the server. A
prover may send other data for another password, and that is the only way for the
password to go anywhere. The data is in three places of what is sent: `saslStart`,
`saslContinue` and the step inside a handshake. Listeners are shown none of these
commands, failures name the credential by its text, which leaves the password out,
and nothing that is decided depends on what was sent.

So whoever watches from inside the process sees the same both times: what the
listener is told, the connection and its descriptions, and the result. An error is
seen as a chain of levels, each with its kind, its code and its text.

Of the provers nothing is asked but that they go on or fail at the same steps, and
fail with errors that look the same. A prover for which this is false does itself
tell the passwords apart.

## Main definitions

* `Error.levels`: What is seen of an error.
* `Command.masked`: A command without the data of its step.
* `Command.Veils`: Two commands that differ in this data only and are shown alike.
* `Line.Veiled`: Two lines that differ only in such commands.
* `Likeness.veiled`: The likeness of openings with two passwords.
* `Provider.Conceals`: Provers that fail at the same steps for two credentials.

## Theorems

* `Line.Veiled.exchange`: A listener is told the same about commands that differ in
  their data only.
* `Setup.veiled_withPassword`: The setups for two passwords are alike.
* `Provider.conceals_plain`: The plain mechanism conceals passwords.
* `Credential.password_unseen`: Openings with two passwords cannot be told apart.
-/

namespace DocumentLink

open Json (Value)

namespace Error

/-- What is seen of an error, from itself to the last failure behind it. -/
def levels (e : Error) : List Level :=
  e.links.map Link.level

theorem head?_levels (e : Error) : e.levels.head? = some e.level := by
  cases e <;> rfl

theorem kind_eq_of_levels {e e' : Error} (h : e.levels = e'.levels) : e.kind = e'.kind := by
  have hlevel : some e.level = some e'.level := by rw [← head?_levels, ← head?_levels, h]
  injection hlevel with hlevel
  have hkind := congrArg Level.kind hlevel
  injection hkind

end Error

namespace Document

/-- The document with the value of a key changed, if it has the key. -/
def mapField (d : Document) (key : String) (f : Value → Value) : Document :=
  ⟨d.fields.map fun field => if field.1 = key then (field.1, f field.2) else field⟩

variable (d : Document) {key other : String} (f : Value → Value) (value : Value)

/-- A value that is put and then changed could have been put as it is in the end. -/
theorem mapField_insert_self :
    (d.insert key value).mapField key f = (d.mapField key f).insert key (f value) := by
  rcases d with ⟨fields⟩
  simp only [insert, mapField, mk.injEq]
  induction fields with
  | nil => simp only [insertField, List.map_cons, List.map_nil, if_true]
  | cons field rest ih =>
      rcases field with ⟨k, v⟩
      by_cases hkey : k = key
      · subst hkey
        rw [insertField, if_pos rfl, List.map_cons, List.map_cons, if_pos rfl, if_pos rfl,
          insertField, if_pos rfl]
      · rw [insertField, if_neg hkey, List.map_cons, List.map_cons, if_neg hkey, insertField,
          if_neg hkey, ih]

theorem mapField_insert_of_ne (h : other ≠ key) :
    (d.insert other value).mapField key f = (d.mapField key f).insert other value := by
  rcases d with ⟨fields⟩
  simp only [insert, mapField, mk.injEq]
  induction fields with
  | nil => simp only [insertField, List.map_cons, List.map_nil, if_neg h]
  | cons field rest ih =>
      rcases field with ⟨k, v⟩
      have hname : (if k = key then (k, f v) else (k, v)).1 = k := by split <;> rfl
      -- The value goes into the field that is found first, and is put last if there is none.
      by_cases hother : k = other
      · subst hother
        rw [insertField, if_pos rfl, List.map_cons, List.map_cons, if_neg h, if_neg h, insertField,
          if_pos rfl]
      · rw [insertField, if_neg hother, List.map_cons, List.map_cons, ih]
        by_cases hkey : k = key
        · rw [if_pos hkey, insertField, if_neg hother]
        · rw [if_neg hkey, insertField, if_neg hother]

theorem mapField_insertSome_of_ne (value : Option Value) (h : other ≠ key) :
    (d.insertSome other value).mapField key f = (d.mapField key f).insertSome other value := by
  cases value with
  | none => rfl
  | some value => exact mapField_insert_of_ne d f value h

theorem mapField_foldl_insert (fields : List (String × Value))
    (h : ∀ field ∈ fields, field.1 ≠ key) :
    (fields.foldl (fun d field => d.insert field.1 field.2) d).mapField key f =
      fields.foldl (fun d field => d.insert field.1 field.2) (d.mapField key f) := by
  induction fields generalizing d with
  | nil => rfl
  | cons field rest ih =>
      rw [List.foldl_cons, List.foldl_cons, ih _ fun g hg => h g (List.mem_cons_of_mem _ hg),
        mapField_insert_of_ne _ _ _ (h field List.mem_cons_self)]

/-- The document without the data of a step. -/
def withoutPayload : Document :=
  d.mapField Sasl.payloadKey fun _ => .null

end Document

namespace Command

/-- Preparing a command and changing a field do not get in each other's way. -/
theorem mapField_prepare (command : Document) (database : String) (api : Option ServerApi)
    {key : String} (f : Value → Value) (hdatabase : key ≠ databaseKey)
    (hkeys : key ∉ ServerApi.keys) :
    (prepare command database api).mapField key f =
      prepare (command.mapField key f) database api := by
  have haddressed := command.mapField_insert_of_ne f (.string database) (Ne.symm hdatabase)
  cases api with
  | none => exact haddressed
  | some api =>
      refine (Document.mapField_foldl_insert _ f api.fields fun field hfield heq => ?_).trans ?_
      · exact hkeys (heq ▸ api.mem_keys_of_mem_fields hfield)
      · rw [haddressed]
        rfl

/-- A step inside a handshake without its data. -/
def maskedStep (value : Value) : Value :=
  (value.document?.map fun step => Value.ofDocument step.withoutPayload).getD value

/-- A command without the data of its step, if it is one or carries one. -/
def masked (command : Document) : Document :=
  match command.name? with
  | none => command
  | some name =>
    if name = "saslStart" ∨ name = "saslContinue" then command.withoutPayload
    else if Handshake.isName name then command.mapField Handshake.speculativeKey maskedStep
    else command

/-- Two commands that differ in the data of their steps only, and of which a listener is
    shown the same. -/
structure Veils (c d : Document) : Prop where
  masked_eq : masked c = masked d
  name_eq : c.name? = d.name?
  database_eq : c.string? databaseKey = d.string? databaseKey
  sensitive_eq : isSensitive c = isSensitive d
  redact_eq : redact c (isSensitive c) = redact d (isSensitive d)

theorem Veils.refl (c : Document) : Veils c c :=
  ⟨rfl, rfl, rfl, rfl, rfl⟩

variable {c d : Document} {database : String} {api : Option ServerApi}

/-- A listener is shown neither of two sensitive commands. -/
theorem veils_of_sensitive (hmasked : masked c = masked d) (hname : c.name? = d.name?)
    (hdatabase : c.string? databaseKey = d.string? databaseKey) (hc : isSensitive c = true)
    (hd : isSensitive d = true) : Veils c d := by
  refine ⟨hmasked, hname, hdatabase, hc.trans hd.symm, ?_⟩
  rw [hc, hd]
  rfl

theorem masked_of_sasl {name : String} (hname : c.name? = some name)
    (hsasl : name = "saslStart" ∨ name = "saslContinue") : masked c = c.withoutPayload := by
  rw [masked, hname]
  exact if_pos hsasl

/-- Two commands of a conversation differ in their data only. -/
theorem veils_of_sasl {name : String} (hc : c.name? = some name) (hd : d.name? = some name)
    (hsasl : name = "saslStart" ∨ name = "saslContinue")
    (hpayload : c.withoutPayload = d.withoutPayload) :
    Veils (prepare c database api) (prepare d database api) := by
  have hc' := name?_prepare hc database api
  have hd' := name?_prepare hd database api
  -- Both names are among those of the sensitive commands.
  have hlisted : Handshake.isName name = false ∧ (sensitiveNames.any fun sensitive =>
      Handshake.foldCase sensitive = Handshake.foldCase name) = true := by
    rcases hsasl with rfl | rfl <;> decide
  have hsensitive : ∀ e : Document, e.name? = some name → isSensitive e = true := by
    intro e he
    rw [isSensitive, he]
    simp only [hlisted.1, Bool.false_eq_true, if_false]
    exact hlisted.2
  refine veils_of_sensitive ?_ (hc'.trans hd'.symm) ?_ (hsensitive _ hc') (hsensitive _ hd')
  · rw [masked_of_sasl hc' hsasl, masked_of_sasl hd' hsasl, Document.withoutPayload,
      Document.withoutPayload, mapField_prepare _ _ _ _ (by decide) (by decide),
      mapField_prepare _ _ _ _ (by decide) (by decide)]
    exact congrArg (prepare · database api) hpayload
  · rw [database_prepare, database_prepare]

end Command

namespace Sasl

theorem withoutPayload_start (mechanism : Mechanism) (data data' : Bytes)
    (database : Option String) :
    (start mechanism data database).withoutPayload =
      (start mechanism data' database).withoutPayload := by
  have hmask : ∀ payload, (start mechanism payload database).withoutPayload =
      (((((Document.command "saslStart").insert "mechanism" (.string mechanism.name)).mapField
        payloadKey fun _ => .null).insert payloadKey .null).insertSome "options"
          (if mechanism.isSpeculative then some options else none)).insertSome "db"
            (database.map .string) := by
    intro payload
    rw [start, Document.withoutPayload, Document.mapField_insertSome_of_ne _ _ _ (by decide),
      Document.mapField_insertSome_of_ne _ _ _ (by decide), Document.mapField_insert_self]
  rw [hmask, hmask]

theorem withoutPayload_advance (conversation : Value) (data data' : Bytes) :
    (advance conversation data).withoutPayload = (advance conversation data').withoutPayload := by
  rw [advance, advance, Document.withoutPayload, Document.withoutPayload,
    Document.mapField_insert_self, Document.mapField_insert_self]

end Sasl

namespace Handshake

theorem isName_name (h : Handshake) : isName h.name = true := by
  rw [name]
  cases h.hello <;> decide

theorem name_ne_sasl (h : Handshake) : ¬ (h.name = "saslStart" ∨ h.name = "saslContinue") := by
  rw [name]
  cases h.hello <;> decide

/-- Two handshakes that differ in the data of the steps they carry. Carrying a step makes
    a handshake one that listeners are not shown. -/
theorem veils_command (h : Handshake) (mechanism : Mechanism) (data data' : Bytes)
    (source database : String) (api : Option ServerApi) :
    Command.Veils
      (Command.prepare { h with
        speculative := some (Sasl.start mechanism data (some source)) }.command database api)
      (Command.prepare { h with
        speculative := some (Sasl.start mechanism data' (some source)) }.command database api) := by
  let carrying (data : Bytes) : Handshake :=
    { h with speculative := some (Sasl.start mechanism data (some source)) }
  have hname : ∀ data, (Command.prepare (carrying data).command database api).name? =
      some h.name := fun data => Command.name?_prepare (carrying data).name?_command _ _
  have hsensitive : ∀ data,
      Command.isSensitive (Command.prepare (carrying data).command database api) = true := by
    intro data
    rw [Command.isSensitive, hname]
    -- A handshake is sensitive for the step that it carries, not for its name.
    simp only [h.isName_name, if_true]
    rw [Document.contains, Command.get?_prepare _ _ _ (by decide) (by decide), speculative_command]
    rfl
  have hmasked : ∀ data,
      Command.masked (Command.prepare (carrying data).command database api) =
        Command.prepare (({ h with speculative := none : Handshake }.command.mapField speculativeKey
          Command.maskedStep).insert speculativeKey
            (.ofDocument (Sasl.start mechanism data (some source)).withoutPayload))
          database api := by
    intro data
    rw [Command.masked, hname]
    simp only [h.name_ne_sasl, if_false, h.isName_name, if_true]
    rw [Command.mapField_prepare _ _ _ _ (by decide) (by decide)]
    show Command.prepare ((Document.insert _ speculativeKey _).mapField _ _) database api = _
    rw [Document.mapField_insert_self]
    rfl
  refine Command.veils_of_sensitive ?_ ((hname data).trans (hname data').symm) ?_ (hsensitive data)
    (hsensitive data')
  · show Command.masked (Command.prepare (carrying data).command database api) =
      Command.masked (Command.prepare (carrying data').command database api)
    rw [hmasked, hmasked, Sasl.withoutPayload_start mechanism data data']
  · rw [Command.database_prepare, Command.database_prepare]

end Handshake

namespace Line

/-- Everything there is about a connection but what was sent. -/
def unsent (line : Line) : Connection :=
  { line.connection with transport.sent := [] }

/-- What a listener is told about an exchange. -/
def told (line : Line) (command : Document) (answer : Answer) : List Event :=
  let id := line.connection.description.id
  let request := line.journal.nextRequest
  let name := command.name?.getD ""
  let sensitive := Command.isSensitive command
  [.started request id ((command.string? Command.databaseKey).getD "") name
      (Command.redact command sensitive),
    match answer with
    | .ok reply => .succeeded request id name (Command.redact reply sensitive)
    | .error e => .failed request id name e.copy]

/-- The journal after an exchange: a listener that keeps what it is told has been told of
    it, and a number has been used up if there is a listener at all. -/
theorem journal_exchange (line : Line) (command : Document) :
    (Blocking.exchange line command).2.journal.events =
        line.journal.events ++
          (if line.connection.listener = some .recording then
            line.told command line.connection.transport.take.1 else []) ∧
      (Blocking.exchange line command).2.journal.nextRequest =
        line.journal.nextRequest + (if line.connection.listener = none then 0 else 1) := by
  rw [← Blocking.exchange_fst line command]
  simp only [Blocking.exchange, Line.take, Line.send, announce, number, tellStarted, report]
  cases hlistener : line.connection.listener with
  | none => exact ⟨(List.append_nil _).symm, rfl⟩
  | some listener =>
      simp only [Journal.events_tell, Journal.nextRequest_tell, Journal.hand, Journal.takeRequest]
      cases listener with
      | silent =>
          refine ⟨?_, rfl⟩
          simp only [Option.some.injEq, reduceCtorEq, if_false, List.append_nil]
      | recording =>
          refine ⟨?_, rfl⟩
          rw [if_pos rfl, if_pos rfl, List.append_assoc]
          rfl

/-- Two lines that differ in the data of what was sent only. -/
structure Veiled (x y : Line) : Prop where
  unsent : x.unsent = y.unsent
  sent : x.connection.transport.sent.map Command.masked =
    y.connection.transport.sent.map Command.masked
  events : x.journal.events = y.journal.events
  nextRequest : x.journal.nextRequest = y.journal.nextRequest

namespace Veiled

variable {x y : Line}

/-- Whatever does not depend on what was sent is the same. -/
theorem congr {α : Type} (h : x.Veiled y) (f : Connection → α)
    (hf : ∀ line : Line, f line.connection = f line.unsent) : f x.connection = f y.connection := by
  rw [hf, hf, h.unsent]

theorem answer_eq (h : x.Veiled y) :
    x.connection.transport.take.1 = y.connection.transport.take.1 := by
  refine h.congr (fun connection => connection.transport.take.1) fun line => ?_
  simp only [Line.unsent, Transport.take]
  split <;> rfl

/-- A listener is told the same about commands that differ in their data only. -/
theorem told_eq (h : x.Veiled y) {c d : Document} (hcommand : Command.Veils c d)
    (answer : Answer) : x.told c answer = y.told d answer := by
  have hid : x.connection.description.id = y.connection.description.id :=
    h.congr (fun connection => connection.description.id) fun _ => rfl
  simp only [told, hid, h.nextRequest, hcommand.name_eq, hcommand.database_eq,
    hcommand.redact_eq]
  rw [hcommand.sensitive_eq]

theorem exchange (h : x.Veiled y) {c d : Document} (hcommand : Command.Veils c d) :
    (Blocking.exchange x c).2.Veiled (Blocking.exchange y d).2 := by
  -- But for what was sent, an exchange does to a connection what any other one does.
  have hunsent : ∀ (line : Line) (command : Document),
      (Blocking.exchange line command).2.unsent = line.unsent.taking := by
    intro line command
    rw [Line.unsent, connection_exchange]
    simp only [Line.unsent, Connection.taking, Transport.send, Transport.take_snd]
  have hlistener : x.connection.listener = y.connection.listener :=
    h.congr Connection.listener fun _ => rfl
  rcases x.journal_exchange c with ⟨hevents, hrequest⟩
  rcases y.journal_exchange d with ⟨hevents', hrequest'⟩
  refine ⟨?_, ?_, ?_, ?_⟩
  · rw [hunsent, hunsent, h.unsent]
  · rw [sent_exchange, sent_exchange, List.map_append, List.map_append, h.sent]
    exact congrArg (fun last => _ ++ [last]) hcommand.masked_eq
  · rw [hevents, hevents', h.events, hlistener, h.answer_eq, h.told_eq hcommand]
  · rw [hrequest, hrequest', h.nextRequest, hlistener]

end Veiled

end Line

namespace Likeness

/-- The likeness of openings with two passwords: they send commands that differ in their
    data, fail with errors that look the same, and learn the same. -/
def veiled : Likeness where
  lines := Line.Veiled
  commands := Command.Veils
  errors e e' := e.levels = e'.levels
  data _ _ := True
  counts := Eq
  opened := Eq
  address_eq h := h.congr Connection.address fun _ => rfl
  note {x y} observed observed' call call' h := by
    refine ⟨h.unsent, h.sent, ?_, ?_⟩
    · cases observed <;> cases observed' <;> exact h.events
    · cases observed <;> cases observed' <;> exact h.nextRequest
  answer_eq h _ := by
    rw [Blocking.exchange_fst, Blocking.exchange_fst, h.answer_eq]
  exchange h hcommand := h.exchange hcommand
  ofReply reply h := h.congr (fun connection => Opened.ofReply connection reply) fun _ => rfl
  enter {x y} h := by
    refine ⟨?_, h.sent, h.events, h.nextRequest⟩
    show { x.unsent with stage := .initializing } = { y.unsent with stage := .initializing }
    rw [h.unsent]
  settle {x y r r'} h hresult := by
    have hsettled : (x.unsent.settle r) = (y.unsent.settle r') := by
      rw [h.unsent]
      cases hresult with
      | ok hopened => rw [hopened]
      | error _ => rfl
    cases hresult with
    | ok _ => exact ⟨hsettled, h.sent, h.events, h.nextRequest⟩
    | error _ => exact ⟨hsettled, h.sent, h.events, h.nextRequest⟩
  errors_refl _ := rfl
  kind_eq h := Error.kind_eq_of_levels h
  count h := congrArg (· + 1) h
  serverType_eq h := congrArg (fun o => o.connection.serverType) h
  negotiated_eq h := congrArg (fun o => o.connection.negotiated) h
  needsProbe_eq h := congrArg Opened.needsProbe h
  withServerValue n h := congrArg (fun o => Opened.withServerValue o n) h

end Likeness

/-- The credential with a password. -/
def Credential.withPassword (c : Credential) (password : String) : Credential :=
  { c with password := some password }

/-- The provers that a provider makes for two credentials go on and fail at the same
    steps, with errors that look the same; they may differ in their data. -/
def Provider.Conceals (provider : Provider) (c c' : Credential) : Prop :=
  ∀ n mechanism, Option.Rel (Prover.Alike .veiled) (provider.create n mechanism c)
    (provider.create n mechanism c')

/-- The plain mechanism puts the password into its data, and looks at it nowhere else. -/
theorem Provider.conceals_plain (c : Credential) (password password' : String) :
    plain.Conceals (c.withPassword password) (c.withPassword password') := by
  intro n mechanism
  simp only [plain]
  by_cases hplain : mechanism = .plain
  · rw [if_pos hplain, if_pos hplain]
    exact .some ⟨rfl, .ok trivial, fun _ => .error rfl, fun _ _ => .ok rfl⟩
  · rw [if_neg hplain, if_neg hplain]
    exact .none

section Passwords

variable {credential : Credential} {password password' : String} {provider : Provider}
  {api : Option ServerApi}

/-- A failure is named after the credential by its text, which has no password. -/
theorem Credential.veiled_withPassword :
    (credential.withPassword password).Alike .veiled (credential.withPassword password') := by
  intro e e' herror
  exact congrArg (List.cons _) herror

theorem Login.veiled_withPassword
    (h : provider.Conceals (credential.withPassword password) (credential.withPassword password')) :
    (Login.mk (credential.withPassword password) provider api).Alike .veiled
      (Login.mk (credential.withPassword password') provider api) where
  mechanism := rfl
  credential := Credential.veiled_withPassword
  create {n n'} mechanism hcount := by
    rw [show n = n' from hcount]
    exact h n' mechanism
  start {data data'} mechanism _ :=
    Command.veils_of_sasl (Sasl.name?_start _ _ _) (Sasl.name?_start _ _ _) (.inl rfl)
      (Sasl.withoutPayload_start mechanism data data' none)
  advance {data data'} conversation _ :=
    Command.veils_of_sasl (Sasl.name?_advance _ _) (Sasl.name?_advance _ _) (.inr rfl)
      (Sasl.withoutPayload_advance conversation data data')

theorem Setup.baseHandshake_withPassword (setup : Setup) :
    (setup.withCredential ⟨credential.withPassword password, provider⟩ api).baseHandshake =
      (setup.withCredential ⟨credential.withPassword password', provider⟩ api).baseHandshake := by
  rcases credential with ⟨mechanism, user, source, _, properties⟩
  -- the authenticator is chosen by the mechanism, and only one asks for the user
  cases mechanism with
  | none => rfl
  | some mechanism => cases mechanism <;> rfl

/-- The setups for two passwords are alike, whichever way the credential is authenticated
    with. -/
theorem Setup.veiled_withPassword (setup : Setup)
    (h : provider.Conceals (credential.withPassword password) (credential.withPassword password')) :
    (setup.withCredential ⟨credential.withPassword password, provider⟩ api).Alike .veiled
      (setup.withCredential ⟨credential.withPassword password', provider⟩ api) where
  authenticator := by
    have hlogin : (Login.mk (credential.withPassword password) provider api).Alike .veiled
        (Login.mk (credential.withPassword password') provider api) :=
      Login.veiled_withPassword h
    simp only [withCredential, Authenticator.ofCredential]
    rw [show (credential.withPassword password).mechanism = credential.mechanism from rfl,
      show (credential.withPassword password').mechanism = credential.mechanism from rfl]
    cases credential.mechanism with
    | none => exact .negotiating hlogin
    | some mechanism =>
        cases mechanism with
        | certificate => exact .certificate Credential.veiled_withPassword (Command.Veils.refl _)
        | _ => exact .speculative hlogin
  plain := by
    rw [setup.baseHandshake_withPassword]
    exact Command.Veils.refl _
  carrying {login login' data data'} mechanism hlogin hlogin' _ := by
    rw [Authenticator.login_of_speculative hlogin, Authenticator.login_of_speculative hlogin',
      carries, carries, setup.baseHandshake_withPassword]
    exact Handshake.veils_command _ mechanism data data' credential.source _ _
  probe := Command.Veils.refl _

end Passwords

/-- Openings with two passwords cannot be told apart. Open a connection with either of
    two credentials that differ in the password only, with any setup, in either mode and
    with the same answers to come, and let the provider conceal the password, as that of
    the plain mechanism does. The results are the same, or errors that look the same at
    every level; a listener is told the same; the connections are the same but for what
    was sent; and that differs in the data of the steps of a conversation only. The
    written forms of the two credentials are the same as well. -/
theorem Credential.password_unseen (credential : Credential) (password password' : String) :
    (credential.withPassword password).text = (credential.withPassword password').text ∧
    (credential.withPassword password).inspected =
      (credential.withPassword password').inspected ∧
    Provider.plain.Conceals (credential.withPassword password)
      (credential.withPassword password') ∧
    ∀ provider : Provider,
      provider.Conceals (credential.withPassword password) (credential.withPassword password') →
      ∀ (mode : Mode) (setup : Setup) (api : Option ServerApi) (transport : Transport)
        (id : ConnectionId) (listener : Option Listener) (journal : Journal) (created : Nat),
        ∃ result result' after after',
          mode.openConnection
              (setup.withCredential ⟨credential.withPassword password, provider⟩ api)
              (.fresh transport id listener journal created) = (some result, after) ∧
          mode.openConnection
              (setup.withCredential ⟨credential.withPassword password', provider⟩ api)
              (.fresh transport id listener journal created) = (some result', after') ∧
          Paired (fun e e' => e.levels = e'.levels) Eq result result' ∧
          after.line.Veiled after'.line := by
  refine ⟨rfl, rfl, Provider.conceals_plain credential password password', ?_⟩
  intro provider hconceals mode setup api transport id listener journal created
  have hfresh : (Desk.fresh transport id listener journal created).line.connection.stage =
      .uninitialized := rfl
  have hdesks : Likeness.veiled.Desks (.fresh transport id listener journal created)
      (.fresh transport id listener journal created) := ⟨⟨rfl, rfl, rfl, rfl⟩, rfl⟩
  rcases Likeness.openConnection (setup.veiled_withPassword hconceals) (Setup.admits_empty _)
      (Setup.admits_empty _) hdesks hfresh hfresh mode mode with
    ⟨result, result', after, after', hopened, hopened', hresult, hafter⟩
  exact ⟨result, result', after, after', hopened, hopened', hresult, hafter.line⟩

/-- A listener that watches the plain mechanism does not learn the password. -/
theorem Credential.password_unseen_plain :
    ∃ result result' after after',
      Mode.blocking.openConnection
          (({} : Setup).withCredential ⟨((make "admin" (some "user") none).withMechanism
            .plain).withPassword "pencil", .plain⟩ none)
          (.fresh (.scripted .localhost [.ok ⟨[("ok", .bool true)]⟩,
            .ok ⟨[("ok", .bool true), ("conversationId", .null), ("done", .bool true)]⟩])
            ⟨⟨.draw 0 none, .localhost⟩, 1, none⟩ (some .recording) {} 0) =
        (some result, after) ∧
      Mode.blocking.openConnection
          (({} : Setup).withCredential ⟨((make "admin" (some "user") none).withMechanism
            .plain).withPassword "eraser", .plain⟩ none)
          (.fresh (.scripted .localhost [.ok ⟨[("ok", .bool true)]⟩,
            .ok ⟨[("ok", .bool true), ("conversationId", .null), ("done", .bool true)]⟩])
            ⟨⟨.draw 0 none, .localhost⟩, 1, none⟩ (some .recording) {} 0) =
        (some result', after') ∧
      after.line.journal.events = after'.line.journal.events := by
  rcases password_unseen ((make "admin" (some "user") none).withMechanism .plain) "pencil" "eraser"
    with ⟨_, _, hplain, hopening⟩
  rcases hopening .plain hplain .blocking {} none _ _ _ _ _ with
    ⟨result, result', after, after', hopened, hopened', _, hveiled⟩
  exact ⟨result, result', after, after', hopened, hopened', hveiled.events⟩

end DocumentLink
