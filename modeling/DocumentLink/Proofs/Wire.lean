import DocumentLink.Cluster.Access
import DocumentLink.Proofs.Commands
import DocumentLink.Proofs.Opening

/-!
# What an Opening Sends

The commands that opening a connection for an application sends, in order: a
handshake; then a conversation, which may have begun inside the handshake, or a
certificate; and then a status probe. Every part but the handshake may be
missing, and the conversation may break off anywhere. What each command asks for
is decided by the context, and by what the reply to the handshake says.

## Main definitions

* `Context.Greets`: A command is the handshake of a context.
* `Answer.OffersStronger`: The reply to the handshake lists the stronger mechanism.
* `CredentialConfig.Starts`, `CredentialConfig.Advances`, `CredentialConfig.Speaks`:
  The commands of a conversation.
* `Context.Talks`: The commands of an authentication.
* `Document.Asks`: A command asks for the server's number.
* `Context.Word`: The commands of an opening.

## Theorems

* `ConnectionDescription.negotiated_ofReply`: Which mechanism a reply decides on.
* `Setup.Prepares.greets`, `Login.Runs.speaks`, `Setup.Authorizes.talks`,
  `Setup.Probes.asks`: What the parts of an opening send.
* `Access.openConnection_word`: What opening a connection to a server sends.
-/

namespace DocumentLink

open Json (Value)

/-- A provider's provers report the mechanism they were made for. -/
def Provider.Honest (provider : Provider) : Prop :=
  ∀ made mechanism credential prover,
    provider.create made mechanism credential = some prover → prover.mechanism = mechanism

theorem Provider.honest_plain : Provider.plain.Honest := by
  intro made mechanism credential prover hcreate
  simp only [plain] at hcreate
  by_cases hmechanism : mechanism = .plain
  · rw [if_pos hmechanism] at hcreate
    injection hcreate with hcreate
    rw [← hcreate, hmechanism]
    rfl
  · rw [if_neg hmechanism] at hcreate
    simp only [reduceCtorEq] at hcreate

/-- The answer to a handshake is a reply that lists the stronger mechanism. -/
def Answer.OffersStronger (answer : Answer) : Prop :=
  ∃ reply items, answer = .ok reply ∧
    reply.get? Handshake.mechanismsKey = some (.array items) ∧
    .string Mechanism.scramSha256.name ∈ items

/-- A command is the handshake of a context. -/
structure Context.Greets (context : Context) (command : Document) : Prop where
  name : command.name? =
    some (if context.api.isSome then Handshake.helloName else Handshake.legacyName)
  database : command.string? Command.databaseKey = some Command.adminDatabase
  /-- It asks for mechanisms if a user is known by name whose mechanism is not. -/
  mechanisms : ∀ value, command.get? Handshake.mechanismsKey = some value ↔
    ∃ config user, context.credential = some config ∧ config.credential.mechanism = none ∧
      config.credential.userName = some user ∧
      value = .string s!"{config.credential.source}.{user}"
  /-- It carries a step of an authentication if the mechanism allows that. -/
  speculative : command.contains Handshake.speculativeKey = true ↔
    ∃ config, context.credential = some config ∧
      (config.credential.mechanism = some .scramSha1 ∨
        config.credential.mechanism = some .scramSha256)
  exclusive : ¬ (command.contains Handshake.mechanismsKey = true ∧
    command.contains Handshake.speculativeKey = true)

/-- A mechanism is the one that the answer to the handshake decides on, where the
    credential fixes none and the provider is honest. -/
def CredentialConfig.Chooses (config : CredentialConfig) (greeted : Answer)
    (mechanism : Mechanism) : Prop :=
  config.provider.Honest → config.credential.mechanism = none →
    (greeted.OffersStronger → mechanism = .scramSha256) ∧
      (¬ greeted.OffersStronger → mechanism = .scramSha1)

/-- A command opens a conversation for a credential, after an answer to the
    handshake. -/
structure CredentialConfig.Starts (config : CredentialConfig) (greeted : Answer)
    (command : Document) : Prop where
  name : command.name? = some "saslStart"
  database : command.string? Command.databaseKey = some config.credential.source
  mechanism : ∃ mechanism, command.string? "mechanism" = some mechanism.name ∧
    config.Chooses greeted mechanism

/-- A command goes on with a conversation for a credential. -/
structure CredentialConfig.Advances (config : CredentialConfig) (command : Document) : Prop where
  name : command.name? = some "saslContinue"
  database : command.string? Command.databaseKey = some config.credential.source

/-- The commands of a conversation: it is opened at most once, and then goes on. One
    that was opened inside the handshake is not opened again. -/
def CredentialConfig.Speaks (config : CredentialConfig) (greeted : Answer)
    (commands : List Document) : Prop :=
  ∃ (start : Option Document) (advances : List Document), commands = start.toList ++ advances ∧
    (∀ command ∈ start, config.Starts greeted command) ∧
    ∀ command ∈ advances, config.Advances command

theorem CredentialConfig.Speaks.of_advances {config : CredentialConfig} {greeted : Answer}
    {commands : List Document} (h : ∀ command ∈ commands, config.Advances command) :
    config.Speaks greeted commands :=
  ⟨none, commands, rfl, fun _ hnone => absurd hnone (Option.not_mem_none _), h⟩

theorem CredentialConfig.Speaks.of_start {config : CredentialConfig} {greeted : Answer}
    {start : Document} {commands : List Document} (hstart : config.Starts greeted start)
    (h : ∀ command ∈ commands, config.Advances command) :
    config.Speaks greeted (start :: commands) := by
  refine ⟨some start, commands, rfl, ?_, h⟩
  intro command hcommand
  rw [← Option.mem_some.mp hcommand]
  exact hstart

/-- The commands of an authentication, after an answer to the handshake. -/
inductive Context.Talks (context : Context) (greeted : Answer) : List Document → Prop where
  | silent : Talks context greeted []
  | conversation {config : CredentialConfig} {commands : List Document}
      (hcredential : context.credential = some config)
      (hmechanism : config.credential.mechanism ≠ some .certificate)
      (hspeaks : config.Speaks greeted commands) : Talks context greeted commands
  | certificate {config : CredentialConfig} {command : Document}
      (hcredential : context.credential = some config)
      (hmechanism : config.credential.mechanism = some .certificate)
      (hname : command.name? = some "authenticate")
      (hdatabase : command.string? Command.databaseKey = some Credential.externalSource) :
      Talks context greeted [command]

/-- A command asks for the server's number. -/
structure Document.Asks (command : Document) : Prop where
  name : command.name? = some "getlasterror"
  database : command.string? Command.databaseKey = some Command.adminDatabase

/-- The commands of an opening, by the answer to the handshake. -/
inductive Context.Word (context : Context) (greeted : Answer) : List Document → Prop where
  | unsent : Word context greeted []
  | sent {handshake : Document} {talk : List Document} {probe : Option Document}
      (hhandshake : context.Greets handshake) (htalk : context.Talks greeted talk)
      (hprobe : ∀ command ∈ probe, command.Asks) :
      Word context greeted (handshake :: (talk ++ probe.toList))

theorem Json.Value.text?_eq_some {value : Value} {text : String} :
    value.text? = some text ↔ value = .string text := by
  cases value with
  | string own =>
      rw [text?, Option.some.injEq, Value.string.injEq]
  | _ =>
      constructor <;> intro h <;> cases h

theorem Document.mem_strings {d : Document} {key text : String} :
    text ∈ d.strings key ↔ ∃ items, d.get? key = some (.array items) ∧ .string text ∈ items := by
  unfold strings
  split
  · rename_i items hget
    rw [List.mem_filterMap]
    constructor
    · rintro ⟨value, hmem, htext⟩
      rw [Json.Value.text?_eq_some.mp htext] at hmem
      exact ⟨items, hget, hmem⟩
    · rintro ⟨other, hother, hmem⟩
      rw [hget] at hother
      injection hother with hother
      injection hother with hother
      subst hother
      exact ⟨.string text, hmem, rfl⟩
  · rename_i hnot
    constructor
    · intro h
      cases h
    · rintro ⟨items, hget, _⟩
      exact absurd hget (hnot items)

/-- The mechanism that is decided on is the stronger one where it is offered. -/
theorem ConnectionDescription.negotiated_ofReply (id : ConnectionId) (reply : Document) :
    (Answer.OffersStronger (.ok reply) → (ofReply id reply).negotiated = .scramSha256) ∧
      (¬ Answer.OffersStronger (.ok reply) → (ofReply id reply).negotiated = .scramSha1) := by
  have hlisted : (((ofReply id reply).mechanisms.getD []).contains
      Mechanism.scramSha256.name) = true ↔ Answer.OffersStronger (.ok reply) := by
    rw [List.contains_iff_mem]
    -- The names are kept if there is a field for them, even if it holds no array.
    show Mechanism.scramSha256.name ∈ ((if reply.contains Handshake.mechanismsKey then
      some (reply.strings Handshake.mechanismsKey) else none : Option (List String)).getD []) ↔ _
    constructor
    · intro h
      split at h
      · rcases Document.mem_strings.mp h with ⟨items, hget, hmem⟩
        exact ⟨reply, items, rfl, hget, hmem⟩
      · cases h
    · rintro ⟨own, items, hown, hget, hmem⟩
      injection hown with hown
      subst hown
      rw [if_pos (by rw [Document.contains, hget]; rfl)]
      exact Document.mem_strings.mpr ⟨items, hget, hmem⟩
  rw [negotiated]
  constructor
  · intro h
    rw [if_pos (hlisted.mpr h)]
  · intro h
    rw [if_neg (fun hcontains => h (hlisted.mp hcontains))]

namespace Login

variable {config : CredentialConfig} {api : Option ServerApi} {address : Address}

theorem Converses.advances {running : Prover.Running} {reply : Sasl.Reply} {course : Course}
    {result : Except Error Unit} (h : (ofConfig config api).Converses address running reply course
      result) : ∀ command ∈ course.commands, config.Advances command := by
  have hadvance : ∀ conversation data,
      config.Advances ((ofConfig config api).sends (Sasl.advance conversation data)) :=
    fun conversation data => ⟨Command.name?_prepare (Sasl.name?_advance conversation data) _ _,
      Command.database_prepare _ _ _⟩
  induction h with
  | finished => exact fun _ h => absurd h List.not_mem_nil
  | stuck => exact fun _ h => absurd h List.not_mem_nil
  | lost =>
      intro command hcommand
      rw [List.mem_singleton.mp hcommand]
      exact hadvance _ _
  | continued _ _ _ _ ih =>
      intro command hcommand
      rcases List.mem_cons.mp hcommand with rfl | hrest
      · exact hadvance _ _
      · exact ih command hrest

theorem Runs.speaks {greeted : Answer} {running : Prover.Running} {course : Course}
    {result : Except Error Unit} (hchooses : config.Chooses greeted running.prover.mechanism)
    (h : (ofConfig config api).Runs address running course result) :
    config.Speaks greeted course.commands := by
  have hstart : ∀ data, config.Starts greeted
      ((ofConfig config api).sends (Sasl.start running.prover.mechanism data none)) := by
    intro data
    refine ⟨Command.name?_prepare (Sasl.name?_start _ _ _) _ _, Command.database_prepare _ _ _,
      running.prover.mechanism, ?_, hchooses⟩
    rw [Document.string?, sends, Command.get?_prepare _ _ _ (by decide) (by decide),
      Sasl.mechanism_start]
    rfl
  cases h with
  | silent => exact .of_advances fun _ h => absurd h List.not_mem_nil
  | lost => exact .of_start (hstart _) fun _ h => absurd h List.not_mem_nil
  | begun _ _ rest => exact .of_start (hstart _) rest.advances

theorem Attempts.speaks {greeted : Answer} {created : Nat} {mechanism : Mechanism}
    {course : Course} {result : Except Error Unit} (hchooses : config.Chooses greeted mechanism)
    (h : (ofConfig config api).Attempts address created mechanism course result) :
    config.Speaks greeted course.commands := by
  cases h with
  | unsupported => exact .of_advances fun _ h => absurd h List.not_mem_nil
  | @made prover course _ hcreate rest =>
      have hprover : config.Chooses greeted prover.mechanism := by
        intro hhonest hfixed
        rw [hhonest _ _ _ _ hcreate]
        exact hchooses hhonest hfixed
      rw [Course.commands_asked]
      exact rest.speaks hprover

theorem PicksUp.speaks {greeted : Answer} {running : Prover.Running} {document : Document}
    {course : Course} {result : Except Error Unit}
    (h : (ofConfig config api).PicksUp address running document course result) :
    config.Speaks greeted course.commands := by
  cases h with
  | unread => exact .of_advances fun _ h => absurd h List.not_mem_nil
  | read _ rest => exact .of_advances rest.advances

end Login

/-- A context has no credential, or authenticates by what its credential says. -/
theorem Context.authenticator_cases (context : Context) :
    (context.credential = none ∧ context.authenticator .application = .none) ∨
    ∃ config, context.credential = some config ∧
      (config.credential.mechanism = none ∧
        context.authenticator .application = .negotiating (.ofConfig config context.api) ∨
      config.credential.mechanism = some .certificate ∧
        context.authenticator .application = .certificate config.credential context.api ∨
      ∃ mechanism, config.credential.mechanism = some mechanism ∧ mechanism ≠ .certificate ∧
        context.authenticator .application = .speculative (.ofConfig config context.api)) := by
  rw [authenticator]
  cases hcredential : context.credential with
  | none => exact .inl ⟨rfl, rfl⟩
  | some config => exact .inr ⟨config, rfl, Authenticator.ofCredential_cases config context.api⟩

/-- An authentication sends what the context makes it send. -/
theorem Authenticator.Authenticates.talks {context : Context} {address : Address} {created : Nat}
    {id : ConnectionId} {reply : Document} {resumable : Option (Prover.Running × Document)}
    {course : Course} {result : Except Error Unit}
    (h : (context.authenticator .application).Authenticates address created
      (ConnectionDescription.ofReply id reply).negotiated resumable course result) :
    context.Talks (.ok reply) course.commands := by
  rcases context.authenticator_cases with ⟨_, hauthenticator⟩ | ⟨config, hcredential,
    ⟨hmechanism, hauthenticator⟩ | ⟨hmechanism, hauthenticator⟩ |
      ⟨mechanism, hmechanism, hne, hauthenticator⟩⟩ <;> rw [hauthenticator] at h
  · cases h with
    | none => exact .silent
  · have hnot : config.credential.mechanism ≠ some .certificate := by
      rw [hmechanism]
      exact (Option.some_ne_none _).symm
    cases h with
    | negotiated rest =>
        exact .conversation hcredential hnot
          (rest.speaks fun _ _ => ConnectionDescription.negotiated_ofReply id reply)
  · have hname := Command.name?_prepare (Command.name?_certificate config.credential.userName)
      Credential.externalSource context.api
    have hdatabase := Command.database_prepare (Command.certificate config.credential.userName)
      Credential.externalSource context.api
    cases h with
    | refused => exact .certificate hcredential hmechanism hname hdatabase
    | certified => exact .certificate hcredential hmechanism hname hdatabase
  · have hnot : config.credential.mechanism ≠ some .certificate := by
      rw [hmechanism]
      intro h
      injection h with h
      exact hne h
    cases h with
    | resumed _ rest => exact .conversation hcredential hnot rest.speaks
    | unfixed => exact .silent
    | fixed _ hfixed rest =>
        -- A fixed mechanism is not decided on by the reply.
        refine .conversation hcredential hnot (rest.speaks fun _ hnone => ?_)
        rw [hmechanism] at hnone
        simp only [reduceCtorEq] at hnone

theorem Setup.mechanismsOf_baseHandshake (setup : Setup) :
    setup.baseHandshake.mechanismsOf =
      setup.askedUser.map fun user => s!"{user.1}.{user.2}" := by
  rw [baseHandshake]
  cases setup.askedUser <;> rfl

theorem Setup.hello_baseHandshake (setup : Setup) :
    setup.baseHandshake.hello = setup.api.isSome := by
  rw [baseHandshake]
  cases setup.askedUser <;> rfl

/-- The user that a context asks about is known by name and has no fixed mechanism. -/
theorem Context.askedUser_eq_some {context : Context} {user : String × String} :
    (context.setup .application).askedUser = some user ↔
      ∃ config name, context.credential = some config ∧ config.credential.mechanism = none ∧
        config.credential.userName = some name ∧ user = (config.credential.source, name) := by
  rw [Setup.askedUser]
  show (if (context.authenticator .application).negotiates then
    (context.authenticator .application).credential?.bind _ else none) = some user ↔ _
  rcases context.authenticator_cases with ⟨hcredential, hauthenticator⟩ | ⟨config, hcredential,
    ⟨hmechanism, hauthenticator⟩ | ⟨hmechanism, hauthenticator⟩ |
      ⟨mechanism, hmechanism, hne, hauthenticator⟩⟩ <;> rw [hauthenticator, hcredential]
  · constructor
    · intro h
      cases h
    · rintro ⟨config, name, hconfig, _⟩
      simp only [reduceCtorEq] at hconfig
  · constructor
    · intro h
      rcases Option.map_eq_some_iff.mp h with ⟨name, hname, huser⟩
      exact ⟨config, name, rfl, hmechanism, hname, huser.symm⟩
    · rintro ⟨own, name, hown, _, hname, huser⟩
      injection hown with hown
      subst hown
      exact Option.map_eq_some_iff.mpr ⟨name, hname, huser.symm⟩
  · constructor
    · intro h
      cases h
    · rintro ⟨own, name, hown, hnone, _⟩
      injection hown with hown
      rw [← hown, hmechanism] at hnone
      simp only [reduceCtorEq] at hnone
  · constructor
    · intro h
      cases h
    · rintro ⟨own, name, hown, hnone, _⟩
      injection hown with hown
      rw [← hown, hmechanism] at hnone
      simp only [reduceCtorEq] at hnone

theorem Mechanism.isSpeculative_iff (mechanism : Mechanism) :
    mechanism.isSpeculative = true ↔ mechanism = .scramSha1 ∨ mechanism = .scramSha256 := by
  cases mechanism <;> decide

/-- A context lets a step be sent on speculation if its mechanism is one of two. -/
theorem Context.speculates_iff (context : Context) :
    (∃ login, context.authenticator .application = .speculative login ∧
        login.maySpeculate = true) ↔
      ∃ config, context.credential = some config ∧
        (config.credential.mechanism = some .scramSha1 ∨
          config.credential.mechanism = some .scramSha256) := by
  constructor
  · rintro ⟨login, hlogin, hmay⟩
    rcases context.authenticator_cases with ⟨_, hauthenticator⟩ | ⟨config, hcredential,
      ⟨_, hauthenticator⟩ | ⟨_, hauthenticator⟩ | ⟨mechanism, hmechanism, _, hauthenticator⟩⟩ <;>
      rw [hauthenticator] at hlogin
    · simp only [reduceCtorEq] at hlogin
    · simp only [reduceCtorEq] at hlogin
    · simp only [reduceCtorEq] at hlogin
    · injection hlogin with hlogin
      rw [← hlogin, Login.maySpeculate, hmechanism] at hmay
      refine ⟨config, hcredential, ?_⟩
      rw [hmechanism]
      rcases mechanism.isSpeculative_iff.mp hmay with rfl | rfl
      · exact .inl rfl
      · exact .inr rfl
  · rintro ⟨config, hcredential, hmechanism⟩
    have hfixed : ∃ mechanism, config.credential.mechanism = some mechanism ∧
        mechanism.isSpeculative = true := by
      rcases hmechanism with h | h <;> exact ⟨_, h, rfl⟩
    rcases hfixed with ⟨mechanism, hmechanism, hspeculative⟩
    -- Neither of the two is the certificate, which is not run by a conversation.
    have hne : mechanism ≠ .certificate := by
      rintro rfl
      cases hspeculative
    refine ⟨.ofConfig config context.api, ?_, ?_⟩
    · rw [authenticator, hcredential]
      exact Authenticator.ofCredential_of_ne hmechanism hne
    · rw [Login.maySpeculate, hmechanism]
      exact hspeculative

theorem Authenticator.speculative?_eq_some {authenticator : Authenticator} {login : Login} :
    authenticator.speculative? = some login ↔ authenticator = .speculative login := by
  cases authenticator with
  | speculative own => rw [speculative?, Option.some.injEq, speculative.injEq]
  | _ => constructor <;> intro h <;> cases h

/-- The handshake of a setup is named for the declared interface, asks for the
    mechanisms of the asked user, and carries a step if one may be sent. -/
theorem Setup.Prepares.handshake {setup : Setup} {speculation after : Speculation}
    {created made : Nat} {course : Course} {document : Document}
    (h : setup.Prepares speculation created course after made (.ok document)) :
    ∃ handshake : Handshake, document = handshake.command ∧
      handshake.hello = setup.api.isSome ∧
      handshake.mechanismsOf = (setup.askedUser.map fun user => s!"{user.1}.{user.2}") ∧
      (handshake.speculative.isSome = true ↔ ∃ login, setup.authenticator = .speculative login ∧
        login.maySpeculate = true) := by
  cases h with
  | plain hnot =>
      refine ⟨setup.baseHandshake, rfl, setup.hello_baseHandshake,
        setup.mechanismsOf_baseHandshake, ?_⟩
      rw [← setup.baseHandshake_of_none]
      constructor
      · intro h
        cases h
      · rintro ⟨login, hlogin, hmay⟩
        rw [hnot login (Authenticator.speculative?_eq_some.mpr hlogin)] at hmay
        simp only [reduceCtorEq] at hmay
  | @speculated login mechanism prover data hlogin hfixed hmay hcreate hinitial =>
      refine ⟨_, rfl, setup.hello_baseHandshake, setup.mechanismsOf_baseHandshake, ?_⟩
      constructor
      · intro _
        refine ⟨login, hlogin, ?_⟩
        rw [Login.maySpeculate, hfixed]
        exact hmay
      · intro _
        rfl

/-- The command that is prepared for the handshake is the handshake of the context. -/
theorem Setup.Prepares.greets {context : Context} {speculation after : Speculation}
    {created made : Nat} {course : Course} {document : Document}
    (h : (context.setup .application).Prepares speculation created course after made
      (.ok document)) : context.Greets ((context.setup .application).sends document) := by
  rcases h.handshake with ⟨handshake, rfl, hhello, hasked, hstep⟩
  -- Preparing the command leaves both of these fields as they were made.
  have hmechanisms : ∀ value, ((context.setup .application).sends handshake.command).get?
        Handshake.mechanismsKey = some value ↔
      ∃ config user, context.credential = some config ∧ config.credential.mechanism = none ∧
        config.credential.userName = some user ∧
        value = .string s!"{config.credential.source}.{user}" := by
    intro value
    rw [sends, Command.get?_prepare _ _ _ (by decide) (by decide), Handshake.mechanisms_command,
      hasked, Option.map_map, Option.map_eq_some_iff]
    constructor
    · rintro ⟨user, huser, hvalue⟩
      rcases Context.askedUser_eq_some.mp huser with ⟨config, name, hcredential, hnone, hname, rfl⟩
      exact ⟨config, name, hcredential, hnone, hname, hvalue.symm⟩
    · rintro ⟨config, name, hcredential, hnone, hname, rfl⟩
      exact ⟨_, Context.askedUser_eq_some.mpr ⟨config, name, hcredential, hnone, hname, rfl⟩, rfl⟩
  have hspeculative : ((context.setup .application).sends handshake.command).contains
        Handshake.speculativeKey = true ↔
      ∃ config, context.credential = some config ∧
        (config.credential.mechanism = some .scramSha1 ∨
          config.credential.mechanism = some .scramSha256) := by
    rw [Document.contains, sends, Command.get?_prepare _ _ _ (by decide) (by decide),
      Handshake.speculative_command, Option.isSome_map, hstep]
    exact context.speculates_iff
  refine ⟨?_, Command.database_prepare _ _ _, hmechanisms, hspeculative, ?_⟩
  · have hname := Command.name?_prepare handshake.name?_command Command.adminDatabase context.api
    rw [Handshake.name, hhello] at hname
    exact hname
  · rintro ⟨hasks, hcarries⟩
    -- A handshake asks if no mechanism is fixed, and carries a step if one is.
    rcases Option.isSome_iff_exists.mp hasks with ⟨value, hvalue⟩
    rcases (hmechanisms value).mp hvalue with ⟨config, _, hcredential, hnone, _⟩
    rcases hspeculative.mp hcarries with ⟨own, hown, hfixed⟩
    rw [hcredential] at hown
    injection hown with hown
    rw [← hown, hnone] at hfixed
    rcases hfixed with h | h <;> simp only [reduceCtorEq] at h

theorem Setup.Prepares.result_eq {setup : Setup} {desk : Desk} {after : Speculation} {made : Nat}
    {course : Course} {result : Except Error Document}
    (h : setup.Prepares desk.speculation desk.created course after made result) :
    (setup.handshake.runAt desk).1 = result := by
  cases h with
  | plain hnot =>
      cases hspeculative : setup.authenticator.speculative? with
      | none => rw [runAt_handshake_of_none hspeculative]
      | some login =>
          rw [runAt_handshake_of_some hspeculative,
            Login.runAt_speculate_of_not (hnot login hspeculative)]
          simp only [Except.map, baseHandshake_of_none]
  | unsupported hlogin hfixed hmay hcreate =>
      rw [fst_handshake_of_fixed hlogin hfixed hmay, hcreate]
  | silent hlogin hfixed hmay hcreate hinitial =>
      rw [fst_handshake_of_fixed hlogin hfixed hmay, hcreate]
      simp only [hinitial]
  | speculated hlogin hfixed hmay hcreate hinitial =>
      rw [fst_handshake_of_fixed hlogin hfixed hmay, hcreate]
      simp only [hinitial]

theorem Setup.Authorizes.talks {context : Context} {address : Address} {made : Nat}
    {speculation : Speculation} {connection : Connection} {reply : Document} {course : Course}
    {result : Except Error Unit}
    (h : (context.setup .application).Authorizes address made speculation
      (.ofReply connection reply) course result) : context.Talks (.ok reply) course.commands := by
  cases h with
  | passed => exact .silent
  | authenticated _ rest => exact rest.talks

theorem Setup.Probes.asks {setup : Setup} {address : Address} {opened known : Opened}
    {course : Course} (h : setup.Probes address opened course known) :
    ∃ probe : Option Document, course.commands = probe.toList ∧
      ∀ command ∈ probe, command.Asks := by
  cases h with
  | known => exact ⟨none, rfl, fun _ hnone => absurd hnone (Option.not_mem_none _)⟩
  | asked =>
      refine ⟨some _, rfl, ?_⟩
      intro command hcommand
      rw [← Option.mem_some.mp hcommand]
      exact ⟨Command.name?_prepare StatusProbe.name?_command _ _, Command.database_prepare _ _ _⟩

/-- An opening sends nothing if there is no handshake to send, and otherwise a word
    that begins with the handshake. -/
theorem Setup.Opens.word {context : Context} {desk : Desk} {connection : Connection}
    {course : Course} {result : Except Error Opened}
    (h : (context.setup .application).Opens connection desk.speculation desk.created course
      result) :
    (course.commands = [] ∧
      ∃ e, ((context.setup .application).handshake.runAt desk).1 = .error e) ∨
    (∃ handshake greeted rest, course.exchanges = (handshake, greeted) :: rest ∧
      context.Word greeted course.commands) ∧
      ∃ document, ((context.setup .application).handshake.runAt desk).1 = .ok document := by
  cases h with
  | @unsent course after made e hprepared =>
      refine .inl ⟨?_, e, hprepared.result_eq⟩
      rw [Course.commands, hprepared.exchanges_eq.1]
      rfl
  | @refused course after made document answer e hprepared hanswer =>
      have hnone := hprepared.exchanges_eq.1
      refine .inr ⟨⟨_, answer, _, Course.exchanges_append_exchanged hnone _ _ _, ?_⟩, document,
        hprepared.result_eq⟩
      rw [Course.commands_append_exchanged hnone]
      exact .sent hprepared.greets .silent fun _ h => absurd h (Option.not_mem_none _)
  | @rejected course after made document answer reply talk e hprepared hanswer hauthorizes =>
      rcases Answer.checked_eq_ok.mp hanswer with ⟨rfl, _⟩
      have hnone := hprepared.exchanges_eq.1
      refine .inr ⟨⟨_, .ok reply, _, Course.exchanges_append_exchanged hnone _ _ _, ?_⟩, document,
        hprepared.result_eq⟩
      rw [Course.commands_append_exchanged hnone, ← List.append_nil (Course.commands talk)]
      exact .sent hprepared.greets hauthorizes.talks fun _ h => absurd h (Option.not_mem_none _)
  | @opened course after made document answer reply talk probe known hprepared hanswer
      hauthorizes hprobes =>
      rcases Answer.checked_eq_ok.mp hanswer with ⟨rfl, _⟩
      rcases hprobes.asks with ⟨asked, hasked, hasks⟩
      have hnone := hprepared.exchanges_eq.1
      refine .inr ⟨⟨_, .ok reply, _, Course.exchanges_append_exchanged hnone _ _ _, ?_⟩, document,
        hprepared.result_eq⟩
      rw [Course.commands_append_exchanged hnone, Course.commands_append, hasked]
      exact .sent hprepared.greets hauthorizes.talks hasks

/-- Opening a connection over which nothing has been sent sends a word, by the first
    answer of its transport; and it sends nothing only if there is no handshake. -/
theorem Mode.word_openConnection (mode : Mode) (context : Context) (desk : Desk)
    (hstage : desk.line.connection.stage = .uninitialized)
    (hsent : desk.line.connection.transport.sent = []) :
    ∃ result after, mode.openConnection (context.setup .application) desk = (some result, after) ∧
      context.Word desk.line.connection.transport.take.1 after.line.connection.transport.sent ∧
      (after.line.connection.transport.sent = [] ↔
        ∃ e, ((context.setup .application).handshake.runAt desk).1 = .error e) := by
  rcases mode.course_openConnection (context.setup .application) hstage with
    ⟨course, result, after, hresult, hperforms, hopens⟩
  have hcommands : after.line.connection.transport.sent = course.commands := by
    rw [hperforms.sent_eq, hsent, List.nil_append]
  refine ⟨result, after, hresult, ?_⟩
  rw [hcommands]
  rcases hopens.word with ⟨hnone, hfailed⟩ |
    ⟨⟨handshake, greeted, rest, hexchanges, hword⟩, document, hmade⟩
  · rw [hnone]
    exact ⟨.unsent, fun _ => hfailed, fun _ => rfl⟩
  · have hgreeted : greeted = desk.line.connection.transport.take.1 := by
      rcases hperforms with ⟨settling, hfollows, _⟩
      have hfirst : course.exchanges[0]? = some (handshake, greeted) := by
        rw [hexchanges]
        rfl
      -- The handshake is the first exchange, so it was given the first answer.
      rw [Transport.take_eq_answer]
      exact hfollows.answer_eq hfirst
    rw [← hgreeted]
    refine ⟨hword, ?_, ?_⟩
    -- A course that begins with the handshake has sent it.
    · intro hempty
      rw [Course.commands, hexchanges] at hempty
      cases hempty
    · rintro ⟨e, hfailed⟩
      rw [hmade] at hfailed
      simp only [reduceCtorEq] at hfailed

/-- Nothing has been sent over a new connection, whichever factory it is from. -/
theorem Access.connect_ok {access left : Access} {context : Context} {purpose : Purpose}
    {server : ServerId} {fresh : Connection}
    (h : access.connect context purpose server = (.ok fresh, left)) :
    fresh.stage = .uninitialized ∧ fresh.transport.sent = [] := by
  -- Nothing has been sent over a transport that has just been made.
  have hcreated : ∀ (factory : TransportFactory) (address : Address) (transport : Transport),
      (factory.create address).1 = .ok transport → transport.sent = [] := by
    intro factory address transport hcreate
    rw [TransportFactory.create] at hcreate
    split at hcreate
    · simp only [reduceCtorEq] at hcreate
    · rename_i script _ _
      cases script with
      | error e => cases hcreate
      | ok answers =>
          injection hcreate with hcreate
          rw [← hcreate]
          rfl
  -- Monitoring may have a factory of its own, which makes no other transports.
  have hshared : ∀ transport, (access.createTransport purpose server.address).1 = .ok transport →
      transport.sent = [] := by
    intro transport htransport
    unfold createTransport at htransport
    cases purpose with
    | application => exact hcreated _ _ _ htransport
    | monitoring =>
        cases hheartbeat : access.heartbeat with
        | none =>
            rw [hheartbeat] at htransport
            exact hcreated _ _ _ htransport
        | some factory =>
            rw [hheartbeat] at htransport
            exact hcreated _ _ _ htransport
  rw [connect] at h
  cases htransport : access.createTransport purpose server.address with
  | mk transport shared =>
      rw [htransport] at h hshared
      cases transport with
      | error e => cases h
      | ok transport =>
          injection h with hfresh _
          injection hfresh with hfresh
          rw [← hfresh]
          exact ⟨rfl, hshared transport rfl⟩

/-- Opening a connection to a server for an application, in either mode. Without a
    transport there is no connection. Otherwise what was sent over it is a word by the
    answer to the handshake, which is the first answer of the transport; and nothing
    was sent only if there was no handshake to send. -/
theorem Access.openConnection_word (access : Access) (context : Context) (mode : Mode)
    (server : ServerId) :
    match access.connect context .application server with
    | (.error e, _) =>
      (access.openConnection context .application mode server).1 = ⟨none, some (.error e)⟩
    | (.ok fresh, left) =>
      ∃ opened result,
        (access.openConnection context .application mode server).1 =
          ⟨some opened, some result⟩ ∧
        context.Word fresh.transport.take.1 opened.transport.sent ∧
        (opened.transport.sent = [] ↔
          ∃ e, ((context.setup .application).handshake.runAt (left.desk fresh)).1 = .error e) := by
  rw [openConnection]
  cases hconnect : access.connect context .application server with
  | mk connected left =>
      cases connected with
      | error e => rfl
      | ok fresh =>
          rcases connect_ok hconnect with ⟨hstage, hsent⟩
          rcases mode.word_openConnection context (left.desk fresh) hstage hsent with
            ⟨result, after, hresult, hword, hempty⟩
          refine ⟨after.line.connection, result, ?_, hword, hempty⟩
          simp only [hresult]

end DocumentLink
