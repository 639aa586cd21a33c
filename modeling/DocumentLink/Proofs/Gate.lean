import DocumentLink.Proofs.Commands
import DocumentLink.Proofs.Opening

/-!
# The Authentication Gate

A connection that was to be authenticated becomes ready only if it was. There
are three ways through: the server described itself as an arbiter, which holds
no users; it accepted a certificate; or a conversation came to an end that the
prover accepts. Whatever else the server sends, at whatever point of the
opening, the connection fails.

What the prover accepts is the payload of a reply that says it is done. The reply
answers the last command of the conversation; only a conversation that went on
from a handshake may end with what came in the reply to that, and then the prover
is the one whose first step the handshake carried.

## Main definitions

* `Document.DescribesArbiter`: A reply to the handshake is that of an arbiter.
* `Prover.Running.Accepts`: A prover accepts the end of a conversation.
* `Course.Authenticated`: The ways through the gate.

## Theorems

* `ServerType.ofReply_eq_arbiter`: Which replies describe an arbiter.
* `Login.Converses.consented`: A conversation that succeeds has been accepted.
* `Mode.openConnection_authenticated`: A connection that becomes ready has passed
  the gate.
-/

namespace DocumentLink

/-- A reply to the handshake is that of an arbiter: a member of a set that is
    nothing else. -/
structure Document.DescribesArbiter (reply : Document) : Prop where
  ok : reply.isOk = true
  setName : (reply.string? "setName").isSome = true
  arbiterOnly : reply.flag "arbiterOnly" = true
  isReplicaSet : reply.flag "isreplicaset" = false
  hidden : reply.flag "hidden" = false
  isWritablePrimary : reply.flag "isWritablePrimary" = false
  isMaster : reply.flag "ismaster" = false
  secondary : reply.flag "secondary" = false

theorem ServerType.ofReply_eq_arbiter {reply : Document} :
    ofReply reply = .arbiter ↔ reply.DescribesArbiter := by
  constructor
  · intro h
    unfold ofReply ofMemberReply at h
    -- Of all the ways through the decisions only one ends at an arbiter.
    split at h
    · simp only [reduceCtorEq] at h
    rename_i hok
    split at h
    · simp only [reduceCtorEq] at h
    rename_i hreplica
    split at h
    · rename_i hset
      split at h
      · simp only [reduceCtorEq] at h
      rename_i hhidden
      split at h
      · simp only [reduceCtorEq] at h
      rename_i hprimary
      split at h
      · simp only [reduceCtorEq] at h
      rename_i hsecondary
      split at h
      · rename_i harbiter
        rw [Bool.or_eq_true, not_or] at hprimary
        exact ⟨by simpa only [Bool.not_eq_true', Bool.not_eq_false] using hok, hset, harbiter,
          eq_false_of_ne_true hreplica, eq_false_of_ne_true hhidden,
          eq_false_of_ne_true hprimary.1, eq_false_of_ne_true hprimary.2,
          eq_false_of_ne_true hsecondary⟩
      · simp only [reduceCtorEq] at h
    · split at h <;> simp only [reduceCtorEq] at h
  · intro h
    simp only [ofReply, ofMemberReply, h.ok, h.setName, h.arbiterOnly, h.isReplicaSet, h.hidden,
      h.isWritablePrimary, h.isMaster, h.secondary]
    rfl

/-- Whether a command is one of a conversation. -/
def Sasl.IsCommand (command : Document) : Prop :=
  command.name? = some "saslStart" ∨ command.name? = some "saslContinue"

/-- A prover accepts the end of a conversation: it was given the challenges of the
    course, and the document holds a reply that is done and whose payload it takes
    for a success. -/
structure Prover.Running.Accepts (running : Prover.Running) (before : Course) (document : Document)
    (last : Sasl.Reply) : Prop where
  challenges : running.challenges = before.challenges running.number
  read : Sasl.Reply.read document = .ok last
  done : last.done = true
  accept : running.prover.accept running.challenges last.payload = .ok ()

/-- A prover is one that was made for a credential. -/
def Prover.Running.MadeFor (running : Prover.Running) (config : CredentialConfig) : Prop :=
  ∃ made mechanism, running.number = made + 1 ∧
    config.provider.create made mechanism config.credential = some running.prover

/-- After the end of a conversation no prover is asked, and no conversation goes on. -/
def Course.Quiet (course : Course) : Prop :=
  course.calls = [] ∧ ∀ command ∈ course.commands, ¬ Sasl.IsCommand command

/-- The ways in which an opening can have been authenticated. -/
inductive Course.Authenticated (config : CredentialConfig) (api : Option ServerApi) :
    Course → Prop where
  /-- The reply to the handshake, which comes first, describes an arbiter. -/
  | arbiter {course : Course} {handshake reply : Document}
      (hfirst : course.exchanges.head? = some (handshake, .ok reply))
      (harbiter : reply.DescribesArbiter) : Authenticated config api course
  /-- The server has accepted the certificate. -/
  | certificate {course : Course} {reply : Document}
      (hmechanism : config.credential.mechanism = some .certificate)
      (hanswer : (Command.certifies config.credential api, .ok reply) ∈ course.exchanges)
      (hok : reply.isOk = true) : Authenticated config api course
  /-- The prover has accepted the answer to the last command of a conversation. -/
  | conversed {before after : Course} {running : Prover.Running} {command document : Document}
      {last : Sasl.Reply} (hmade : running.MadeFor config)
      (hlast : before.exchanges.getLast? = some (command, .ok document))
      (hcommand : Sasl.IsCommand command) (hok : document.isOk = true)
      (haccepts : running.Accepts before document last) (hafter : after.Quiet) :
      Authenticated config api
        (before ++ .asked (.success running.number last.payload) :: after)
  /-- The prover has accepted what the reply to the handshake held in answer to its
      own first step, which the handshake carried. -/
  | speculated {before after : Course} {running : Prover.Running}
      {handshake reply document : Document} {data : Bytes} {last : Sasl.Reply}
      (hmade : running.MadeFor config) (hinitial : running.prover.initial = .ok data)
      (hcarried : handshake.document? Handshake.speculativeKey =
        some (Sasl.start running.prover.mechanism data (some config.credential.source)))
      (honly : before.exchanges = [(handshake, .ok reply)]) (hok : reply.isOk = true)
      (hreply : Handshake.speculativeReply? reply = some document)
      (haccepts : running.Accepts before document last) (hafter : after.Quiet) :
      Authenticated config api
        (before ++ .asked (.success running.number last.payload) :: after)

/-- The last exchange of a course is that of a command of a conversation, and its
    answer holds a reply. -/
def Course.Hears (course : Course) (last : Sasl.Reply) : Prop :=
  ∃ command document, course.exchanges.getLast? = some (command, .ok document) ∧
    Sasl.IsCommand command ∧ document.isOk = true ∧ Sasl.Reply.read document = .ok last

/-- A conversation has ended with the prover's consent. The prover in the end is the
    one of the beginning, with the challenges of the course. -/
structure Sasl.Consented (running : Prover.Running) (talk : Course) (ended : Prover.Running)
    (last : Sasl.Reply) : Prop where
  number : ended.number = running.number
  prover : ended.prover = running.prover
  challenges : ended.challenges = running.challenges ++ talk.challenges running.number
  done : last.done = true
  accept : ended.prover.accept ended.challenges last.payload = .ok ()

/-- A course that goes on with an exchange hears what the rest hears, or the answer
    to that exchange if the rest exchanges nothing. -/
theorem Course.hears_exchanged {command document : Document} {rest : Course}
    {next last : Sasl.Reply} (hcommand : Sasl.IsCommand command) (hok : document.isOk = true)
    (hread : Sasl.Reply.read document = .ok next)
    (h : rest.exchanges = [] ∧ last = next ∨ rest.Hears last) :
    Course.Hears (.exchanged command (.ok document) :: rest) last := by
  rcases h with ⟨hnone, rfl⟩ | ⟨other, answer, hlast, hother⟩
  · refine ⟨command, document, ?_, hcommand, hok, hread⟩
    rw [exchanges_exchanged, hnone]
    rfl
  · refine ⟨other, answer, ?_, hother⟩
    rw [exchanges_exchanged, List.getLast?_cons, hlast]
    rfl

theorem Login.isCommand_start (login : Login) (mechanism : Mechanism) (data : Bytes) :
    Sasl.IsCommand (login.sends (Sasl.start mechanism data none)) :=
  .inl (Command.name?_prepare (Sasl.name?_start mechanism data none) _ _)

theorem Login.isCommand_advance (login : Login) (conversation : Json.Value) (data : Bytes) :
    Sasl.IsCommand (login.sends (Sasl.advance conversation data)) :=
  .inr (Command.name?_prepare (Sasl.name?_advance conversation data) _ _)

/-- A conversation that succeeds from a reply on has ended with the prover's consent,
    with this reply or with the answer to its last command. -/
theorem Login.Converses.consented {login : Login} {address : Address} {running : Prover.Running}
    {reply : Sasl.Reply} {course : Course} {result : Except Error Unit}
    (h : login.Converses address running reply course result) (hok : result = .ok ()) :
    ∃ (talk : Course) (ended : Prover.Running) (last : Sasl.Reply),
      course = talk ++ [.asked (.success ended.number last.payload)] ∧
      Sasl.Consented running talk ended last ∧
      (talk.exchanges = [] ∧ last = reply ∨ talk.Hears last) := by
  induction h with
  | @finished running reply hdone =>
      exact ⟨[], running, reply, rfl, ⟨rfl, rfl, (List.append_nil _).symm, hdone, hok⟩,
        .inl ⟨rfl, rfl⟩⟩
  | stuck => simp only [reduceCtorEq] at hok
  | lost => simp only [reduceCtorEq] at hok
  | @continued running reply data answer next course result hdone hanswer hheard rest ih =>
      rcases ih hok with ⟨talk, ended, last, rfl, hrest, hhears⟩
      rcases Sasl.heard_eq_ok.mp hheard with ⟨document, rfl, hdocument, hread⟩
      refine ⟨_ :: _ :: talk, ended, last, rfl,
        ⟨hrest.number, hrest.prover, ?_, hrest.done, hrest.accept⟩, .inr ?_⟩
      · -- The challenge of this round is the first one of the course.
        rw [hrest.challenges]
        simp only [Prover.Running.challenged, Course.challenges_asked,
          MechanismCall.challenge?_self, Option.toList_some, Course.challenges_exchanged,
          List.append_assoc]
      · exact Course.hears_exchanged (login.isCommand_advance _ _) hdocument hread hhears

/-- A whole conversation that succeeds has ended with the prover's consent, and with
    the answer to its last command. -/
theorem Login.Runs.consented {login : Login} {address : Address} {running : Prover.Running}
    {course : Course} (h : login.Runs address running course (.ok ())) :
    ∃ (talk : Course) (ended : Prover.Running) (last : Sasl.Reply),
      course = talk ++ [.asked (.success ended.number last.payload)] ∧
      Sasl.Consented running talk ended last ∧ talk.Hears last := by
  cases h with
  | @begun data answer reply course _ hinitial hheard rest =>
      rcases rest.consented rfl with ⟨talk, ended, last, rfl, hrest, hhears⟩
      rcases Sasl.heard_eq_ok.mp hheard with ⟨document, rfl, hdocument, hread⟩
      exact ⟨_ :: _ :: talk, ended, last, rfl,
        ⟨hrest.number, hrest.prover, hrest.challenges, hrest.done, hrest.accept⟩,
        Course.hears_exchanged (login.isCommand_start _ _) hdocument hread hhears⟩

theorem ok_of_mapError {α : Type} {f : Error → Error} {own : Except Error α} {a : α}
    (h : own.mapError f = .ok a) : own = .ok a := by
  cases own with
  | error e => cases h
  | ok b => exact h

/-- A login that begins with having a prover made and succeeds is a way through the
    gate, whatever has been exchanged before. -/
theorem Login.Attempts.authenticated {config : CredentialConfig} {api : Option ServerApi}
    {address : Address} {created : Nat} {mechanism : Mechanism} {before course after : Course}
    {result : Except Error Unit} (hbefore : ∀ number, before.challenges number = [])
    (hafter : after.Quiet)
    (h : (Login.ofConfig config api).Attempts address created mechanism course
      result) (hok : result = .ok ()) :
    Course.Authenticated config api (before ++ course ++ after) := by
  cases h with
  | unsupported => simp only [reduceCtorEq] at hok
  | @made prover course own hcreate rest =>
      have hown := ok_of_mapError hok
      subst hown
      rcases rest.consented with
        ⟨talk, ended, last, rfl, hrest, command, document, hlast, hcommand, hdocument, hread⟩
      have hcourse : before ++ Deed.asked (.create mechanism config.credential) ::
          (talk ++ [.asked (.success ended.number last.payload)]) ++ after =
          (before ++ Deed.asked (.create mechanism config.credential) :: talk) ++
            .asked (.success ended.number last.payload) :: after := by
        simp only [List.append_assoc, List.cons_append, List.nil_append]
      rw [hcourse]
      -- The prover in the end is the one that was made for this attempt.
      have hmade : ended.MadeFor config := by
        refine ⟨created, mechanism, hrest.number, ?_⟩
        rw [hrest.prover]
        exact hcreate
      -- The last exchange of the conversation is the last one before its end.
      have hexchanged : (Course.exchanges (before ++
          Deed.asked (.create mechanism config.credential) :: talk)).getLast? =
          some (command, .ok document) := by
        rw [Course.exchanges_append, List.getLast?_append, Course.exchanges_asked, hlast]
        rfl
      have hchallenges : ended.challenges = Course.challenges ended.number (before ++
          Deed.asked (.create mechanism config.credential) :: talk) := by
        rw [hrest.challenges, hrest.number, Course.challenges_append, hbefore]
        rfl
      exact .conversed hmade hexchanged hcommand hdocument
        ⟨hchallenges, hread, hrest.done, hrest.accept⟩ hafter

theorem Speculation.takeResumable_eq_some {s : Speculation} {running : Prover.Running}
    {response : Document} (h : s.takeResumable.1 = some (running, response)) :
    s.pending = some running ∧ s.response = some response := by
  rcases s with ⟨pending, kept⟩
  cases pending with
  | none => cases h
  | some own =>
      cases kept with
      | none => cases h
      | some document =>
          injection h with h
          injection h with hown hdocument
          rw [hown, hdocument]
          exact ⟨rfl, rfl⟩

theorem Setup.pending_kept (setup : Setup) (speculation : Speculation) (reply : Document) :
    (setup.kept speculation reply).pending = speculation.pending := by
  rw [kept]
  split <;> rfl

/-- What there is to go on with after the handshake of a fresh initializer is the
    prover whose step the handshake carried, and the answer in the reply to it. -/
theorem Setup.Prepares.resumable {setup : Setup} {after : Speculation} {created made : Nat}
    {course : Course} {document reply response : Document} {running : Prover.Running}
    (h : setup.Prepares {} created course after made (.ok document))
    (hresumable : (setup.kept after reply).takeResumable.1 = some (running, response)) :
    Handshake.speculativeReply? reply = some response ∧ running.challenges = [] ∧
      ∃ login mechanism data, setup.authenticator = .speculative login ∧
        running.number = created + 1 ∧
        login.provider.create created mechanism login.credential = some running.prover ∧
        running.prover.initial = .ok data ∧
        document.document? Handshake.speculativeKey =
          some (Sasl.start running.prover.mechanism data (some login.credential.source)) := by
  -- Only a handshake that speculated leaves a prover to go on with.
  rcases Speculation.takeResumable_eq_some hresumable with ⟨hpending, hresponse⟩
  rw [Setup.pending_kept] at hpending
  cases h with
  | plain => simp only [reduceCtorEq] at hpending
  | @speculated login mechanism prover data hlogin hfixed hmay hcreate hinitial =>
      injection hpending with hrunning
      subst hrunning
      rw [Setup.kept, hlogin] at hresponse
      refine ⟨hresponse, rfl, login, mechanism, data, hlogin, rfl, hcreate, hinitial, ?_⟩
      rw [Document.document?, Handshake.speculative_command]
      rfl

/-- A conversation that goes on from the handshake and succeeds is a way through the
    gate. Either it has exchanged commands, and then it ended with the answer to the
    last of them; or it has not, and then it ended with the answer in the handshake. -/
theorem Login.PicksUp.authenticated {config : CredentialConfig} {api : Option ServerApi}
    {address : Address} {running : Prover.Running} {before course after : Course}
    {handshake reply document : Document} {data : Bytes} {result : Except Error Unit}
    (hmade : running.MadeFor config) (hnew : running.challenges = [])
    (hinitial : running.prover.initial = .ok data)
    (hcarried : handshake.document? Handshake.speculativeKey =
      some (Sasl.start running.prover.mechanism data (some config.credential.source)))
    (honly : before.exchanges = [(handshake, .ok reply)]) (hreplied : reply.isOk = true)
    (hreply : Handshake.speculativeReply? reply = some document)
    (hbefore : ∀ number, before.challenges number = []) (hafter : after.Quiet)
    (h : (Login.ofConfig config api).PicksUp address running document course
      result) (hok : result = .ok ()) :
    Course.Authenticated config api (before ++ course ++ after) := by
  cases h with
  | unread => simp only [reduceCtorEq] at hok
  | @read first course _ hread rest =>
      rcases rest.consented hok with ⟨talk, ended, last, rfl, hrest, hhears⟩
      have hcourse : before ++ (talk ++ [.asked (.success ended.number last.payload)]) ++ after =
          (before ++ talk) ++ .asked (.success ended.number last.payload) :: after := by
        simp only [List.append_assoc, List.cons_append, List.nil_append]
      have hended : ended.MadeFor config := by
        rw [Prover.Running.MadeFor, hrest.number, hrest.prover]
        exact hmade
      have hchallenges : ended.challenges = Course.challenges ended.number (before ++ talk) := by
        rw [hrest.challenges, hnew, hrest.number, Course.challenges_append, hbefore]
      rw [hcourse]
      -- If nothing was exchanged then the last reply is the one in the handshake.
      rcases hhears with ⟨hnone, rfl⟩ | ⟨command, answer, hlast, hcommand, hanswer, hlastread⟩
      · have hexchanged : Course.exchanges (before ++ talk) = [(handshake, .ok reply)] := by
          rw [Course.exchanges_append, honly, hnone]
          rfl
        rw [← hrest.prover] at hinitial hcarried
        exact .speculated hended hinitial hcarried hexchanged hreplied hreply
          ⟨hchallenges, hread, hrest.done, hrest.accept⟩ hafter
      · have hexchanged : (Course.exchanges (before ++ talk)).getLast? =
            some (command, .ok answer) := by
          rw [Course.exchanges_append, List.getLast?_append, hlast]
          rfl
        exact .conversed hended hexchanged hcommand hanswer
          ⟨hchallenges, hlastread, hrest.done, hrest.accept⟩ hafter

theorem Setup.Probes.quiet {setup : Setup} {address : Address} {opened known : Opened}
    {course : Course} (h : setup.Probes address opened course known) : course.Quiet := by
  cases h with
  | known => exact ⟨rfl, fun _ h => absurd h List.not_mem_nil⟩
  | asked =>
      refine ⟨rfl, fun command hcommand => ?_⟩
      rw [List.mem_singleton.mp hcommand, Sasl.IsCommand, Setup.sends,
        Command.name?_prepare StatusProbe.name?_command]
      decide

/-- An authentication that succeeds is a way through the gate, whichever way it is
    done. Before it only the handshake was exchanged. -/
theorem Authenticator.Authenticates.authenticated {config : CredentialConfig}
    {api : Option ServerApi} {address : Address} {created : Nat} {negotiated : Mechanism}
    {resumable : Option (Prover.Running × Document)} {before course after : Course}
    {result : Except Error Unit} (hbefore : ∀ number, before.challenges number = [])
    (hafter : after.Quiet)
    (hresumed : ∀ running document course, resumable = some (running, document) →
      (Login.ofConfig config api).PicksUp address running document course
        (.ok ()) → Course.Authenticated config api (before ++ course ++ after))
    (h : (Authenticator.ofCredential (some config) api).Authenticates address created negotiated
      resumable course result) (hok : result = .ok ()) :
    Course.Authenticated config api (before ++ course ++ after) := by
  -- Each kind of credential has its own way through the gate.
  rcases Authenticator.ofCredential_cases config api with
    ⟨_, hauthenticator⟩ | ⟨hmechanism, hauthenticator⟩ | ⟨_, _, _, hauthenticator⟩ <;>
    rw [hauthenticator] at h
  · cases h with
    | negotiated rest => exact rest.authenticated hbefore hafter hok
  · cases h with
    | refused => simp only [reduceCtorEq] at hok
    | certified hchecked =>
        rcases Answer.checked_eq_ok.mp hchecked with ⟨rfl, hdocument⟩
        refine .certificate hmechanism ?_ hdocument
        rw [Course.exchanges_append, Course.exchanges_append]
        exact List.mem_append_left _ (List.mem_append_right _ List.mem_cons_self)
  · cases h with
    | resumed hresumable rest =>
        have hown := ok_of_mapError hok
        subst hown
        exact hresumed _ _ _ hresumable rest
    | unfixed => simp only [reduceCtorEq] at hok
    | fixed _ _ rest => exact rest.authenticated hbefore hafter hok

theorem Authenticator.login_of_speculative {config : CredentialConfig} {api : Option ServerApi}
    {login : Login} (h : ofCredential (some config) api = .speculative login) :
    login = .ofConfig config api := by
  rcases ofCredential_cases config api with
    ⟨_, hauthenticator⟩ | ⟨_, hauthenticator⟩ | ⟨_, _, _, hauthenticator⟩ <;>
    rw [hauthenticator] at h
  · simp only [reduceCtorEq] at h
  · simp only [reduceCtorEq] at h
  · injection h with h
    exact h.symm

theorem Setup.document?_speculative_sends (setup : Setup) (document : Document) :
    (setup.sends document).document? Handshake.speculativeKey =
      document.document? Handshake.speculativeKey := by
  rw [Document.document?, Setup.sends, Command.get?_prepare _ _ _ (by decide) (by decide),
    Document.document?]

theorem Setup.Opens.authenticated {setup : Setup} {config : CredentialConfig}
    {api : Option ServerApi} {connection : Connection} {created : Nat} {course : Course}
    {opened : Opened} (hsetup : setup.authenticator = .ofCredential (some config) api)
    (h : setup.Opens connection {} created course (.ok opened)) :
    course.Authenticated config api := by
  cases h with
  | @opened course kept made document answer reply talk probe _ hprepared hanswer hauthorizes
      hprobes =>
      rcases Answer.checked_eq_ok.mp hanswer with ⟨rfl, hok⟩
      rcases hprepared.exchanges_eq with ⟨hnone, hsilent⟩
      cases hauthorizes with
      | passed hnot =>
          -- There is an authenticator, so it was passed over for the type of the server.
          have htype : ServerType.ofReply reply = .arbiter := by
            have hnone : setup.authenticator.isNone = false := by
              rw [hsetup, Authenticator.ofCredential]
              split <;> rfl
            rw [Setup.authenticates, hnone] at hnot
            show (Opened.ofReply connection reply).connection.serverType = .arbiter
            simpa only [Bool.not_false, Bool.true_and, decide_eq_false_iff_not, ne_eq,
              Classical.not_not] using hnot
          -- The handshake is the first exchange, since making it exchanges nothing.
          have hfirst : (Course.exchanges (course ++ Deed.exchanged (setup.sends document)
              (.ok reply) :: ([] ++ probe))).head? = some (setup.sends document, .ok reply) := by
            rw [Course.exchanges_append, hnone]
            rfl
          exact .arbiter hfirst (ServerType.ofReply_eq_arbiter.mp htype)
      | authenticated hdo rest =>
          have hcourse : course ++ Deed.exchanged (setup.sends document) (.ok reply) ::
              (talk ++ probe) =
              course ++ [.exchanged (setup.sends document) (.ok reply)] ++ talk ++ probe := by
            simp only [List.append_assoc, List.cons_append, List.nil_append]
          have hbefore : ∀ number, Course.challenges number
              (course ++ [.exchanged (setup.sends document) (.ok reply)]) = [] := by
            intro number
            rw [Course.challenges_append, hsilent]
            rfl
          have honly : Course.exchanges
              (course ++ [.exchanged (setup.sends document) (.ok reply)]) =
              [(setup.sends document, .ok reply)] := by
            rw [Course.exchanges_append, hnone]
            rfl
          -- The handshake is a part of the course before the authentication, in which no prover
          -- is given a challenge.
          rw [hcourse]
          rw [hsetup] at rest
          refine rest.authenticated hbefore hprobes.quiet ?_ rfl
          intro running response talk hresumable hpicked
          -- What is gone on with was put into this handshake and answered in its reply.
          rcases hprepared.resumable hresumable with
            ⟨hreply, hnew, login, mechanism, data, hlogin, hnumber, hcreate, hinitial, hcarried⟩
          have hconfig := Authenticator.login_of_speculative (hsetup ▸ hlogin)
          subst hconfig
          rw [← setup.document?_speculative_sends] at hcarried
          exact Login.PicksUp.authenticated ⟨created, mechanism, hnumber, hcreate⟩ hnew hinitial
            hcarried honly hok hreply hbefore hprobes.quiet hpicked rfl

/-- A setup that authenticates connections with a credential. -/
def Setup.withCredential (setup : Setup) (config : CredentialConfig) (api : Option ServerApi) :
    Setup :=
  { setup with authenticator := .ofCredential (some config) api }

/-- The authentication gate. Open a fresh connection with a fresh initializer for any
    credential, in either mode, over any transport. Either the opening succeeds, the
    connection is ready, and the opening was authenticated; or it fails, and the
    connection has failed. -/
theorem Mode.openConnection_authenticated (mode : Mode) (setup : Setup) (config : CredentialConfig)
    (api : Option ServerApi) (transport : Transport) (id : ConnectionId)
    (listener : Option Listener) (journal : Journal) (created : Nat) :
    ∃ course result after,
      mode.openConnection (setup.withCredential config api)
        (.fresh transport id listener journal created) = (some result, after) ∧
      (setup.withCredential config api).Performs (.fresh transport id listener journal created)
        course result after ∧
      ((∃ opened, result = .ok opened) ∧ after.line.connection.stage = .ready ∧
          course.Authenticated config api ∨
        (∃ e, result = .error e) ∧ after.line.connection.stage = .failed) := by
  have hfresh : (Desk.fresh transport id listener journal created).line.connection.stage =
      .uninitialized := rfl
  rcases mode.course_openConnection (setup.withCredential config api) hfresh with
    ⟨course, result, after, hresult, hperforms, hopens⟩
  refine ⟨course, result, after, hresult, hperforms, ?_⟩
  cases result with
  | error e => exact .inr ⟨⟨e, rfl⟩, hperforms.failed⟩
  | ok opened => exact .inl ⟨⟨opened, rfl⟩, hperforms.ready, hopens.authenticated rfl⟩

end DocumentLink
