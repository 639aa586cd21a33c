import DocumentLink.Proofs.Course

/-!
# Courses of a Conversation

How a conversation can go: which commands are sent, what the prover is asked in
between, and how it ends, for whatever answers come. There is one constructor
for every way in which a round can end, so that a fact about all conversations
is one case for each of them.

The relations say nothing about where answers come from. That they are those of
the transport, and that the calls are in the journal, is what following a course
says.

## Main definitions

* `Sasl.heard`: What a conversation makes of an answer.
* `Login.Converses`: The courses from a reply on.
* `Login.Runs`: The courses of a whole conversation.
* `Login.PicksUp`: The courses from a document that may hold a reply.
* `Login.Attempts`: The courses that begin with having a prover made.
* `Authenticator.Authenticates`: The courses of an authentication.

## Theorems

* `Authenticator.ofCredential_cases`: How a credential is authenticated with.
* `Blocking.course_converse`, `Blocking.course_run`, `Blocking.course_resume`,
  `Blocking.course_attempt`, `Blocking.course_authenticate`: The client takes one of
  these courses.
-/

namespace DocumentLink

/-- What a conversation makes of an answer: it has to report success and to hold a
    reply. -/
def Sasl.heard (address : Address) (answer : Answer) : Except Error Sasl.Reply :=
  (answer.checked address).bind Sasl.Reply.read

theorem Sasl.heard_of_error {address : Address} {answer : Answer} {e : Error}
    (h : answer.checked address = .error e) : heard address answer = .error e := by
  rw [heard, h]
  rfl

theorem Sasl.heard_of_ok {address : Address} {answer : Answer} {document : Document}
    (h : answer.checked address = .ok document) :
    heard address answer = Sasl.Reply.read document := by
  rw [heard, h]
  rfl

/-- What is heard has come as a reply that reports success. -/
theorem Sasl.heard_eq_ok {address : Address} {answer : Answer} {reply : Sasl.Reply} :
    heard address answer = .ok reply ↔
      ∃ document, answer = .ok document ∧ document.isOk = true ∧
        Sasl.Reply.read document = .ok reply := by
  cases hchecked : answer.checked address with
  | error e =>
      rw [heard_of_error hchecked]
      constructor
      · intro h
        simp only [reduceCtorEq] at h
      · rintro ⟨document, hanswer, hok, _⟩
        rw [Answer.checked_eq_ok.mpr ⟨hanswer, hok⟩] at hchecked
        simp only [reduceCtorEq] at hchecked
  | ok document =>
      have hgiven := Answer.checked_eq_ok.mp hchecked
      rw [heard_of_ok hchecked]
      constructor
      · intro h
        exact ⟨document, hgiven.1, hgiven.2, h⟩
      · rintro ⟨other, hanswer, _, hread⟩
        rw [hgiven.1] at hanswer
        injection hanswer with hanswer
        rw [hanswer, hread]

abbrev Login.ofConfig (config : CredentialConfig) (api : Option ServerApi) : Login :=
  ⟨config.credential, config.provider, api⟩

namespace Authenticator

variable {config : CredentialConfig} {api : Option ServerApi}

/-- Every mechanism but the certificate is run by a conversation that may begin inside
    the handshake. -/
theorem ofCredential_of_ne {mechanism : Mechanism}
    (h : config.credential.mechanism = some mechanism) (hne : mechanism ≠ .certificate) :
    ofCredential (some config) api = .speculative (.ofConfig config api) := by
  simp only [ofCredential, h]

/-- A credential without a mechanism has one negotiated, one with a certificate shows
    it, and every other is run by such a conversation. -/
theorem ofCredential_cases (config : CredentialConfig) (api : Option ServerApi) :
    config.credential.mechanism = Option.none ∧
        ofCredential (some config) api = .negotiating (.ofConfig config api) ∨
      config.credential.mechanism = some .certificate ∧
        ofCredential (some config) api = .certificate config.credential api ∨
      ∃ mechanism, config.credential.mechanism = some mechanism ∧ mechanism ≠ .certificate ∧
        ofCredential (some config) api = .speculative (.ofConfig config api) := by
  cases hmechanism : config.credential.mechanism with
  | none =>
      refine .inl ⟨rfl, ?_⟩
      simp only [ofCredential, hmechanism]
  | some mechanism =>
      by_cases hcertificate : mechanism = .certificate
      · refine .inr (.inl ⟨congrArg some hcertificate, ?_⟩)
        simp only [ofCredential, hmechanism, hcertificate]
      · exact .inr (.inr ⟨mechanism, rfl, hcertificate, ofCredential_of_ne hmechanism hcertificate⟩)

end Authenticator

namespace Login

def sends (login : Login) (document : Document) : Document :=
  Command.prepare document login.credential.source login.api

/-- The courses that a conversation can take from a reply on, and how they end. -/
inductive Converses (login : Login) (address : Address) :
    Prover.Running → Sasl.Reply → Course → Except Error Unit → Prop where
  /-- The server is done, and the prover has the last word. -/
  | finished {running reply} (hdone : reply.done = true) :
      Converses login address running reply [.asked (.success running.number reply.payload)]
        (running.prover.accept running.challenges reply.payload)
  /-- The prover has no answer. -/
  | stuck {running reply e} (hdone : reply.done = false)
      (hanswer : running.prover.answer (running.challenges ++ [reply.payload]) = .error e) :
      Converses login address running reply [.asked (.challenge running.number reply.payload)]
        (.error e)
  /-- The prover's answer is not followed by a reply. -/
  | lost {running reply data answer e} (hdone : reply.done = false)
      (hanswer : running.prover.answer (running.challenges ++ [reply.payload]) = .ok data)
      (hheard : Sasl.heard address answer = .error e) :
      Converses login address running reply
        [.asked (.challenge running.number reply.payload),
          .exchanged (login.sends (Sasl.advance reply.conversation data)) answer]
        (.error e)
  /-- The prover's answer is followed by another reply. -/
  | continued {running reply data answer next course result} (hdone : reply.done = false)
      (hanswer : running.prover.answer (running.challenges ++ [reply.payload]) = .ok data)
      (hheard : Sasl.heard address answer = .ok next)
      (rest : Converses login address (running.challenged reply.payload) next course result) :
      Converses login address running reply
        (.asked (.challenge running.number reply.payload) ::
          .exchanged (login.sends (Sasl.advance reply.conversation data)) answer :: course)
        result

/-- The courses that a whole conversation can take. -/
inductive Runs (login : Login) (address : Address) (running : Prover.Running) :
    Course → Except Error Unit → Prop where
  /-- The prover has nothing to begin with. -/
  | silent {e} (hinitial : running.prover.initial = .error e) :
      Runs login address running [.asked (.initial running.number)] (.error e)
  /-- The beginning is not followed by a reply. -/
  | lost {data answer e} (hinitial : running.prover.initial = .ok data)
      (hheard : Sasl.heard address answer = .error e) :
      Runs login address running
        [.asked (.initial running.number),
          .exchanged (login.sends (Sasl.start running.prover.mechanism data none)) answer]
        (.error e)
  /-- The beginning is followed by a reply. -/
  | begun {data answer reply course result} (hinitial : running.prover.initial = .ok data)
      (hheard : Sasl.heard address answer = .ok reply)
      (rest : Converses login address running reply course result) :
      Runs login address running
        (.asked (.initial running.number) ::
          .exchanged (login.sends (Sasl.start running.prover.mechanism data none)) answer ::
            course)
        result

/-- The courses from a document on that may hold a reply. -/
inductive PicksUp (login : Login) (address : Address) (running : Prover.Running)
    (document : Document) : Course → Except Error Unit → Prop where
  | unread {e} (hread : Sasl.Reply.read document = .error e) :
      PicksUp login address running document [] (.error e)
  | read {reply course result} (hread : Sasl.Reply.read document = .ok reply)
      (rest : Converses login address running reply course result) :
      PicksUp login address running document course result

/-- The courses that begin with having a prover made, of which some have been made
    before. -/
inductive Attempts (login : Login) (address : Address) (created : Nat) (mechanism : Mechanism) :
    Course → Except Error Unit → Prop where
  | unsupported (hcreate : login.provider.create created mechanism login.credential = none) :
      Attempts login address created mechanism [.asked (.create mechanism login.credential)]
        (.error (login.unsupported mechanism))
  | made {prover course result}
      (hcreate : login.provider.create created mechanism login.credential = some prover)
      (rest : Runs login address { number := created + 1, prover := prover } course result) :
      Attempts login address created mechanism
        (.asked (.create mechanism login.credential) :: course) (result.mapError login.wrap)

end Login

/-- The command that shows a certificate as it is sent. -/
def Command.certifies (credential : Credential) (api : Option ServerApi) : Document :=
  prepare (certificate credential.userName) Credential.externalSource api

/-- The courses that an authentication can take. What it knows from before is the
    mechanism that the server's answer decides on, and the prover and the answer to
    go on with. -/
inductive Authenticator.Authenticates (address : Address) (created : Nat)
    (negotiated : Mechanism) (resumable : Option (Prover.Running × Document)) :
    Authenticator → Course → Except Error Unit → Prop where
  | none : Authenticates address created negotiated resumable .none [] (.ok ())
  | negotiated {login : Login} {course result}
      (rest : login.Attempts address created negotiated course result) :
      Authenticates address created negotiated resumable (.negotiating login) course result
  | refused {credential : Credential} {api : Option ServerApi} {answer : Answer} {e}
      (hchecked : answer.checked address = .error e) :
      Authenticates address created negotiated resumable (.certificate credential api)
        [.exchanged (Command.certifies credential api) answer]
        (.error (.authenticating credential e))
  | certified {credential : Credential} {api : Option ServerApi} {answer : Answer} {document}
      (hchecked : answer.checked address = .ok document) :
      Authenticates address created negotiated resumable (.certificate credential api)
        [.exchanged (Command.certifies credential api) answer] (.ok ())
  | resumed {login : Login} {running document course result}
      (hresumable : resumable = some (running, document))
      (rest : login.PicksUp address running document course result) :
      Authenticates address created negotiated resumable (.speculative login) course
        (result.mapError login.wrap)
  | unfixed {login : Login} (hresumable : resumable = Option.none)
      (hfixed : login.credential.mechanism = Option.none) :
      Authenticates address created negotiated resumable (.speculative login) []
        (.error login.mechanismMissing)
  | fixed {login : Login} {mechanism course result} (hresumable : resumable = Option.none)
      (hfixed : login.credential.mechanism = some mechanism)
      (rest : login.Attempts address created mechanism course result) :
      Authenticates address created negotiated resumable (.speculative login) course result

/-- Whether what the provers are asked is noted. -/
def Authenticator.observed : Authenticator → Bool
  | negotiating login | speculative login => login.provider.observed
  | none | certificate .. => false

namespace Blocking

variable {α : Type}

/-- A command of a conversation is one exchange, and what is heard decides how to
    go on. -/
theorem runAt_hear (login : Login) (document : Document) (next : Sasl.Reply → Act α)
    (desk : Desk) :
    (do let document ← command login.credential.source document login.api
        let reply ← Act.ofResult (Sasl.Reply.read document)
        next reply : Act α).runAt desk =
      match Sasl.heard desk.address (exchange desk.line (login.sends document)).1 with
      | .ok reply =>
        (next reply).runAt { desk with line := (exchange desk.line (login.sends document)).2 }
      | .error e =>
        (.error e, { desk with line := (exchange desk.line (login.sends document)).2 }) := by
  rw [Act.runAt_bind, runAt_command]
  cases hchecked : Answer.checked
      (exchange desk.line (Command.prepare document login.credential.source login.api)).1
      desk.address with
  | error e =>
      rw [Login.sends, Sasl.heard_of_error hchecked]
  | ok document =>
      rw [Login.sends, Sasl.heard_of_ok hchecked]
      simp only [Act.runAt_bind, Act.runAt_ofResult]
      cases Sasl.Reply.read document <;> rfl

theorem answersLeft_exchange_lt {desk : Desk} {command : Document} {reply : Sasl.Reply}
    (h : Sasl.heard desk.address (exchange desk.line command).1 = .ok reply) :
    Desk.answersLeft { desk with line := (exchange desk.line command).2 } < desk.answersLeft := by
  rcases Sasl.heard_eq_ok.mp h with ⟨document, hanswer, _, _⟩
  exact answers_exchange_lt hanswer

/-- From a reply on a client takes one of the courses of a conversation. -/
theorem course_converse (login : Login) (running : Prover.Running) (reply : Sasl.Reply)
    (desk : Desk) :
    desk.line.Takes login.provider.observed (Act.runAt (converse login running reply) desk)
      (login.Converses desk.address running reply) := by
  -- A round that is followed by another has used up an answer.
  induction hleft : desk.answersLeft using Nat.strongRecOn generalizing running reply desk with
  | ind left ih =>
      cases hdone : reply.done with
      | true =>
          rw [converse_of_done hdone, Login.runAt_finish]
          exact .asked (.success running.number reply.payload)
            ⟨[], .refl _, .finished hdone⟩
      | false =>
          rw [converse_of_not_done hdone, Act.runAt_bind, Login.runAt_nextCommand]
          refine .asked (.challenge running.number reply.payload) ?_
          cases hanswer : running.prover.answer (running.challenges ++ [reply.payload]) with
          | error e => exact ⟨[], .refl _, .stuck hdone hanswer⟩
          | ok data =>
              simp only [Except.map]
              rw [runAt_hear]
              refine .exchanged (login.sends (Sasl.advance reply.conversation data)) ?_
              cases hheard : Sasl.heard _ _ with
              | error e => exact ⟨[], .refl _, .lost hdone hanswer hheard⟩
              | ok next =>
                  -- The rest is a conversation of its own, from the next reply on and at the same
                  -- address.
                  have hless := answersLeft_exchange_lt hheard
                  have hrest := ih _ (hleft ▸ hless) (running.challenged reply.payload) next _ rfl
                  rw [Desk.address, Line.address_exchange] at hrest
                  exact hrest.mono fun _ _ h => .continued hdone hanswer hheard h

theorem course_run (login : Login) (running : Prover.Running) (desk : Desk) :
    desk.line.Takes login.provider.observed ((run login running).runAt desk)
      (login.Runs desk.address running) := by
  rw [run, Act.runAt_bind, Login.runAt_firstCommand]
  refine .asked (.initial running.number) ?_
  cases hinitial : running.prover.initial with
  | error e => exact ⟨[], .refl _, .silent hinitial⟩
  | ok data =>
      simp only [Except.map]
      rw [runAt_hear]
      refine .exchanged (login.sends (Sasl.start running.prover.mechanism data none)) ?_
      cases hheard : Sasl.heard _ _ with
      | error e => exact ⟨[], .refl _, .lost hinitial hheard⟩
      | ok reply =>
          have hrest := course_converse login running reply { desk with
            line := (exchange (desk.note login.provider.observed (.initial running.number)).line
              (login.sends (Sasl.start running.prover.mechanism data none))).2 }
          rw [Desk.address, Line.address_exchange] at hrest
          exact hrest.mono fun _ _ h => .begun hinitial hheard h

theorem course_resume (login : Login) (running : Prover.Running) (document : Document)
    (desk : Desk) :
    desk.line.Takes login.provider.observed ((resume login running document).runAt desk)
      fun course result => ∃ own, login.PicksUp desk.address running document course own ∧
        result = own.mapError login.wrap := by
  -- The failure to read the document is named after the credential as well.
  refine .mapError login.wrap ?_
  rw [Act.runAt_bind, Act.runAt_ofResult]
  cases hread : Sasl.Reply.read document with
  | error e => exact ⟨[], .refl _, .unread hread⟩
  | ok reply => exact (course_converse login running reply desk).mono fun _ _ h => .read hread h

theorem course_attempt (login : Login) (mechanism : Mechanism) (desk : Desk) :
    desk.line.Takes login.provider.observed
      ((do let running ← login.createProver mechanism
           Blocking.login login running : Act Unit).runAt desk)
      (login.Attempts desk.address desk.created mechanism) := by
  rw [Act.runAt_bind, Login.runAt_createProver]
  refine .asked (.create mechanism login.credential) ?_
  cases hcreate : login.provider.create desk.created mechanism login.credential with
  | none => exact ⟨[], .refl _, .unsupported hcreate⟩
  | some prover =>
      have hrun := course_run login { number := desk.created + 1, prover := prover }
        { desk.note login.provider.observed (.create mechanism login.credential) with
          created := desk.created + 1 }
      -- Only the conversation names the credential in its errors. Making the prover does it
      -- itself.
      refine (hrun.mapError login.wrap).mono ?_
      rintro course result ⟨own, hown, rfl⟩
      exact .made hcreate hown

/-- An authentication takes one of its courses, whichever way it is done. -/
theorem course_authenticate (authenticator : Authenticator) (description : ConnectionDescription)
    (desk : Desk) :
    desk.line.Takes authenticator.observed ((authenticate authenticator description).runAt desk)
      (authenticator.Authenticates desk.address desk.created description.negotiated
        desk.speculation.takeResumable.1) := by
  cases authenticator with
  | none => exact ⟨[], .refl _, .none⟩
  | negotiating login =>
      exact (course_attempt login description.negotiated desk).mono fun _ _ h => .negotiated h
  | certificate credential api =>
      simp only [authenticate, certificate, Act.runAt_mapError]
      rw [Act.runAt_bind, runAt_command]
      refine .exchanged (Command.certifies credential api) ?_
      cases hchecked : Answer.checked _ _ with
      | error e => exact ⟨[], .refl _, .refused hchecked⟩
      | ok document => exact ⟨[], .refl _, .certified hchecked⟩
  | speculative login =>
      rw [authenticate, runAt_speculated]
      cases desk.speculation.takeResumable.1 with
      | some both =>
          refine (course_resume login both.1 both.2
            { desk with speculation := desk.speculation.takeResumable.2 }).mono ?_
          rintro course result ⟨own, hown, rfl⟩
          exact .resumed rfl hown
      | none =>
          simp only [Login.createFixedProver]
          cases hfixed : login.credential.mechanism with
          | none => exact ⟨[], .refl _, .unfixed rfl hfixed⟩
          | some mechanism =>
              exact (course_attempt login mechanism
                { desk with speculation := desk.speculation.takeResumable.2 }).mono
                  fun _ _ h => .fixed rfl hfixed h

end Blocking

end DocumentLink
