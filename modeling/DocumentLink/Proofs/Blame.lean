import DocumentLink.Authentication.Script
import DocumentLink.Proofs.Passwords

/-!
# What a Failed Opening Is Blamed On

An opening can fail in many places: the transport fails or the server refuses a command,
a reply cannot be read, a mechanism is not known, or a prover fails at one of its steps.
Callers do not see the place. They see one error, and decide by its kind whether to try
again.

Here the places are told apart by the course alone. For each thing that is done, what had
been done before says which prover was asked and what it had been given, so it is known
what failure was raised, if any. The first failure is the last thing an opening does, and
the error that the opening returns is a function of the failure and of its origin.

A failure of an authentication is named after the credential, but for one of the transport
and for one that is a failed authentication already, which stay as they are. There is one
exception. The first step of a prover, if it is to be sent inside the handshake, is asked
for before there is an authentication, and a failure there is named after the credential
whatever its kind. So a mechanism that cannot reach its own servers is told apart from one
that refuses the credential only if its first step is not sent on speculation.

Asking for the number of the connection can fail as well. That ends nothing, and nothing
is raised by it.

## Main definitions

* `Origin`: Where a failure comes from.
* `Course.makings`, `Login.prover?`: The provers that have been made.
* `Login.raised?`, `Setup.raised?`: The failure that is raised by what is done.
* `Setup.Faults`: The first failure of a course.
* `Setup.Yields`: What is returned for a failure.
* `Setup.Blames`: How an opening and its course are connected by failures.

## Theorems

* `Setup.Faults.append`, `Setup.Faults.eq_of_raised`, `Setup.Faults.exists_raised`: The first
  failure is the only one, and it comes last.
* `Login.Converses.faults`, `Setup.Opens.faults`: Every course has one failure at most,
  and it decides what is returned.
* `Mode.openConnection_blames`: What openings that fail are blamed on.
-/

namespace DocumentLink

/-- The failure, if the result is one. -/
def Error.of? {α : Type} : Except Error α → Option Error
  | .ok _ => none
  | .error e => some e

/-- A failure is named after the credential unless it is one of the transport or a failed
    authentication. -/
theorem Error.authenticating_eq (credential : Credential) (e : Error) :
    e.authenticating credential =
      if e.kind = .transport ∨ e.kind = .authentication then e
      else .authentication credential e := by
  cases e <;> rfl

/-- Where a failure comes from. -/
inductive Origin where
  /-- The handshake was not answered well. -/
  | handshake
  /-- There was no first step to be sent inside the handshake. -/
  | firstStep
  /-- A command, a reply or a mechanism of the authentication failed. -/
  | authentication
  deriving DecidableEq, Repr

/-- What a command is sent for. -/
inductive Command.Purpose where
  | greeting
  | conversation
  | certification
  | other
  deriving DecidableEq, Repr

/-- What a command is sent for, by its name. -/
def Command.purpose (command : Document) : Command.Purpose :=
  match command.name? with
  | none => .other
  | some name =>
    if Handshake.isName name then .greeting
    else if name = "saslStart" ∨ name = "saslContinue" then .conversation
    else if name = "authenticate" then .certification
    else .other

/-- What a prover was to be made for, if one was. -/
def MechanismCall.making? : MechanismCall → Option (Mechanism × Credential)
  | .create mechanism credential => some (mechanism, credential)
  | _ => none

/-- What provers were to be made for, one after the other. -/
def Course.makings (course : Course) : List (Mechanism × Credential) :=
  course.calls.filterMap MechanismCall.making?

@[simp] theorem Course.makings_append (first second : Course) :
    makings (first ++ second) = makings first ++ makings second := by
  rw [makings, calls_append, List.filterMap_append]
  rfl

/-- The cause given for a mechanism that the provider does not know. -/
def Mechanism.notProvided (mechanism : Mechanism) : Error :=
  .configuration s!"Unsupported mechanism: {mechanism.name}"

namespace Login

/-- The prover with a number, if it has been made in a course. Some may have been made
    before, and numbers go on from these. -/
def prover? (login : Login) (created : Nat) (course : Course) (number : Nat) : Option Prover :=
  if created < number then
    (course.makings[number - created - 1]?).bind fun making =>
      login.provider.create (number - 1) making.1 making.2
  else none

/-- The failure of a call, after what has been done before. -/
def raised? (login : Login) (created : Nat) (before : Course) (call : MechanismCall) :
    Option Error :=
  match call with
  | .create mechanism credential =>
    match login.provider.create (created + before.makings.length) mechanism credential with
    | some _ => none
    | none => some mechanism.notProvided
  | .initial number =>
    (login.prover? created before number).bind fun prover => Error.of? prover.initial
  | .challenge number data =>
    (login.prover? created before number).bind fun prover =>
      Error.of? (prover.answer (before.challenges number ++ [data]))
  | .success number data =>
    (login.prover? created before number).bind fun prover =>
      Error.of? (prover.accept (before.challenges number) data)

end Login

/-- The origin of the failure of a call. Before anything is sent a first step can only be
    one for the handshake. -/
def Origin.ofCall (before : Course) : MechanismCall → Origin
  | .initial _ => if before.commands.isEmpty then firstStep else authentication
  | _ => authentication

/-- The login with a conversation, on speculation or not. -/
def Authenticator.login? : Authenticator → Option Login
  | negotiating login | speculative login => some login
  | none | certificate .. => .none

namespace Setup

/-- The failure to read the answer to a step inside a handshake, if there was such a step
    and such an answer, and the connection is to be authenticated. -/
def unread? (setup : Setup) (connection : Connection) (command reply : Document) :
    Option Error :=
  match command.document? Handshake.speculativeKey, Handshake.speculativeReply? reply with
  | some _, some response =>
    if setup.authenticates (.ofReply connection reply) then Error.of? (Sasl.Reply.read response)
    else none
  | _, _ => none

/-- The failure that is raised by what is done, after what has been done before. -/
def raised? (setup : Setup) (connection : Connection) (created : Nat) (before : Course)
    (deed : Deed) : Option (Origin × Error) :=
  match deed with
  | .exchanged command answer =>
    match Command.purpose command with
    | .greeting =>
      match answer.checked connection.address with
      | .error e => some (.handshake, e)
      | .ok reply => (setup.unread? connection command reply).map (Origin.authentication, ·)
    | .conversation =>
      (Error.of? (Sasl.heard connection.address answer)).map (Origin.authentication, ·)
    | .certification =>
      (Error.of? (answer.checked connection.address)).map (Origin.authentication, ·)
    | .other => none
  | .asked call =>
    setup.authenticator.login?.bind fun login =>
      (login.raised? created before call).map (Origin.ofCall before call, ·)

/-- The first failure of a course is its last deed, or it has none. -/
inductive Faults (setup : Setup) (connection : Connection) (created : Nat) :
    Course → Course → Option (Origin × Error) → Prop where
  | clean (before : Course) : Faults setup connection created before [] none
  | last {before deed fault}
      (hraised : setup.raised? connection created before deed = some fault) :
      Faults setup connection created before [deed] (some fault)
  | next {before deed course fault}
      (hnone : setup.raised? connection created before deed = none)
      (rest : Faults setup connection created (before ++ [deed]) course fault) :
      Faults setup connection created before (deed :: course) fault

/-- What is returned for a failure. The one error that no failure is behind is that of a
    credential without the mechanism it needs. -/
inductive Yields {α : Type} (setup : Setup) : Option (Origin × Error) → Except Error α → Prop where
  | done (a : α) : Yields setup none (.ok a)
  | missing {login : Login} (hlogin : setup.authenticator = .speculative login) :
      Yields setup none (.error login.mechanismMissing)
  | handshake (e : Error) :
      Yields setup (some (.handshake, e)) (.error (setup.handshakeFailure e))
  | firstStep {credential : Credential} (e : Error)
      (hcredential : setup.authenticator.credential? = some credential) :
      Yields setup (some (.firstStep, e)) (.error (.authentication credential e))
  | authentication {credential : Credential} (e : Error)
      (hcredential : setup.authenticator.credential? = some credential) :
      Yields setup (some (.authentication, e)) (.error (.authenticating credential e))

section Faults

variable {setup : Setup} {connection : Connection} {created : Nat}
  {before course first second : Course} {fault : Option (Origin × Error)} {found : Origin × Error}

theorem Faults.append (hfirst : setup.Faults connection created before first none)
    (hsecond : setup.Faults connection created (before ++ first) second fault) :
    setup.Faults connection created before (first ++ second) fault := by
  generalize hnone : (none : Option (Origin × Error)) = end? at hfirst
  induction hfirst with
  | clean before =>
      rw [List.append_nil] at hsecond
      exact hsecond
  | last => cases hnone
  | @next before deed course _ hquiet _ ih =>
      refine .next hquiet (ih ?_ hnone)
      rw [List.append_assoc]
      exact hsecond

/-- A failure that is raised anywhere in a course is its failure, and comes last. -/
theorem Faults.eq_of_raised (h : setup.Faults connection created before course fault)
    {earlier later : Course} {deed : Deed} (hcourse : course = earlier ++ deed :: later)
    (hraised : setup.raised? connection created (before ++ earlier) deed = some found) :
    later = [] ∧ fault = some found := by
  induction h generalizing earlier with
  | clean =>
      rcases List.nil_eq_append_iff.mp hcourse with ⟨_, hnil⟩
      cases hnil
  | last hlast =>
      rcases List.append_eq_singleton_iff.mp hcourse.symm with ⟨rfl, hdeed⟩ | ⟨_, hnil⟩
      · rcases List.cons.inj hdeed with ⟨rfl, hlater⟩
        rw [List.append_nil, hlast] at hraised
        exact ⟨hlater, hraised⟩
      · cases hnil
  | next hquiet _ ih =>
      cases earlier with
      | nil =>
          rw [List.append_nil, ← (List.cons.inj hcourse).1, hquiet] at hraised
          cases hraised
      | cons other earlier =>
          rcases List.cons.inj hcourse with ⟨rfl, hrest⟩
          rw [List.append_cons] at hraised
          exact ih hrest hraised

/-- The failure of a course is raised by its last deed. -/
theorem Faults.exists_raised (h : setup.Faults connection created before course (some found)) :
    ∃ earlier deed, course = earlier ++ [deed] ∧
      setup.raised? connection created (before ++ earlier) deed = some found := by
  generalize hfault : some found = fault at h
  induction h with
  | clean => cases hfault
  | @last before deed fault hraised =>
      refine ⟨[], deed, rfl, ?_⟩
      rw [List.append_nil, hraised, ← hfault]
  | @next before deed course fault _ _ ih =>
      rcases ih hfault with ⟨earlier, last, hcourse, hraised⟩
      refine ⟨deed :: earlier, last, ?_, ?_⟩
      · rw [hcourse]
        rfl
      · rw [List.append_cons]
        exact hraised

end Faults


variable {setup : Setup} {connection : Connection} {created : Nat} {before : Course}

theorem raised?_asked {login : Login} (hlogin : setup.authenticator.login? = some login)
    (call : MechanismCall) :
    setup.raised? connection created before (.asked call) =
      (login.raised? created before call).map (Origin.ofCall before call, ·) := by
  rw [raised?, hlogin]
  rfl

theorem raised?_conversation {command : Document} (answer : Answer)
    (hpurpose : Command.purpose command = .conversation) :
    setup.raised? connection created before (.exchanged command answer) =
      (Error.of? (Sasl.heard connection.address answer)).map (Origin.authentication, ·) := by
  simp only [raised?, hpurpose]

end Setup

namespace Login

/-- A prover that has been made goes on being the one with its number. -/
theorem prover?_append {login : Login} {created number : Nat} {before : Course} {prover : Prover}
    (h : login.prover? created before number = some prover) (course : Course) :
    login.prover? created (before ++ course) number = some prover := by
  rw [prover?] at h ⊢
  split at h
  · rename_i hnumber
    rw [if_pos hnumber, Course.makings_append]
    cases hmaking : before.makings[number - created - 1]? with
    | none =>
        rw [hmaking] at h
        cases h
    | some making =>
        rw [hmaking] at h
        rw [List.getElem?_append_left (List.getElem?_eq_some_iff.mp hmaking).1, hmaking]
        exact h
  · cases h

/-- A prover that has just been made has the next number. -/
theorem prover?_making {login : Login} {created : Nat} (before : Course) {mechanism : Mechanism}
    {credential : Credential} {prover : Prover}
    (hcreate : login.provider.create (created + before.makings.length) mechanism credential =
      some prover) :
    login.prover? created (before ++ [.asked (.create mechanism credential)])
      (created + before.makings.length + 1) = some prover := by
  have hindex : created + before.makings.length + 1 - created - 1 = before.makings.length := by
    omega
  rw [prover?, if_pos (by omega), Course.makings_append, hindex,
    List.getElem?_append_right (Nat.le_refl _), Nat.sub_self]
  exact hcreate

end Login

section Conversation

variable {setup : Setup} {connection : Connection} {created : Nat} {login : Login}
  {running : Prover.Running}

theorem Login.purpose_start (login : Login) (mechanism : Mechanism) (data : Bytes) :
    Command.purpose (login.sends (Sasl.start mechanism data none)) = .conversation := by
  rw [Command.purpose, sends, Command.name?_prepare (Sasl.name?_start mechanism data none)]
  decide

theorem Login.purpose_advance (login : Login) (conversation : Json.Value) (data : Bytes) :
    Command.purpose (login.sends (Sasl.advance conversation data)) = .conversation := by
  rw [Command.purpose, sends, Command.name?_prepare (Sasl.name?_advance conversation data)]
  decide

/-- A conversation ends with its first failure. The prover has been made before, and what
    it has been given is in the course so far. -/
theorem Login.Converses.faults (hlogin : setup.authenticator.login? = some login)
    {reply : Sasl.Reply} {course : Course} {result : Except Error Unit}
    (h : login.Converses connection.address running reply course result) {before : Course}
    (hprover : login.prover? created before running.number = some running.prover)
    (hchallenges : before.challenges running.number = running.challenges) :
    setup.Faults connection created before course
      ((Error.of? result).map (Origin.authentication, ·)) := by
  -- What the prover is asked raises just what it answers with.
  have hchallenged : ∀ {running : Prover.Running} {before : Course} (data : Bytes),
      login.prover? created before running.number = some running.prover →
      before.challenges running.number = running.challenges →
      setup.raised? connection created before (.asked (.challenge running.number data)) =
        (Error.of? (running.prover.answer (running.challenges ++ [data]))).map
          (Origin.authentication, ·) := by
    intro running before data hprover hchallenges
    rw [Setup.raised?_asked hlogin, Login.raised?, hprover, hchallenges]
    rfl
  induction h generalizing before with
  | @finished running reply hdone =>
      have hraised : setup.raised? connection created before
          (.asked (.success running.number reply.payload)) =
          (Error.of? (running.prover.accept running.challenges reply.payload)).map
            (Origin.authentication, ·) := by
        rw [Setup.raised?_asked hlogin, Login.raised?, hprover, hchallenges]
        rfl
      cases haccept : running.prover.accept running.challenges reply.payload with
      | ok =>
          rw [haccept] at hraised
          exact .next hraised (.clean _)
      | error e =>
          rw [haccept] at hraised
          exact .last hraised
  | @stuck running reply e hdone hanswer =>
      refine .last ?_
      rw [hchallenged _ hprover hchallenges, hanswer]
      rfl
  | @lost running reply data answer e hdone hanswer hheard =>
      refine .next ?_ (.last ?_)
      · rw [hchallenged _ hprover hchallenges, hanswer]
        rfl
      · rw [Setup.raised?_conversation _ (login.purpose_advance _ _), hheard]
        rfl
  | @continued running reply data answer next course result hdone hanswer hheard _ ih =>
      refine .next ?_ (.next ?_ (ih ?_ ?_))
      · rw [hchallenged _ hprover hchallenges, hanswer]
        rfl
      · rw [Setup.raised?_conversation _ (login.purpose_advance _ _), hheard]
        rfl
      · exact Login.prover?_append (Login.prover?_append hprover _) _
      · simp only [Course.challenges_append, Course.challenges_asked, Course.challenges_exchanged,
          Course.challenges_nil, List.append_nil, Prover.Running.challenged,
          MechanismCall.challenge?_self, hchallenges]
        rfl

/-- A whole conversation ends with its first failure. It comes after the handshake, so its
    first step is none that the handshake carries. -/
theorem Login.Runs.faults (hlogin : setup.authenticator.login? = some login) {course : Course}
    {result : Except Error Unit} (h : login.Runs connection.address running course result)
    {before : Course} (hsent : before.commands ≠ [])
    (hprover : login.prover? created before running.number = some running.prover)
    (hchallenges : before.challenges running.number = running.challenges) :
    setup.Faults connection created before course
      ((Error.of? result).map (Origin.authentication, ·)) := by
  have hinitially : setup.raised? connection created before (.asked (.initial running.number)) =
      (Error.of? running.prover.initial).map (Origin.authentication, ·) := by
    have horigin : Origin.ofCall before (.initial running.number) = .authentication :=
      if_neg (by rw [List.isEmpty_iff]; exact hsent)
    rw [Setup.raised?_asked hlogin, Login.raised?, hprover, horigin]
    rfl
  cases h with
  | silent hinitial =>
      refine .last ?_
      rw [hinitially, hinitial]
      rfl
  | lost hinitial hheard =>
      refine .next ?_ (.last ?_)
      · rw [hinitially, hinitial]
        rfl
      · rw [Setup.raised?_conversation _ (login.purpose_start _ _), hheard]
        rfl
  | begun hinitial hheard rest =>
      refine .next ?_ (.next ?_ (rest.faults hlogin ?_ ?_))
      · rw [hinitially, hinitial]
        rfl
      · rw [Setup.raised?_conversation _ (login.purpose_start _ _), hheard]
        rfl
      · exact Login.prover?_append (Login.prover?_append hprover _) _
      · simp only [Course.challenges_append, Course.challenges_asked, Course.challenges_exchanged,
          Course.challenges_nil, List.append_nil, hchallenges]
        exact List.append_nil _

/-- What a conversation comes to is named after the credential. -/
theorem Setup.yields_mapError {credential : Credential}
    (hcredential : setup.authenticator.credential? = some credential)
    (result : Except Error Unit) :
    setup.Yields ((Error.of? result).map (Origin.authentication, ·))
      (result.mapError (Error.authenticating credential)) := by
  cases result with
  | ok done => exact .done done
  | error e => exact .authentication e hcredential

theorem Authenticator.credential?_of_login? {authenticator : Authenticator}
    (hlogin : authenticator.login? = some login) :
    authenticator.credential? = some login.credential := by
  cases authenticator with
  | none => cases hlogin
  | certificate => cases hlogin
  | negotiating own =>
      injection hlogin with hlogin
      rw [← hlogin]
      rfl
  | speculative own =>
      injection hlogin with hlogin
      rw [← hlogin]
      rfl

/-- A conversation with a new prover ends with its first failure, which may be that there
    is no such prover. -/
theorem Login.Attempts.faults (hlogin : setup.authenticator.login? = some login) {made : Nat}
    {mechanism : Mechanism} {course : Course} {result : Except Error Unit}
    (h : login.Attempts connection.address made mechanism course result) {before : Course}
    (hsent : before.commands ≠ []) (hmade : made = created + before.makings.length)
    (hnew : before.challenges (made + 1) = []) :
    ∃ fault, setup.Faults connection created before course fault ∧ setup.Yields fault result := by
  have hcredential := Authenticator.credential?_of_login? hlogin
  subst hmade
  cases h with
  | unsupported hcreate =>
      refine ⟨some (.authentication, mechanism.notProvided), .last ?_,
        .authentication _ hcredential⟩
      rw [Setup.raised?_asked hlogin, Login.raised?, hcreate]
      rfl
  | made hcreate rest =>
      refine ⟨_, .next ?_ (rest.faults hlogin ?_ (Login.prover?_making _ hcreate) ?_),
        Setup.yields_mapError hcredential _⟩
      · rw [Setup.raised?_asked hlogin, Login.raised?, hcreate]
        rfl
      · rw [Course.commands_append]
        exact List.append_ne_nil_of_left_ne_nil hsent _
      · rw [Course.challenges_append, hnew]
        rfl

/-- A conversation that is gone on with ends with its first failure, unless there is no
    reply to go on with. -/
theorem Login.PicksUp.faults (hlogin : setup.authenticator.login? = some login)
    {running : Prover.Running} {response : Document} {course before : Course}
    {result : Except Error Unit}
    (hprover : login.prover? created before running.number = some running.prover)
    (hchallenges : before.challenges running.number = running.challenges)
    (h : login.PicksUp connection.address running response course result) :
    (∃ e, Error.of? (Sasl.Reply.read response) = some e ∧ course = [] ∧
        setup.Yields (some (.authentication, e))
          (result.mapError (Error.authenticating login.credential))) ∨
      Error.of? (Sasl.Reply.read response) = none ∧
        ∃ fault, setup.Faults connection created before course fault ∧
          setup.Yields fault (result.mapError (Error.authenticating login.credential)) := by
  have hcredential := Authenticator.credential?_of_login? hlogin
  cases h with
  | @unread e hread =>
      rw [hread]
      exact .inl ⟨e, rfl, rfl, .authentication e hcredential⟩
  | read hread rest =>
      rw [hread]
      exact .inr ⟨rfl, _, rest.faults hlogin hprover hchallenges,
        Setup.yields_mapError hcredential _⟩

end Conversation

namespace Setup

variable {setup : Setup} {connection : Connection} {created made : Nat}
  {speculation after : Speculation} {document : Document}

theorem purpose_handshake (setup : Setup) (h : Handshake) :
    Command.purpose (setup.sends h.command) = .greeting := by
  rw [Command.purpose, sends, Command.name?_prepare h.name?_command]
  exact if_pos h.isName_name

theorem purpose_probe (setup : Setup) :
    Command.purpose (setup.sends StatusProbe.command) = .other := by
  rw [Command.purpose, sends, Command.name?_prepare StatusProbe.name?_command]
  decide

theorem raised?_certifies (credential : Credential) (api : Option ServerApi) (answer : Answer)
    (before : Course) :
    setup.raised? connection created before
        (.exchanged (Command.certifies credential api) answer) =
      (Error.of? (answer.checked connection.address)).map (Origin.authentication, ·) := by
  have hpurpose : Command.purpose (Command.certifies credential api) = .certification := by
    rw [Command.purpose, Command.certifies,
      Command.name?_prepare (Command.name?_certificate credential.userName)]
    decide
  simp only [raised?, hpurpose]

section Speculating

variable {login : Login} {mechanism : Mechanism}

theorem login?_of_speculative (hlogin : setup.authenticator = .speculative login) :
    setup.authenticator.login? = some login := by
  rw [hlogin]
  rfl

/-- Having a prover made for the handshake fails if the mechanism is not known. -/
theorem raised?_making (hlogin : setup.authenticator = .speculative login) :
    setup.raised? connection created [] (.asked (.create mechanism login.credential)) =
      match login.provider.create created mechanism login.credential with
      | some _ => none
      | none => some (.authentication, mechanism.notProvided) := by
  rw [raised?_asked (login?_of_speculative hlogin), Login.raised?,
    show created + (Course.makings []).length = created from rfl]
  cases login.provider.create created mechanism login.credential <;> rfl

theorem prover?_made {prover : Prover}
    (hcreate : login.provider.create created mechanism login.credential = some prover) :
    login.prover? created [.asked (.create mechanism login.credential)] (created + 1) =
      some prover :=
  Login.prover?_making [] hcreate

/-- Asking the prover for the handshake fails if it has no first step. -/
theorem raised?_firstStep (hlogin : setup.authenticator = .speculative login) {prover : Prover}
    (hcreate : login.provider.create created mechanism login.credential = some prover) :
    setup.raised? connection created [.asked (.create mechanism login.credential)]
        (.asked (.initial (created + 1))) =
      (Error.of? prover.initial).map (Origin.firstStep, ·) := by
  rw [raised?_asked (login?_of_speculative hlogin), Login.raised?, prover?_made hcreate]
  rfl

end Speculating

/-- What there is to go on with after a handshake, and what has been done to make it. -/
structure Prepared (setup : Setup) (created : Nat) (course : Course) (document : Document)
    (after : Speculation) (made : Nat) : Prop where
  greeting : Command.purpose (setup.sends document) = .greeting
  made_eq : made = created + course.makings.length
  quiet : ∀ connection, setup.Faults connection created [] course none
  resumes : ∀ reply running response,
    (setup.kept after reply).takeResumable.1 = some (running, response) →
      running.challenges = [] ∧ ∃ login, setup.authenticator = .speculative login ∧
        login.prover? created course running.number = some running.prover
  unread : ∀ connection reply, setup.unread? connection (setup.sends document) reply =
    if setup.authenticates (.ofReply connection reply) then
      (setup.kept after reply).takeResumable.1.bind fun both =>
        Error.of? (Sasl.Reply.read both.2)
    else none

/-- A handshake that has been made raised nothing, and has a step inside exactly if there
    is a prover to go on with. -/
theorem Prepares.prepared (hadmits : setup.Admits speculation) {course : Course}
    (h : setup.Prepares speculation created course after made (.ok document)) :
    setup.Prepared created course document after made := by
  cases h with
  | plain hnot =>
      have hnothing : ∀ reply, (setup.kept speculation reply).takeResumable.1 = none :=
        takeResumable_kept_of_none <| hadmits.pending_eq_none fun login hlogin =>
          hnot login (by rw [hlogin]; rfl)
      have hcarries : (setup.sends setup.baseHandshake.command).document?
          Handshake.speculativeKey = none := by
        rw [document?_speculative_sends, Document.document?, Handshake.speculative_command,
          ← setup.baseHandshake_of_none]
        rfl
      refine ⟨setup.purpose_handshake _, rfl, fun _ => .clean [], ?_, ?_⟩
      · intro reply running response hresumable
        rw [hnothing] at hresumable
        cases hresumable
      · intro connection reply
        rw [hnothing, unread?, hcarries]
        exact (ite_self none).symm
  | @speculated login mechanism prover data hlogin hfixed hmay hcreate hinitial =>
      have hresumes : ∀ reply, (setup.kept { speculation with
          pending := some ⟨created + 1, prover, []⟩ } reply).takeResumable.1 =
            (Handshake.speculativeReply? reply).map fun response =>
              (⟨created + 1, prover, []⟩, response) :=
        takeResumable_kept_of_some hlogin rfl
      refine ⟨setup.purpose_handshake _, rfl, fun connection => .next ?_ (.next ?_ (.clean _)),
        ?_, ?_⟩
      · rw [raised?_making hlogin, hcreate]
      · rw [List.nil_append, raised?_firstStep hlogin hcreate, hinitial]
        rfl
      · intro reply running response hresumable
        rw [hresumes] at hresumable
        rcases Option.map_eq_some_iff.mp hresumable with ⟨_, _, hboth⟩
        injection hboth with hrunning _
        subst hrunning
        exact ⟨rfl, login, hlogin,
          Login.prover?_append (prover?_made hcreate) [.asked (.initial (created + 1))]⟩
      · intro connection reply
        rw [hresumes, unread?, document?_speculative_sends, Document.document?,
          Handshake.speculative_command]
        cases Handshake.speculativeReply? reply with
        | none => exact (ite_self none).symm
        | some response => rfl

/-- Only a speculation leaves something to go on with. -/
theorem unread_of_ne_speculative {resumable : Option (Prover.Running × Document)}
    (hresumes : ∀ running response, resumable = some (running, response) →
      ∃ login, setup.authenticator = .speculative login)
    (hother : ∀ login, setup.authenticator ≠ .speculative login) :
    (resumable.bind fun both => Error.of? (Sasl.Reply.read both.2)) = none := by
  cases resumable with
  | none => rfl
  | some both =>
      rcases hresumes both.1 both.2 rfl with ⟨login, hlogin⟩
      exact absurd hlogin (hother login)

/-- An authentication ends with its first failure, if what is gone on with is a reply. If
    it is none there is nothing to be done. -/
theorem authenticates_faults {negotiated : Mechanism}
    {resumable : Option (Prover.Running × Document)} {course before : Course}
    {result : Except Error Unit} (hsent : before.commands ≠ [])
    (hmade : made = created + before.makings.length)
    (hnew : ∀ number, before.challenges number = [])
    (hresumes : ∀ running response, resumable = some (running, response) →
      running.challenges = [] ∧ ∃ login, setup.authenticator = .speculative login ∧
        login.prover? created before running.number = some running.prover)
    (h : setup.authenticator.Authenticates connection.address made negotiated resumable course
      result) :
    (∃ e, (resumable.bind fun both => Error.of? (Sasl.Reply.read both.2)) = some e ∧
        course = [] ∧ setup.Yields (some (.authentication, e)) result) ∨
      (resumable.bind fun both => Error.of? (Sasl.Reply.read both.2)) = none ∧
        ∃ fault, setup.Faults connection created before course fault ∧
          setup.Yields fault result := by
  have hnothing : (∀ login, setup.authenticator ≠ .speculative login) →
      (resumable.bind fun both => Error.of? (Sasl.Reply.read both.2)) = none := by
    refine unread_of_ne_speculative fun running response hresumable => ?_
    rcases hresumes running response hresumable with ⟨_, login, hlogin, _⟩
    exact ⟨login, hlogin⟩
  generalize hauthenticator : setup.authenticator = authenticator at h hresumes hnothing
  cases h with
  | none =>
      have hother : ∀ login, Authenticator.none ≠ .speculative login := fun _ h => by cases h
      exact .inr ⟨hnothing hother, none, .clean _, .done ()⟩
  | @negotiated login _ _ rest =>
      have hother : ∀ own, Authenticator.negotiating login ≠ .speculative own :=
        fun _ h => by cases h
      have hlogin : setup.authenticator.login? = some login := by
        rw [hauthenticator]
        rfl
      exact .inr ⟨hnothing hother, rest.faults hlogin hsent hmade (hnew _)⟩
  | @refused credential api _ e hchecked =>
      have hother : ∀ login, Authenticator.certificate credential api ≠ .speculative login :=
        fun _ h => by cases h
      have hcredential : setup.authenticator.credential? = some credential := by
        rw [hauthenticator]
        rfl
      refine .inr ⟨hnothing hother, some (.authentication, e), .last ?_,
        .authentication e hcredential⟩
      rw [raised?_certifies, hchecked]
      rfl
  | @certified credential api _ _ hchecked =>
      have hother : ∀ login, Authenticator.certificate credential api ≠ .speculative login :=
        fun _ h => by cases h
      refine .inr ⟨hnothing hother, none, .next ?_ (.clean _), .done ()⟩
      rw [raised?_certifies, hchecked]
      rfl
  | @resumed login running response course result hresumable rest =>
      rcases hresumes running response hresumable with ⟨hchallenges, own, hown, hprover⟩
      injection hown with hown
      subst hown
      rw [hresumable, Option.bind_some]
      exact rest.faults (login?_of_speculative hauthenticator) hprover
        ((hnew _).trans hchallenges.symm)
  | unfixed hresumable _ =>
      rw [hresumable]
      exact .inr ⟨rfl, none, .clean _, .missing hauthenticator⟩
  | @fixed login mechanism _ _ hresumable _ rest =>
      rw [hresumable]
      exact .inr ⟨rfl, rest.faults (login?_of_speculative hauthenticator) hsent hmade (hnew _)⟩

/-- What is done after the handshake has been answered ends with its first failure, unless
    the answer to a step inside the handshake cannot be read. -/
theorem Authorizes.faults {course talk : Course} {result : Except Error Unit} {reply : Document}
    (answer : Answer) (hprepared : setup.Prepared created course document after made)
    (hnew : ∀ number, course.challenges number = [])
    (h : setup.Authorizes connection.address made (setup.kept after reply)
      (.ofReply connection reply) talk result) :
    (∃ e, setup.unread? connection (setup.sends document) reply = some e ∧
        talk = [] ∧ setup.Yields (some (.authentication, e)) result) ∨
      setup.unread? connection (setup.sends document) reply = none ∧
        ∃ fault, setup.Faults connection created
            (course ++ [.exchanged (setup.sends document) answer]) talk fault ∧
          setup.Yields fault result := by
  rw [hprepared.unread]
  cases h with
  | passed hnot =>
      rw [if_neg (by rw [hnot]; exact Bool.false_ne_true)]
      exact .inr ⟨rfl, none, .clean _, .done ()⟩
  | authenticated hdo rest =>
      rw [if_pos hdo]
      refine authenticates_faults ?_ ?_ ?_ ?_ rest
      · rw [Course.commands_append]
        exact List.append_ne_nil_of_right_ne_nil _ (List.cons_ne_nil _ _)
      · rw [Course.makings_append, hprepared.made_eq,
          show Course.makings [.exchanged (setup.sends document) answer] = [] from rfl,
          List.append_nil]
      · intro number
        rw [Course.challenges_append, hnew]
        rfl
      · intro running response hresumable
        rcases hprepared.resumes reply running response hresumable with
          ⟨hchallenges, login, hlogin, hprover⟩
        exact ⟨hchallenges, login, hlogin, Login.prover?_append hprover _⟩

/-- A handshake that is answered well raises nothing but a failure to read the answer to
    the step inside it. -/
theorem raised?_handshake {answer : Answer} {reply : Document} (before : Course)
    (hgreeting : Command.purpose (setup.sends document) = .greeting)
    (hanswer : answer.checked connection.address = .ok reply) :
    setup.raised? connection created before (.exchanged (setup.sends document) answer) =
      (setup.unread? connection (setup.sends document) reply).map
        (Origin.authentication, ·) := by
  simp only [raised?, hgreeting, hanswer]

theorem Probes.faults {opened known : Opened} {course before : Course}
    (h : setup.Probes connection.address opened course known) :
    setup.Faults connection created before course none := by
  cases h with
  | known => exact .clean _
  | asked =>
      refine .next ?_ (.clean _)
      simp only [raised?, setup.purpose_probe]

/-- What is returned for a failure does not depend on what a success would have given. -/
theorem yields_error {α β : Type} {fault : Option (Origin × Error)} {e : Error}
    (h : setup.Yields fault (.error e : Except Error α)) :
    setup.Yields fault (.error e : Except Error β) := by
  cases h with
  | missing hlogin => exact .missing hlogin
  | handshake e => exact .handshake e
  | firstStep e hcredential => exact .firstStep e hcredential
  | authentication e hcredential => exact .authentication e hcredential

/-- An opening ends with its first failure. -/
theorem Opens.faults (hadmits : setup.Admits speculation) {course : Course}
    {result : Except Error Opened}
    (h : setup.Opens connection speculation created course result) :
    ∃ fault, setup.Faults connection created [] course fault ∧ setup.Yields fault result := by
  cases h with
  | unsent hprepares =>
      cases hprepares with
      | @unsupported login mechanism hlogin _ _ hcreate =>
          refine ⟨some (.authentication, mechanism.notProvided), .last ?_,
            .authentication _ (Authenticator.credential?_of_login? (login?_of_speculative hlogin))⟩
          rw [raised?_making hlogin, hcreate]
      | @silent login mechanism prover e hlogin _ _ hcreate hinitial =>
          refine ⟨some (.firstStep, e), .next ?_ (.last ?_),
            .firstStep e (Authenticator.credential?_of_login? (login?_of_speculative hlogin))⟩
          · rw [raised?_making hlogin, hcreate]
          · rw [List.nil_append, raised?_firstStep hlogin hcreate, hinitial]
            rfl
  | @refused course after made document answer e hprepares hanswer =>
      have hprepared := hprepares.prepared hadmits
      refine ⟨some (.handshake, e), (hprepared.quiet connection).append (.last ?_), .handshake e⟩
      simp only [raised?, hprepared.greeting, hanswer]
  | @rejected course after made document answer reply talk e hprepares hanswer hauthorizes =>
      have hprepared := hprepares.prepared hadmits
      rcases hauthorizes.faults answer hprepared hprepares.exchanges_eq.2 with
        ⟨failure, hunread, rfl, hyields⟩ | ⟨hread, fault, hfaults, hyields⟩
      · refine ⟨_, (hprepared.quiet connection).append (.last ?_), yields_error hyields⟩
        rw [raised?_handshake _ hprepared.greeting hanswer, hunread]
        rfl
      · refine ⟨fault, (hprepared.quiet connection).append (.next ?_ hfaults),
          yields_error hyields⟩
        rw [raised?_handshake _ hprepared.greeting hanswer, hread]
        rfl
  | @opened course after made document answer reply talk probe known hprepares hanswer hauthorizes
      hprobes =>
      have hprepared := hprepares.prepared hadmits
      rcases hauthorizes.faults answer hprepared hprepares.exchanges_eq.2 with
        ⟨failure, _, _, hyields⟩ | ⟨hread, fault, hfaults, hyields⟩
      · cases hyields
      · cases hyields with
        | done =>
            refine ⟨none, (hprepared.quiet connection).append
              (.next ?_ (hfaults.append hprobes.faults)), .done known⟩
            rw [raised?_handshake _ hprepared.greeting hanswer, hread]
            rfl

/-- The failure of a handshake stays as it is, or becomes that of the user it asked for. -/
theorem handshakeFailure_cases (setup : Setup) (e : Error) :
    setup.handshakeFailure e = e ∨
      e.kind = .server ∧ ∃ credential, setup.authenticator.credential? = some credential ∧
        setup.handshakeFailure e = .authentication credential e := by
  rw [handshakeFailure]
  split
  · rename_i hunknown
    -- only a refusal by the server has a code
    have hserver : e.kind = .server := by
      rw [Bool.and_eq_true, decide_eq_true_eq] at hunknown
      cases e with
      | command => rfl
      | _ => cases hunknown.2
    split
    · rename_i credential hcredential
      exact .inr ⟨hserver, credential, hcredential, rfl⟩
    · exact .inl rfl
  · exact .inl rfl

/-- How the course of an opening and what it returns are connected by failures. -/
structure Blames (setup : Setup) (connection : Connection) (created : Nat) (course : Course)
    (result : Except Error Opened) : Prop where
  /-- Nothing is done after a failure. -/
  last : ∀ earlier deed later fault, course = earlier ++ deed :: later →
    setup.raised? connection created earlier deed = some fault → later = []
  /-- A failure of the transport, wherever it is raised, and a failed authentication are
      returned as they are, unless the first step inside a handshake raised them. -/
  unchanged : ∀ earlier deed origin e, course = earlier ++ [deed] →
    setup.raised? connection created earlier deed = some (origin, e) → origin ≠ .firstStep →
      e.kind = .transport ∨ e.kind = .authentication → result = .error e
  /-- Any other failure of an authentication is named after the credential once. -/
  wrapped : ∀ earlier deed e, course = earlier ++ [deed] →
    setup.raised? connection created earlier deed = some (.authentication, e) →
      e.kind ≠ .transport → e.kind ≠ .authentication →
        ∃ credential, setup.authenticator.credential? = some credential ∧
          result = .error (.authentication credential e)
  handshake : ∀ earlier deed e, course = earlier ++ [deed] →
    setup.raised? connection created earlier deed = some (.handshake, e) →
      result = .error (setup.handshakeFailure e)
  /-- A failure of the first step inside a handshake is named after the credential, of
      whatever kind it is. -/
  firstStep : ∀ earlier deed e, course = earlier ++ [deed] →
    setup.raised? connection created earlier deed = some (.firstStep, e) →
      ∃ credential, setup.authenticator.credential? = some credential ∧
        result = .error (.authentication credential e)
  /-- What is returned was raised by the last deed, or is named after the credential and
      holds what was raised, or says that the credential has no mechanism. -/
  blamed : ∀ e, result = .error e →
    (∃ earlier deed origin, course = earlier ++ [deed] ∧
        setup.raised? connection created earlier deed = some (origin, e)) ∨
      (∃ earlier deed origin credential source, course = earlier ++ [deed] ∧
        setup.raised? connection created earlier deed = some (origin, source) ∧
        setup.authenticator.credential? = some credential ∧
        e = .authentication credential source ∧
        (source.kind ≠ .transport ∧ source.kind ≠ .authentication ∨ origin = .firstStep)) ∨
      ∃ login, setup.authenticator = .speculative login ∧ e = login.mechanismMissing

/-- That a connection is being opened has nothing to do with what is raised. -/
theorem Faults.of_entered {desk : Desk} {before course : Course}
    {fault : Option (Origin × Error)}
    (h : setup.Faults desk.entered.line.connection created before course fault) :
    setup.Faults desk.line.connection created before course fault := by
  induction h with
  | clean before => exact .clean before
  | last hraised => exact .last hraised
  | next hnone _ ih => exact .next hnone ih

/-- A course with its first failure last, and the result that this yields. -/
theorem Faults.blames {course : Course} {result : Except Error Opened}
    {fault : Option (Origin × Error)} (h : setup.Faults connection created [] course fault)
    (hyields : setup.Yields fault result) : setup.Blames connection created course result where
  last earlier deed later found hcourse hraised := (h.eq_of_raised hcourse hraised).1
  unchanged earlier deed origin e hcourse hraised horigin hkind := by
    rw [(h.eq_of_raised hcourse hraised).2] at hyields
    cases hyields with
    | handshake =>
        rcases setup.handshakeFailure_cases e with heq | ⟨hserver, _⟩
        · rw [heq]
        · rw [hserver] at hkind
          exact absurd hkind (by decide)
    | firstStep => exact absurd rfl horigin
    | authentication => rw [Error.authenticating_eq, if_pos hkind]
  wrapped earlier deed e hcourse hraised htransport hauthentication := by
    rw [(h.eq_of_raised hcourse hraised).2] at hyields
    cases hyields with
    | @authentication credential _ hcredential =>
        refine ⟨credential, hcredential, ?_⟩
        rw [Error.authenticating_eq, if_neg (not_or.mpr ⟨htransport, hauthentication⟩)]
  handshake earlier deed e hcourse hraised := by
    rw [(h.eq_of_raised hcourse hraised).2] at hyields
    cases hyields with
    | handshake => rfl
  firstStep earlier deed e hcourse hraised := by
    rw [(h.eq_of_raised hcourse hraised).2] at hyields
    cases hyields with
    | @firstStep credential _ hcredential => exact ⟨credential, hcredential, rfl⟩
  blamed e hresult := by
    subst hresult
    cases hyields with
    | missing hlogin => exact .inr (.inr ⟨_, hlogin, rfl⟩)
    | handshake source =>
        rcases h.exists_raised with ⟨earlier, deed, hcourse, hraised⟩
        rcases setup.handshakeFailure_cases source with
          heq | ⟨hserver, credential, hcredential, heq⟩
        · rw [heq]
          exact .inl ⟨earlier, deed, _, hcourse, hraised⟩
        · refine .inr (.inl ⟨earlier, deed, _, credential, source, hcourse, hraised, hcredential,
            heq, .inl ?_⟩)
          rw [hserver]
          decide
    | @firstStep credential source hcredential =>
        rcases h.exists_raised with ⟨earlier, deed, hcourse, hraised⟩
        exact .inr (.inl ⟨earlier, deed, _, credential, source, hcourse, hraised, hcredential, rfl,
          .inr rfl⟩)
    | @authentication credential source hcredential =>
        rcases h.exists_raised with ⟨earlier, deed, hcourse, hraised⟩
        rw [Error.authenticating_eq]
        split
        · exact .inl ⟨earlier, deed, _, hcourse, hraised⟩
        · rename_i hkind
          exact .inr (.inl ⟨earlier, deed, _, credential, source, hcourse, hraised, hcredential,
            rfl, .inl (not_or.mp hkind)⟩)

end Setup

/-- What an opening that fails is blamed on. Open a connection that has not been opened
    before, in either mode, with any setup, provider and answers to come. A failure is the
    last thing that happens. One of the transport and a failed authentication are returned
    as they are, any other failure of the authentication is named after the credential
    once, and what is named after the credential is no other kind of failure. All this is
    so but for the first step of a prover that is asked for while the handshake is made. -/
theorem Mode.openConnection_blames (mode : Mode) (setup : Setup) {desk : Desk}
    (hstage : desk.line.connection.stage = .uninitialized)
    (hadmits : setup.Admits desk.speculation) :
    ∃ course result after,
      mode.openConnection setup desk = (some result, after) ∧
      setup.Performs desk course result after ∧
      setup.Blames desk.line.connection desk.created course result := by
  rcases mode.course_openConnection setup hstage with
    ⟨course, result, after, hopened, hperforms, hopens⟩
  rcases hopens.faults hadmits with ⟨fault, hfaults, hyields⟩
  exact ⟨course, result, after, hopened, hperforms, hfaults.of_entered.blames hyields⟩

/-- A mechanism that runs out of time is taken for a failed authentication, if its first
    step was to be sent inside the handshake. -/
theorem Mode.openConnection_blames_firstStep :
    ∃ course result after,
      Mode.blocking.openConnection
          (({} : Setup).withCredential ⟨(Credential.make "admin" (some "user")
            (some "pencil")).withMechanism .scramSha256, Script.provider
              { first := .error (.timeout "slow"), answers := [] }⟩ none)
          (.fresh (.scripted .localhost []) ⟨⟨.draw 0 none, .localhost⟩, 1, none⟩ none {} 0) =
        (some result, after) ∧
      result = .error (.authentication ((Credential.make "admin" (some "user")
        (some "pencil")).withMechanism .scramSha256) (.timeout "slow")) ∧
      Setup.Blames (({} : Setup).withCredential ⟨(Credential.make "admin" (some "user")
            (some "pencil")).withMechanism .scramSha256, Script.provider
              { first := .error (.timeout "slow"), answers := [] }⟩ none)
        (.make (.scripted .localhost []) ⟨⟨.draw 0 none, .localhost⟩, 1, none⟩ none) 0
        course result := by
  have hstage : (Desk.fresh (.scripted .localhost []) ⟨⟨.draw 0 none, .localhost⟩, 1, none⟩ none
      {} 0).line.connection.stage = .uninitialized := rfl
  rcases Mode.blocking.openConnection_blames
      (({} : Setup).withCredential ⟨(Credential.make "admin" (some "user")
        (some "pencil")).withMechanism .scramSha256, Script.provider
          { first := .error (.timeout "slow"), answers := [] }⟩ none)
      hstage (Setup.admits_empty _) with
    ⟨course, result, after, hopened, _, hblames⟩
  refine ⟨course, result, after, hopened, ?_, hblames⟩
  have hresult := congrArg (fun outcome => outcome.1) hopened
  injection hresult with hresult
  exact hresult.symm

end DocumentLink
