import DocumentLink.Proofs.Conversation
import DocumentLink.Proofs.Modes

/-!
# Courses of an Opening

How the opening of a connection can go, from making the handshake to the status
probe, and how it ends. As with conversations there is one constructor for every
way in which a part can end.

## Main definitions

* `Setup.Prepares`: The courses of making the handshake.
* `Setup.Authorizes`: The courses of the authentication, or of passing it over.
* `Setup.Probes`: The courses of asking for the server's number.
* `Setup.Opens`: The courses of a whole opening.
* `Setup.Performs`: What a course leaves behind once its end is stored.

## Theorems

* `Setup.runAt_handshake_of_fixed`, `Blocking.runAt_greet`: What the handshake of a
  login that speculates comes to, and what greeting a server does.
* `Blocking.course_handshake`, `Blocking.course_authorize`, `Blocking.course_probe`,
  `Blocking.course_acquaint`, `Blocking.course_establish`: The client takes one of
  these courses.
* `Mode.openConnection_of_fresh`: Opening a fresh connection, in either mode, is entering
  it, doing the blocking work and storing its end.
* `Mode.course_openConnection`: It takes one of these courses, in either mode.
* `Setup.Performs.sent_eq`, `Setup.Performs.ready`, `Setup.Performs.failed`: What can
  be seen of it.
-/

namespace DocumentLink

namespace Setup

def observed (setup : Setup) : Bool :=
  setup.authenticator.observed

def sends (setup : Setup) (document : Document) : Document :=
  Command.prepare document Command.adminDatabase setup.api

/-- What is kept of a speculation when the reply to the handshake is there. -/
def kept (setup : Setup) (speculation : Speculation) (reply : Document) : Speculation :=
  if setup.authenticator.speculative?.isSome then
    speculation.respond (Handshake.speculativeReply? reply)
  else speculation

/-- Without a step to send, the handshake is what it always is. -/
theorem baseHandshake_of_none (setup : Setup) :
    { setup.baseHandshake with speculative := none : Handshake } = setup.baseHandshake := by
  rw [baseHandshake]
  cases setup.askedUser <;> rfl

/-- The handshake of a login that speculates asks a new prover what to send first, and
    keeps it. -/
theorem runAt_handshake_of_fixed {setup : Setup} {login : Login} {mechanism : Mechanism}
    (hlogin : setup.authenticator = .speculative login)
    (hfixed : login.credential.mechanism = some mechanism)
    (hmay : mechanism.isSpeculative = true) (desk : Desk) :
    setup.handshake.runAt desk =
      let noted := desk.note login.provider.observed (.create mechanism login.credential)
      match login.provider.create desk.created mechanism login.credential with
      | none => (.error (login.unsupported mechanism), noted)
      | some prover =>
        let running : Prover.Running := { number := desk.created + 1, prover := prover }
        let asked := Desk.note { noted with created := running.number } login.provider.observed
          (.initial running.number)
        match prover.initial with
        | .error e => (.error (.authentication login.credential e), asked)
        | .ok data =>
          (.ok { setup.baseHandshake with
              speculative :=
                some (Sasl.start prover.mechanism data (some login.credential.source)) }.command,
            { asked with speculation.pending := some running }) := by
  have hspeculates : login.maySpeculate = true := by
    rw [Login.maySpeculate, hfixed]
    exact hmay
  have hspeculative : setup.authenticator.speculative? = some login := by
    rw [hlogin]
    rfl
  rw [runAt_handshake_of_some hspeculative, Login.runAt_speculate hspeculates,
    Login.createFixedProver, hfixed]
  simp only [Login.runAt_createProver]
  cases login.provider.create desk.created mechanism login.credential with
  | none => rfl
  | some prover =>
      simp only []
      cases prover.initial <;> rfl

/-- What making the handshake comes to if it speculates. -/
theorem fst_handshake_of_fixed {setup : Setup} {login : Login} {mechanism : Mechanism}
    (hlogin : setup.authenticator = .speculative login)
    (hfixed : login.credential.mechanism = some mechanism)
    (hmay : mechanism.isSpeculative = true) (desk : Desk) :
    (setup.handshake.runAt desk).1 =
      match login.provider.create desk.created mechanism login.credential with
      | none => .error (login.unsupported mechanism)
      | some prover =>
        match prover.initial with
        | .error e => .error (.authentication login.credential e)
        | .ok data => .ok { setup.baseHandshake with
            speculative :=
              some (Sasl.start prover.mechanism data (some login.credential.source)) }.command := by
  rw [runAt_handshake_of_fixed hlogin hfixed hmay]
  cases login.provider.create desk.created mechanism login.credential with
  | none => rfl
  | some prover =>
      simp only []
      cases prover.initial <;> rfl

/-- The courses of making the handshake, with what is kept of a speculation and how
    many provers there are afterwards. -/
inductive Prepares (setup : Setup) (speculation : Speculation) (created : Nat) :
    Course → Speculation → Nat → Except Error Document → Prop where
  /-- Nothing is sent on speculation. -/
  | plain (hnot : ∀ login, setup.authenticator.speculative? = some login →
        login.maySpeculate = false) :
      Prepares setup speculation created [] speculation created (.ok setup.baseHandshake.command)
  | unsupported {login : Login} {mechanism : Mechanism}
      (hlogin : setup.authenticator = .speculative login)
      (hfixed : login.credential.mechanism = some mechanism)
      (hmay : mechanism.isSpeculative = true)
      (hcreate : login.provider.create created mechanism login.credential = none) :
      Prepares setup speculation created [.asked (.create mechanism login.credential)]
        speculation created (.error (login.unsupported mechanism))
  | silent {login : Login} {mechanism : Mechanism} {prover : Prover} {e : Error}
      (hlogin : setup.authenticator = .speculative login)
      (hfixed : login.credential.mechanism = some mechanism)
      (hmay : mechanism.isSpeculative = true)
      (hcreate : login.provider.create created mechanism login.credential = some prover)
      (hinitial : prover.initial = .error e) :
      Prepares setup speculation created
        [.asked (.create mechanism login.credential), .asked (.initial (created + 1))]
        speculation (created + 1) (.error (.authentication login.credential e))
  /-- The first step of a new prover is sent on speculation. -/
  | speculated {login : Login} {mechanism : Mechanism} {prover : Prover} {data : Bytes}
      (hlogin : setup.authenticator = .speculative login)
      (hfixed : login.credential.mechanism = some mechanism)
      (hmay : mechanism.isSpeculative = true)
      (hcreate : login.provider.create created mechanism login.credential = some prover)
      (hinitial : prover.initial = .ok data) :
      Prepares setup speculation created
        [.asked (.create mechanism login.credential), .asked (.initial (created + 1))]
        { speculation with pending := some { number := created + 1, prover := prover } }
        (created + 1)
        (.ok { setup.baseHandshake with
          speculative :=
            some (Sasl.start prover.mechanism data (some login.credential.source)) }.command)

/-- Making the handshake exchanges nothing and gives no challenges. -/
theorem Prepares.exchanges_eq {setup : Setup} {speculation after : Speculation}
    {created made : Nat} {course : Course} {result : Except Error Document}
    (h : setup.Prepares speculation created course after made result) :
    course.exchanges = [] ∧ ∀ number, course.challenges number = [] := by
  cases h <;> exact ⟨rfl, fun _ => rfl⟩

/-- The courses of the authentication, or of passing it over. -/
inductive Authorizes (setup : Setup) (address : Address) (created : Nat) (speculation : Speculation)
    (opened : Opened) : Course → Except Error Unit → Prop where
  | passed (hnot : setup.authenticates opened = false) :
      Authorizes setup address created speculation opened [] (.ok ())
  | authenticated {course result} (hdo : setup.authenticates opened = true)
      (rest : setup.authenticator.Authenticates address created opened.connection.negotiated
        speculation.takeResumable.1 course result) :
      Authorizes setup address created speculation opened course result

/-- The courses of asking for the server's number. Asking cannot fail. -/
inductive Probes (setup : Setup) (address : Address) (opened : Opened) :
    Course → Opened → Prop where
  | known (hnot : opened.needsProbe = false) : Probes setup address opened [] opened
  | asked {answer : Answer} (hdo : opened.needsProbe = true) :
      Probes setup address opened [.exchanged (setup.sends StatusProbe.command) answer]
        (opened.applyProbe (answer.checked address))

/-- The courses of opening a connection, and how they end. -/
inductive Opens (setup : Setup) (connection : Connection) (speculation : Speculation)
    (created : Nat) : Course → Except Error Opened → Prop where
  /-- There is no handshake to send. -/
  | unsent {course after made e}
      (hprepared : setup.Prepares speculation created course after made (.error e)) :
      Opens setup connection speculation created course (.error e)
  /-- The handshake fails. -/
  | refused {course after made document answer e}
      (hprepared : setup.Prepares speculation created course after made (.ok document))
      (hanswer : Answer.checked answer connection.address = .error e) :
      Opens setup connection speculation created
        (course ++ [.exchanged (setup.sends document) answer])
        (.error (setup.handshakeFailure e))
  /-- The authentication fails. -/
  | rejected {course after made document answer reply talk e}
      (hprepared : setup.Prepares speculation created course after made (.ok document))
      (hanswer : Answer.checked answer connection.address = .ok reply)
      (hauthorizes : setup.Authorizes connection.address made (setup.kept after reply)
        (.ofReply connection reply) talk (.error e)) :
      Opens setup connection speculation created
        (course ++ .exchanged (setup.sends document) answer :: talk) (.error e)
  | opened {course after made document answer reply talk probe opened}
      (hprepared : setup.Prepares speculation created course after made (.ok document))
      (hanswer : Answer.checked answer connection.address = .ok reply)
      (hauthorizes : setup.Authorizes connection.address made (setup.kept after reply)
        (.ofReply connection reply) talk (.ok ()))
      (hprobes : setup.Probes connection.address (.ofReply connection reply) probe opened) :
      Opens setup connection speculation created
        (course ++ .exchanged (setup.sends document) answer :: (talk ++ probe)) (.ok opened)

end Setup

namespace Blocking

/-- Making the handshake takes one of its courses, and exchanges nothing. -/
theorem course_handshake (setup : Setup) (desk : Desk) :
    ∃ course, desk.line.Follows setup.observed course (setup.handshake.runAt desk).2.line ∧
      setup.Prepares desk.speculation desk.created course
        (setup.handshake.runAt desk).2.speculation (setup.handshake.runAt desk).2.created
        (setup.handshake.runAt desk).1 := by
  cases hspeculative : setup.authenticator.speculative? with
  | none =>
      rw [Setup.runAt_handshake_of_none hspeculative]
      refine ⟨[], .refl _, .plain (fun login hlogin => ?_)⟩
      rw [hspeculative] at hlogin
      simp only [reduceCtorEq] at hlogin
  | some login =>
      -- Only the authenticator with a fixed mechanism gives a login to speculate with.
      have hlogin : setup.authenticator = .speculative login := by
        cases hauthenticator : setup.authenticator with
        | speculative own =>
            rw [hauthenticator] at hspeculative
            injection hspeculative with hown
            rw [hown]
        | _ =>
            rw [hauthenticator] at hspeculative
            cases hspeculative
      have hobserved : setup.observed = login.provider.observed := by
        rw [Setup.observed, hlogin]
        rfl
      rw [Setup.runAt_handshake_of_some hspeculative, hobserved]
      cases hmay : login.maySpeculate with
      | false =>
          rw [Login.runAt_speculate_of_not hmay]
          simp only [Except.map, Setup.baseHandshake_of_none]
          refine ⟨[], .refl _, .plain (fun own hown => ?_)⟩
          rw [hspeculative] at hown
          injection hown with hown
          rw [← hown, hmay]
      | true =>
          rw [Login.runAt_speculate hmay, Login.createFixedProver]
          cases hfixed : login.credential.mechanism with
          | none =>
              rw [Login.maySpeculate, hfixed] at hmay
              cases hmay
          | some mechanism =>
              rw [Login.maySpeculate, hfixed] at hmay
              simp only []
              rw [Login.runAt_createProver]
              cases hcreate : login.provider.create desk.created mechanism login.credential with
              | none => exact ⟨_, .asked (.refl _), .unsupported hlogin hfixed hmay hcreate⟩
              | some prover =>
                  simp only []
                  cases hinitial : prover.initial with
                  | error e =>
                      exact ⟨_, .asked (.asked (.refl _)),
                        .silent hlogin hfixed hmay hcreate hinitial⟩
                  | ok data =>
                      exact ⟨_, .asked (.asked (.refl _)),
                        .speculated hlogin hfixed hmay hcreate hinitial⟩

/-- The authentication takes one of its courses, also where it is passed over. -/
theorem course_authorize (setup : Setup) (opened : Opened) (desk : Desk) :
    desk.line.Takes setup.observed
      ((authorize setup opened).runAt desk)
      (setup.Authorizes desk.address desk.created desk.speculation opened) := by
  rw [authorize]
  cases hdo : setup.authenticates opened with
  | false => exact ⟨[], .refl _, .passed hdo⟩
  | true =>
      exact (course_authenticate setup.authenticator opened.connection desk).mono
        fun _ _ h => .authenticated hdo h

theorem course_probe (setup : Setup) (opened : Opened) (desk : Desk) :
    desk.line.Takes setup.observed ((probe setup opened).runAt desk)
      fun course result => ∃ known, result = .ok known ∧
        setup.Probes desk.address opened course known := by
  rw [probe]
  cases hneeds : opened.needsProbe with
  | false => exact ⟨[], .refl _, opened, rfl, .known hneeds⟩
  | true =>
      simp only [if_true]
      rw [Act.runAt_bind, Act.runAt_tried, runAt_command]
      exact .exchanged (setup.sends StatusProbe.command) ⟨[], .refl _, _, rfl, .asked hneeds⟩

theorem runAt_learn {α : Type} (setup : Setup) (reply : Document) (next : Opened → Act α)
    (desk : Desk) :
    (do let opened ← setup.learn reply
        next opened : Act α).runAt desk =
      (next (.ofReply desk.line.connection reply)).runAt
        { desk with speculation := setup.kept desk.speculation reply } := by
  show (next ((setup.learn reply).run desk).1).runAt ((setup.learn reply).run desk).2 = _
  rw [Setup.run_learn, Setup.kept]
  cases setup.authenticator.speculative?.isSome <;> rfl

/-- What greeting a server comes to: without a handshake nothing is sent, and without
    a reply nothing is learned. -/
theorem runAt_greet (setup : Setup) (desk : Desk) :
    (greet setup).runAt desk =
      match setup.handshake.runAt desk with
      | (.error e, made) => (.error e, made)
      | (.ok document, made) =>
        let (answer, line) := exchange made.line (setup.sends document)
        match answer.checked made.address with
        | .error e => (.error (setup.handshakeFailure e), { made with line := line })
        | .ok reply => (.ok (.ofReply line.connection reply),
          { made with line := line, speculation := setup.kept made.speculation reply }) := by
  rw [greet, Act.runAt_bind]
  rcases setup.handshake.runAt desk with ⟨document, made⟩
  cases document with
  | error e => rfl
  | ok document =>
      simp only []
      rw [Act.runAt_bind, Act.runAt_mapError, runAt_command, Setup.sends]
      simp only []
      cases Answer.checked (exchange made.line _).1 made.address with
      | error e => rfl
      | ok reply =>
          show ((.ok ((setup.learn reply).run _).1, ((setup.learn reply).run _).2) :
            Except Error Opened × Desk) = _
          rw [Setup.run_learn]
          simp only [Setup.kept]
          cases setup.authenticator.speculative?.isSome <;> rfl

/-- What is learned from the reply to the handshake does not depend on when, on a
    connection that has followed a course. -/
theorem ofReply_of_follows {observed : Bool} {line after : Line} {course : Course}
    (h : line.Follows observed course after) (reply : Document) :
    Opened.ofReply after.connection reply = .ofReply line.connection reply := by
  have haddress := h.address_eq
  have hlatency := h.latency_eq
  rw [Opened.ofReply, haddress, hlatency, h.connection_eq]
  rfl

/-- After the reply to the handshake a client authenticates and probes. -/
theorem course_acquaint (setup : Setup) (opened : Opened) (desk : Desk) :
    desk.line.Takes setup.observed ((acquaint setup opened).runAt desk) fun course result =>
      (∃ e, result = .error e ∧
        setup.Authorizes desk.address desk.created desk.speculation opened course (.error e)) ∨
      ∃ talk probe known, course = talk ++ probe ∧ result = .ok known ∧
        setup.Authorizes desk.address desk.created desk.speculation opened talk (.ok ()) ∧
        setup.Probes desk.address opened probe known := by
  rcases course_authorize setup opened desk with ⟨talk, hfollows, hauthorizes⟩
  refine .after hfollows ?_
  -- A failure ends the course here, and a success is followed by the probe.
  rw [acquaint, Act.runAt_bind]
  generalize (authorize setup opened).runAt desk = authorized at hfollows hauthorizes ⊢
  rcases authorized with ⟨result, authorized⟩
  cases result with
  | error e =>
      refine ⟨[], .refl _, .inl ⟨e, rfl, ?_⟩⟩
      rw [List.append_nil]
      exact hauthorizes
  | ok done =>
      refine (course_probe setup opened authorized).mono ?_
      rintro probe result ⟨known, hresult, hprobes⟩
      have haddress : authorized.address = desk.address := hfollows.address_eq
      rw [haddress] at hprobes
      exact .inr ⟨talk, probe, known, rfl, hresult, hauthorizes, hprobes⟩

theorem course_learn (setup : Setup) (reply : Document) (desk : Desk) :
    desk.line.Takes setup.observed
      ((do let opened ← setup.learn reply
           acquaint setup opened : Act Opened).runAt desk) fun course result =>
      (∃ e, result = .error e ∧
        setup.Authorizes desk.address desk.created (setup.kept desk.speculation reply)
          (.ofReply desk.line.connection reply) course (.error e)) ∨
      ∃ talk probe known, course = talk ++ probe ∧ result = .ok known ∧
        setup.Authorizes desk.address desk.created (setup.kept desk.speculation reply)
          (.ofReply desk.line.connection reply) talk (.ok ()) ∧
        setup.Probes desk.address (.ofReply desk.line.connection reply) probe known := by
  rw [runAt_learn]
  exact course_acquaint setup (.ofReply desk.line.connection reply)
    { desk with speculation := setup.kept desk.speculation reply }

/-- An opening that has been entered takes one of its courses. -/
theorem course_establish (setup : Setup) (desk : Desk) :
    desk.line.Takes setup.observed ((establish setup).runAt desk)
      (setup.Opens desk.line.connection desk.speculation desk.created) := by
  rcases course_handshake setup desk with ⟨course, hfollows, hprepared⟩
  refine .after hfollows ?_
  -- Making the handshake may ask a prover, and exchanges nothing.
  simp only [establish, greet, bind_assoc]
  rw [Act.runAt_bind]
  generalize setup.handshake.runAt desk = prepared at hfollows hprepared ⊢
  rcases prepared with ⟨document, made⟩
  cases document with
  | error e =>
      refine ⟨[], .refl _, ?_⟩
      simp only [List.append_nil]
      exact .unsent hprepared
  | ok document =>
      have haddress : made.address = desk.line.connection.address := hfollows.address_eq
      simp only []
      rw [Act.runAt_bind, Act.runAt_mapError, runAt_command, haddress]
      refine .exchanged (setup.sends document) ?_
      cases hanswer : Answer.checked _ desk.line.connection.address with
      | error e => exact ⟨[], .refl _, .refused hprepared hanswer⟩
      | ok reply =>
          -- What the reply teaches does not depend on what has been sent, so it can be stated
          -- about the connection as it was at first.
          have hsent :=
            hfollows.append (.exchanged (.refl (exchange made.line (setup.sends document)).2))
          have hrest := course_learn setup reply
            { made with line := (exchange made.line (setup.sends document)).2 }
          rw [Desk.address, hsent.address_eq, ofReply_of_follows hsent reply] at hrest
          refine hrest.mono ?_
          rintro rest result (⟨e, rfl, hauthorizes⟩ |
            ⟨talk, probe, known, rfl, rfl, hauthorizes, hprobes⟩)
          · exact .rejected hprepared hanswer hauthorizes
          · exact .opened hprepared hanswer hauthorizes hprobes

end Blocking

/-- The desk of a connection that has not been opened before, with nothing kept of any
    speculation. -/
def Desk.fresh (transport : Transport) (id : ConnectionId) (listener : Option Listener)
    (journal : Journal) (created : Nat) : Desk where
  line := ⟨.make transport id listener, journal⟩
  created := created

/-- A desk is left by an opening that followed a course and then stored its end. -/
def Setup.Performs (setup : Setup) (desk : Desk) (course : Course)
    (result : Except Error Opened) (after : Desk) : Prop :=
  ∃ settling, desk.entered.line.Follows setup.observed course settling ∧
    after.line = { settling with connection := settling.connection.settle result }

namespace Setup

variable {setup : Setup} {desk after : Desk} {course : Course} {result : Except Error Opened}

/-- Everything that was sent is a command of the course. -/
theorem Performs.sent_eq (h : setup.Performs desk course result after) :
    after.line.connection.transport.sent =
      desk.line.connection.transport.sent ++ course.commands := by
  rcases h with ⟨settling, hfollows, hafter⟩
  rw [hafter]
  have hsent := hfollows.sent_eq
  cases result <;> exact hsent

theorem Performs.ready {opened : Opened} (h : setup.Performs desk course (.ok opened) after) :
    after.line.connection.stage = .ready := by
  rcases h with ⟨settling, _, hafter⟩
  rw [hafter]
  rfl

theorem Performs.failed {e : Error} (h : setup.Performs desk course (.error e) after) :
    after.line.connection.stage = .failed := by
  rcases h with ⟨settling, _, hafter⟩
  rw [hafter]
  rfl

end Setup

/-- The opening of a connection that has not been opened before is entered, and its end
    is stored. -/
theorem Mode.openConnection_of_fresh (mode : Mode) (setup : Setup) {desk : Desk}
    (h : desk.line.connection.stage = .uninitialized) :
    mode.openConnection setup desk =
      (some ((Blocking.establish setup).runAt desk.entered).1,
        ((Blocking.establish setup).runAt desk.entered).2.settle
          ((Blocking.establish setup).runAt desk.entered).1) := by
  rw [openConnection_eq, Blocking.openConnection, Desk.begin_of_uninitialized h]

/-- The opening of a connection that has not been opened before takes one of the
    courses of openings, in either mode. -/
theorem Mode.course_openConnection (mode : Mode) (setup : Setup) {desk : Desk}
    (h : desk.line.connection.stage = .uninitialized) :
    ∃ course result after, mode.openConnection setup desk = (some result, after) ∧
      setup.Performs desk course result after ∧
      setup.Opens desk.entered.line.connection desk.speculation desk.created course result := by
  rcases Blocking.course_establish setup desk.entered with ⟨course, hfollows, hopens⟩
  refine ⟨course, (Blocking.openConnection setup desk).1, (Blocking.openConnection setup desk).2,
    openConnection_eq mode setup desk, ?_⟩
  simp only [Blocking.openConnection, Desk.begin_of_uninitialized h]
  exact ⟨⟨_, hfollows, rfl⟩, hopens⟩

end DocumentLink
