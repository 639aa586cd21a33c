import DocumentLink.Proofs.Exactness
import DocumentLink.Proofs.Learning
import DocumentLink.Proofs.Monitoring

/-!
# Refused Handshakes

What an opening returns if its handshake fails.

A handshake fails with the failure of the transport, or with the refusal that a reply without
success reports. The refusal has the code that the reply gives, if that is exactly an integer of
32 bits, so no other number passes for it. Either failure is returned as it is, unless it says
that the user is missing whom the handshake asked about. Then it is the authentication that has
failed, and the failure is named after the credential.

Whether the handshake asked about a user shows in the command. The decision is not made by the
command, though, but by the way of authentication: a login whose mechanism is open counts as
having asked. It has asked if its credential names a user. A login without a user name asks
about nobody, and a missing user is named after its credential all the same. Nor is it seen
where a failure comes from, so the same holds of one that the transport makes up by itself.

## Main definitions

* `Document.GivesCode`: The code that a reply gives.
* `Answer.Fails`: The failure of a handshake, by the answer to it.
* `Answer.MissesUser`: The answers that say that a user is missing.
* `Setup.AsksAboutNobody`: A login whose mechanism is open and that has no user name.
* `Setup.Reports`: How the failure of a handshake is reported.

## Theorems

* `Answer.fails_iff`: An answer fails or is a reply that reports success.
* `Setup.contains_sends_iff`: The handshakes that ask about a user.
* `Mode.openConnection_refused`: What an opening returns if its handshake fails.
-/

namespace DocumentLink

/-- The key of the code in a reply without success. -/
def Document.codeKey : String := "code"

/-- The code that a reply gives: its number, if that is an integer of 32 bits, else minus one. -/
inductive Document.GivesCode (reply : Document) : Int → Prop where
  | exact {n : Json.Number} {code : Int} (hnumber : reply.number? codeKey = some n)
      (hcode : n.IsInt32 code) : GivesCode reply code
  | none (hnone : ∀ n code, reply.number? codeKey = some n → ¬n.IsInt32 code) :
      GivesCode reply (-1)

/-- The failure of a handshake: the transport's, or the refusal that the reply reports. -/
inductive Answer.Fails (address : Address) : Answer → Error → Prop where
  | raised (e : Error) : Fails address (.error e) e
  | refused {reply : Document} {code : Int} (hok : reply.isOk = false)
      (hcode : reply.GivesCode code) :
      Fails address (.ok reply) (.command code ((reply.string? "codeName").getD "")
        ((reply.string? "errmsg").getD "") address)

/-- The answers that say that a user is missing: a reply without success whose code is worth
    eleven, or a failure of the transport that passes for such a refusal. -/
inductive Answer.MissesUser : Answer → Prop where
  | refused {reply : Document} {n : Json.Number} (hok : reply.isOk = false)
      (hnumber : reply.number? Document.codeKey = some n) (hcode : n.toRat = (11 : Int)) :
      MissesUser (.ok reply)
  | raised (name message : String) (address : Address) :
      MissesUser (.error (.command 11 name message address))

namespace Document

variable {reply : Document}

/-- There is one code that a reply gives, and it is the one that is reported. -/
theorem givesCode_iff {code : Int} :
    reply.GivesCode code ↔ code = (reply.int32? codeKey).getD (-1) := by
  constructor
  · intro h
    cases h with
    | exact hnumber hcode => rw [int32?_eq_some_iff.mpr ⟨_, hnumber, hcode⟩]; rfl
    | none hnone =>
        cases hread : reply.int32? codeKey with
        | none => rfl
        | some code =>
            rcases int32?_eq_some_iff.mp hread with ⟨n, hnumber, hcode⟩
            exact absurd hcode (hnone n code hnumber)
  · rintro rfl
    cases hread : reply.int32? codeKey with
    | none =>
        refine .none fun n code hnumber hcode => ?_
        rw [int32?_eq_some_iff.mpr ⟨n, hnumber, hcode⟩] at hread
        cases hread
    | some code =>
        rcases int32?_eq_some_iff.mp hread with ⟨n, hnumber, hcode⟩
        exact .exact hnumber hcode

end Document

namespace Answer

variable {answer : Answer} {address : Address} {failure : Error}

/-- An answer fails as a checked one does. -/
theorem fails_iff : answer.Fails address failure ↔ answer.checked address = .error failure := by
  cases answer with
  | error e =>
      constructor
      · rintro ⟨⟩
        rfl
      · intro h
        injection h with h
        exact h ▸ .raised e
  | ok reply =>
      show _ ↔ reply.checked address = _
      rw [Document.checked, Document.refusal]
      constructor
      · rintro (_ | ⟨hok, hcode⟩)
        rw [hok, Document.givesCode_iff.mp hcode]
        rfl
      · intro h
        by_cases hok : reply.isOk = true
        · rw [if_pos hok] at h
          cases h
        · rw [if_neg hok] at h
          injection h with h
          exact h ▸ .refused (Bool.not_eq_true _ ▸ hok) (Document.givesCode_iff.mpr rfl)

/-- The code of a failure is that of a missing user if and only if the answer says so. -/
theorem Fails.code?_eq_iff (h : answer.Fails address failure) :
    failure.code? = some Error.userNotFound ↔ answer.MissesUser := by
  have huser : Error.userNotFound = 11 := rfl
  cases h with
  | raised =>
      constructor
      · intro hcode
        cases failure with
        | command code name message address =>
            injection hcode with hcode
            rw [hcode]
            exact .raised name message address
        | _ => cases hcode
      · rintro (_ | _)
        rfl
  | @refused reply code hok hcode =>
      show some code = _ ↔ _
      rw [Option.some.injEq, huser]
      constructor
      · rintro rfl
        cases hcode with
        | exact hnumber hcode => exact .refused hok hnumber hcode.1
      · rintro (⟨_, hnumber, heleven⟩ | _)
        have hread : Document.GivesCode reply 11 := .exact hnumber ⟨heleven, by decide, by decide⟩
        rw [Document.givesCode_iff] at hcode hread
        rw [hcode, hread]

end Answer

namespace Setup

variable {setup : Setup}

/-- A login whose mechanism is open and whose credential has no user name. -/
def AsksAboutNobody (setup : Setup) : Prop :=
  setup.authenticator.negotiates = true ∧
    ∀ credential, setup.authenticator.credential? = some credential → credential.userName = none

/-- How the failure of a handshake is reported: after the credential, if it says that the user
    is missing and the handshake asked about one, or would have with a user name. -/
structure Reports (setup : Setup) (sent : Document) (answer : Answer) (failure e : Error) :
    Prop where
  named_iff : (∃ credential, setup.authenticator.credential? = some credential ∧
      e = .authentication credential failure) ↔
    (sent.contains Handshake.mechanismsKey = true ∨ setup.AsksAboutNobody) ∧ answer.MissesUser
  unchanged : (¬∃ credential, setup.authenticator.credential? = some credential ∧
    e = .authentication credential failure) → e = failure

/-- The handshake asks about the user of a login whose mechanism is open. -/
theorem contains_sends_iff {desk made : Desk} {document : Document}
    (h : setup.handshake.runAt desk = (.ok document, made)) :
    (setup.sends document).contains Handshake.mechanismsKey = true ↔
      setup.authenticator.negotiates = true ∧ ∃ credential user,
        setup.authenticator.credential? = some credential ∧ credential.userName = some user := by
  rcases Blocking.course_handshake setup desk with ⟨course, _, hprepared⟩
  rw [h] at hprepared
  rcases hprepared.eq_command with ⟨step, rfl⟩
  rw [Document.contains, sends, Command.get?_prepare _ _ _ (by decide) (by decide),
    Handshake.mechanisms_command, Option.isSome_map]
  show setup.baseHandshake.mechanismsOf.isSome = true ↔ _
  rw [setup.mechanismsOf_baseHandshake, Option.isSome_map, askedUser]
  by_cases hnegotiates : setup.authenticator.negotiates = true
  · rw [if_pos hnegotiates, and_iff_right hnegotiates, Option.isSome_iff_exists]
    simp only [Option.bind_eq_some_iff, Option.map_eq_some_iff, Prod.exists]
    constructor
    · rintro ⟨_, _, credential, hcredential, user, huser, _⟩
      exact ⟨credential, user, hcredential, huser⟩
    · rintro ⟨credential, user, hcredential, huser⟩
      exact ⟨_, _, credential, hcredential, user, huser, rfl⟩
  · rw [if_neg hnegotiates]
    exact iff_of_false (by decide) fun hasks => hnegotiates hasks.1

/-- A login whose mechanism is open has asked about its user, or has none to ask about. -/
theorem negotiates_iff {desk made : Desk} {document : Document}
    (h : setup.handshake.runAt desk = (.ok document, made)) :
    setup.authenticator.negotiates = true ↔
      (setup.sends document).contains Handshake.mechanismsKey = true ∨ setup.AsksAboutNobody := by
  rw [contains_sends_iff h, AsksAboutNobody, ← and_or_left]
  refine (and_iff_left_of_imp fun hnegotiates => ?_).symm
  by_cases hnamed : ∃ credential user,
      setup.authenticator.credential? = some credential ∧ credential.userName = some user
  · exact .inl hnamed
  · refine .inr fun credential hcredential => ?_
    by_contra huser
    rcases Option.ne_none_iff_exists'.mp huser with ⟨user, huser⟩
    exact hnamed ⟨credential, user, hcredential, huser⟩

/-- The failure of a handshake is reported after the credential or as it is. -/
theorem reports_handshakeFailure {desk made : Desk} {document : Document}
    (h : setup.handshake.runAt desk = (.ok document, made)) {answer : Answer} {address : Address}
    {failure : Error} (hfails : answer.Fails address failure) :
    setup.Reports (setup.sends document) answer failure (setup.handshakeFailure failure) := by
  have hnegotiates := negotiates_iff h
  have hcode := hfails.code?_eq_iff
  by_cases hmissing : setup.authenticator.negotiates = true ∧
      failure.code? = some Error.userNotFound
  · -- There is a credential wherever a mechanism is open.
    have hcredential : ∃ credential, setup.authenticator.credential? = some credential := by
      cases hauthenticator : setup.authenticator with
      | negotiating login => exact ⟨login.credential, rfl⟩
      | _ =>
          rw [hauthenticator] at hmissing
          cases hmissing.1
    rcases hcredential with ⟨credential, hcredential⟩
    have hfailure : setup.handshakeFailure failure = .authentication credential failure := by
      rw [handshakeFailure, hmissing.1, decide_eq_true hmissing.2, Bool.and_self, if_pos rfl,
        hcredential]
    have hnamed : ∃ credential, setup.authenticator.credential? = some credential ∧
        setup.handshakeFailure failure = .authentication credential failure :=
      ⟨credential, hcredential, hfailure⟩
    exact ⟨iff_of_true hnamed ⟨hnegotiates.mp hmissing.1, hcode.mp hmissing.2⟩,
      fun hnot => absurd hnamed hnot⟩
  · have hfailure : setup.handshakeFailure failure = failure := by
      rw [handshakeFailure, if_neg]
      rwa [Bool.and_eq_true, decide_eq_true_eq]
    refine ⟨iff_of_false ?_ ?_, fun _ => hfailure⟩
    · -- No failure is a failure around itself.
      rintro ⟨credential, _, hnamed⟩
      rw [hfailure] at hnamed
      have hsize := congrArg sizeOf hnamed
      rw [Error.authentication.sizeOf_spec] at hsize
      omega
    · rintro ⟨hasks, huser⟩
      exact hmissing ⟨hnegotiates.mpr hasks, hcode.mpr huser⟩

end Setup

namespace Blocking

variable {setup : Setup} {desk made : Desk} {document : Document}

/-- The answer to the handshake is the one that the transport gives next. -/
theorem fst_exchange_handshake (hmade : setup.handshake.runAt desk = (.ok document, made)) :
    (exchange made.line (setup.sends document)).1 = desk.line.connection.transport.take.1 ∧
      (exchange made.line (setup.sends document)).2.connection =
        desk.line.connection.amid [setup.sends document]
          (exchange made.line (setup.sends document)).2.connection.transport.answers ∧
      made.address = desk.address := by
  -- Making the handshake has left the connection alone.
  have hconnection : made.line.connection = desk.line.connection := by
    rw [← setup.silent_handshake.connection desk, hmade]
  rw [exchange_fst, Desk.address, hconnection]
  refine ⟨rfl, ?_, rfl⟩
  rw [← hconnection]
  exact Line.connection_exchange_amid _ _

/-- Greeting a server whose reply reports success comes to what there is to learn from it. -/
theorem runAt_greet_of_accepted (hmade : setup.handshake.runAt desk = (.ok document, made))
    {reply : Document} (hanswer : desk.line.connection.transport.take.1 = .ok reply)
    (hok : reply.isOk = true) :
    ∃ greeted, (greet setup).runAt desk =
      (.ok (.ofReply desk.line.connection reply), greeted) := by
  rcases fst_exchange_handshake hmade with ⟨hfirst, hafter, _⟩
  rw [runAt_greet, hmade]
  simp only [hfirst, hanswer, Answer.checked_eq_ok.mpr ⟨rfl, hok⟩]
  rw [hafter]
  exact ⟨_, rfl⟩

/-- Greeting a server whose answer fails sends the handshake and reports the failure. -/
theorem runAt_greet_of_fails (hmade : setup.handshake.runAt desk = (.ok document, made))
    {failure : Error} (hfails : desk.line.connection.transport.take.1.Fails desk.address failure) :
    ∃ after : Desk, (greet setup).runAt desk = (.error (setup.handshakeFailure failure), after) ∧
      after.sent = desk.sent ++ [setup.sends document] := by
  rcases fst_exchange_handshake hmade with ⟨hfirst, hafter, haddress⟩
  rw [runAt_greet, hmade]
  simp only [hfirst, haddress, Answer.fails_iff.mp hfails]
  refine ⟨_, rfl, ?_⟩
  show (exchange made.line (setup.sends document)).2.connection.transport.sent = _
  rw [hafter]
  rfl

end Blocking

/-- What the answer to its handshake does to an opening. Open a connection that has not been
    opened before, in either mode, with any setup that has a handshake to send. A reply that
    reports success is learned from. After any other answer the opening is over: it has sent
    the handshake only and returns the failure. It returns it named after the credential if and
    only if the handshake asked about a user, the reply does not report success and its code is
    worth eleven, but for two cases: a login without a user name counts as having asked, and a
    failure of the transport itself can pass for such a reply. -/
theorem Mode.openConnection_refused (mode : Mode) (setup : Setup) {desk : Desk}
    {document : Document} {answer : Answer}
    (hstage : desk.line.connection.stage = .uninitialized)
    (hdocument : (setup.handshake.runAt desk.entered).1 = .ok document)
    (hanswer : desk.line.connection.transport.take.1 = answer) :
    (∃ reply greeted, answer = .ok reply ∧ reply.isOk = true ∧
      (Blocking.greet setup).runAt desk.entered =
        (.ok (.ofReply desk.line.connection reply), greeted)) ∨
    ∃ failure e after, answer.Fails desk.address failure ∧
      mode.openConnection setup desk = (some (.error e), after) ∧
      after.sent = desk.sent ++ [setup.sends document] ∧
      setup.Reports (setup.sends document) answer failure e := by
  have hmade : setup.handshake.runAt desk.entered =
      (.ok document, (setup.handshake.runAt desk.entered).2) := Prod.ext hdocument rfl
  subst hanswer
  cases hchecked : desk.line.connection.transport.take.1.checked desk.address with
  | ok reply =>
      rcases Answer.checked_eq_ok.mp hchecked with ⟨hanswer, hok⟩
      rcases Blocking.runAt_greet_of_accepted hmade hanswer hok with ⟨greeted, hgreeted⟩
      exact .inl ⟨reply, greeted, hanswer, hok, hgreeted⟩
  | error failure =>
      have hfails := Answer.fails_iff.mpr hchecked
      rcases Blocking.runAt_greet_of_fails hmade hfails with ⟨after, hgreeted, hsent⟩
      refine .inr ⟨failure, setup.handshakeFailure failure,
        after.settle (.error (setup.handshakeFailure failure)), hfails, ?_, hsent,
        Setup.reports_handshakeFailure hmade hfails⟩
      rw [mode.openConnection_of_fresh setup hstage, Blocking.establish, Act.runAt_bind, hgreeted]

/-- A credential without a user name asks about nobody, and is blamed for it if the server
    says that a user is missing. -/
theorem Mode.openConnection_refused_nobody :
    let credential := Credential.make "admin" none (some "pencil")
    let setup : Setup := { authenticator := .negotiating ⟨credential, .plain, none⟩ }
    let desk := Desk.nowhere.answering [.ok ⟨[("ok", .bool false), ("code", .number 11)]⟩]
    let handshake := setup.baseHandshake.command
    desk.line.connection.stage = .uninitialized ∧
    (setup.handshake.runAt desk.entered).1 = .ok handshake ∧
    (setup.sends handshake).contains Handshake.mechanismsKey = false ∧
    ∃ failure after, blocking.openConnection setup desk =
        (some (.error (.authentication credential failure)), after) ∧
      after.sent = [setup.sends handshake] := by
  intro credential setup desk handshake
  have hstage : desk.line.connection.stage = .uninitialized := rfl
  have hdocument : (setup.handshake.runAt desk.entered).1 = .ok handshake := rfl
  refine ⟨hstage, hdocument, rfl, ?_⟩
  rcases openConnection_refused .blocking setup hstage hdocument rfl with
    ⟨reply, _, hreply, hok, _⟩ | ⟨failure, e, after, _, hopened, hsent, hreports⟩
  · injection hreply with hreply
    rw [← hreply] at hok
    cases hok
  · have hnobody : setup.AsksAboutNobody := ⟨rfl, fun own hown => by
      injection hown with hown
      rw [← hown]
      rfl⟩
    rcases hreports.named_iff.mpr ⟨.inr hnobody, .refused rfl rfl rfl⟩ with
      ⟨own, hown, hnamed⟩
    injection hown with hown
    subst hown hnamed
    exact ⟨failure, after, hopened, hsent⟩

end DocumentLink
