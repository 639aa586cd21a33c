import DocumentLink.Proofs.Suspension

/-!
# The Two Modes Agree

A client that suspends and is gone on with at once ends as one that blocks, in
a command, in a conversation and in the opening of a connection. Not only the
results are the same but also everything that the work leaves behind: what was
sent and which answers were taken, the stage and the descriptions of the
connection, what its listener was told, what the provers were asked, and what is
kept of a speculation.

The answers to come are any list. With a list cut short after some exchange, the
statements say that both have also done the same by the time they wait for the
answer after it.

## Theorems

* `Mode.execute_eq`, `Mode.converse_eq`, `Mode.openConnection_eq`: Either mode
  comes to what blocking comes to.
* `Mode.openConnection_agree`: Openings end, and in the same way in both modes.
-/

namespace DocumentLink

namespace Mode

/-- An exchange with a checked reply is the same in both modes. -/
theorem execute_eq (mode : Mode) (line : Line) (database : String) (command : Document)
    (api : Option ServerApi) :
    mode.execute line database command api = Blocking.execute line database command api := by
  cases mode <;> rfl

/-- A conversation is the same in both modes, from the start and from a reply that
    is there already. -/
theorem converse_eq (mode : Mode) (login : Login) (running : Prover.Running)
    (resumed : Option Document) (desk : Desk) :
    mode.converse login running resumed desk =
      (some ((match resumed with
          | some reply => Blocking.resume login running reply
          | none => Blocking.login login running).runAt desk).1,
        ((match resumed with
          | some reply => Blocking.resume login running reply
          | none => Blocking.login login running).runAt desk).2) := by
  have hfully := Suspending.goOnFully_eq Suspending.faithful_continueTalk
    (Suspending.consuming_of_takesOne Suspending.takesOne_continueTalk)
  cases mode with
  | blocking => rfl
  | suspending =>
      simp only [converse, Suspending.converseFully, hfully]
      cases resumed with
      | none =>
          rw [← Suspending.login_outcome]
          rfl
      | some reply =>
          rw [← Suspending.pickUp_outcome]
          rfl

/-- The opening of a connection is the same in both modes. -/
theorem openConnection_eq (mode : Mode) (setup : Setup) (desk : Desk) :
    mode.openConnection setup desk =
      (some (Blocking.openConnection setup desk).1, (Blocking.openConnection setup desk).2) := by
  cases mode with
  | blocking => rfl
  | suspending =>
      simp only [openConnection, Suspending.openFully, Suspending.finishOpening,
        Suspending.goOnFully_eq (Suspending.faithful_continueOpening setup)
          (Suspending.consuming_continueOpening setup)]
      rw [← Suspending.openConnection_outcome]
      rfl

/-- A suspending opening comes to an end as every blocking one does, with the same
    result and the same desk left behind. -/
theorem openConnection_agree (setup : Setup) (desk : Desk) :
    ∃ result after, suspending.openConnection setup desk = (some result, after) ∧
      blocking.openConnection setup desk = (some result, after) :=
  ⟨(Blocking.openConnection setup desk).1, (Blocking.openConnection setup desk).2,
    openConnection_eq suspending setup desk, openConnection_eq blocking setup desk⟩

end Mode

end DocumentLink
