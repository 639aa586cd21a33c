import DocumentLink.Cluster.Discovery

/-!
# Sessions of a Watch

A watch that is started, closed and dropped while time goes by. Polls that are
due are made at the end of every step, and what they report is looked at only
then: beside the hosts of the last lookup, which may be a later one than that of
the report.

## Main definitions

* `WatchSession`: A watch, the clock and the name service.
* `WatchSession.Step`: What can be done.
* `WatchSession.Answer`: What comes of it.
* `WatchSession.step`: Do it, and make the polls that are due.
-/

namespace DocumentLink

/-- A watch, the clock and the name service. -/
structure WatchSession where
  /-- The watch, until it is dropped. -/
  watch : Option Watch
  resolver : Resolver
  shuffles : Watch.Shuffles
  runtime : Bool
  /-- The milliseconds that have passed. -/
  now : Nat := 0

namespace WatchSession

/-- What can be done. -/
inductive Step where
  | start
  | close
  | info
  | advance (milliseconds : Nat)
  | drop

/-- What comes of a step. -/
inductive Answer where
  | started (result : Except Error Unit)
  | closed
  | info (plan : Discovery.Plan)
  | advanced
  | dropped
  /-- There is no watch any more. -/
  | gone

/-- Do a step on a watch. -/
def onWatch (s : WatchSession) (watch : Watch) : Step → Answer × WatchSession
  | .start =>
    match watch.start s.runtime s.now with
    | .error e => (.started (.error e), s)
    | .ok started => (.started (.ok ()), { s with watch := some started })
  | .close => (.closed, { s with watch := some watch.close })
  | _ => (.info watch.plan, s)

/-- Do a step. -/
def answer (s : WatchSession) (step : Step) : Answer × WatchSession :=
  match step with
  | .advance milliseconds => (.advanced, { s with now := s.now + milliseconds })
  | .drop => (.dropped, { s with watch := none })
  | step =>
    match s.watch with
    | none => (.gone, s)
    | some watch => s.onWatch watch step

/-- Make the polls that are due. -/
def poll (s : WatchSession) : List Discovery.Report × WatchSession :=
  match s.watch with
  | none => ([], s)
  | some watch =>
    let (reports, watch, resolver) := watch.advance s.shuffles s.now s.resolver
    (reports, { s with watch := some watch, resolver := resolver })

/-- What a step has done. -/
structure Outcome where
  answer : Answer
  queries : List String
  reports : List Discovery.Report
  /-- The hosts of the last lookup that gave any, at the end of the step. -/
  lastHosts : List Address

/-- Do a step, and make the polls that are due. -/
def step (s : WatchSession) (step : Step) : Outcome × WatchSession :=
  let (answer, after) := s.answer step
  let (reports, after) := after.poll
  ({
    answer := answer
    queries := after.resolver.queries.drop s.resolver.queries.length
    reports := reports
    lastHosts := after.resolver.lastHosts }, after)

/-- Do steps one after the other. -/
def steps (s : WatchSession) : List Step → List Outcome
  | [] => []
  | first :: rest =>
    let (outcome, s) := s.step first
    outcome :: s.steps rest

end WatchSession

end DocumentLink
