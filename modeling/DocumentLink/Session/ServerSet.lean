import DocumentLink.Cluster.ServerSet

/-!
# Sessions of a Server Set

A server set through a series of updates and reports.

## Main definitions

* `ServerSetSession.Step`: What can be done.
* `ServerSetSession.Outcome`: The set after a step, and what was found in it.
* `ServerSetSession.steps`: The outcomes, the first before any step.
-/

namespace DocumentLink

namespace ServerSetSession

/-- What can be done. -/
inductive Step where
  | update (hosts : List Address)
  | resolve (hosts : List Address)
  | fail (error : Error)
  | find (address : Address)

/-- The set after a step, and what was found in it. -/
structure Outcome where
  set : ServerSet
  found : Option Server := none

/-- Do a step. -/
def step (set : ServerSet) : Step → Outcome
  | .update hosts => { set := set.update hosts }
  | .resolve hosts => { set := set.resolve hosts }
  | .fail e => { set := set.fail e }
  | .find address => { set := set, found := set.server? address }

/-- Do steps one after the other. -/
def run (set : ServerSet) : List Step → List Outcome
  | [] => []
  | first :: rest =>
    let outcome := step set first
    outcome :: run outcome.set rest

/-- The outcomes of steps, the first before any step. -/
def steps (set : ServerSet) (steps : List Step) : List Outcome :=
  { set := set } :: run set steps

end ServerSetSession

end DocumentLink
