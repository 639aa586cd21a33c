import DocumentLink.Cluster.Settings

/-!
# Discovery

Finding the servers of a cluster by the records of a name service.

The records are looked up under a name made from the service and the host. What
they list is accepted only within the parent domain of the host, and the host
needs three labels at least, so that no parent is a whole top-level domain. A
limit on the number of hosts is met by picking some at random; which ones is
given by a shuffle, so that nothing here hangs on chance.

A poll looks the records up once. It reports the hosts when they differ from
those known, and a failure only while none are known. What is compared is the
sorted list without repeats, before any picking.

A watch polls at once when it is started, and then once in every period. Time is
the number of milliseconds that have passed. A period is bounded, so that a watch
with a very rare heartbeat still polls now and then. Closing a watch forgets what
was known, and starting it again begins anew.

## Main definitions

* `Discovery.recordName`: The name that is looked up.
* `Discovery.validate`: The hosts, or why they are refused.
* `Discovery.select`: The hosts to use.
* `Discovery.Report`: What a poll reports.
* `Discovery.poll`: One poll.
* `Watch`: A watch over the records of one host.
* `Watch.start`, `Watch.close`, `Watch.advance`: Its life.
-/

namespace DocumentLink

namespace Discovery

/-- The name under which the servers of a host are looked up. -/
def recordName (host service : String) : String :=
  s!"_{service}._tcp.{host}"

/-- Leave out dots at the end. -/
def trimDots (cs : List Char) : List Char :=
  (cs.reverse.dropWhile (· = '.')).reverse

/-- The form of a host in which it is compared and shown. -/
def canonicalHost (host : String) : String :=
  Text.lowerCase (String.ofList (trimDots host.toList))

/-- What follows the first label, if there is more than one label. -/
def parentDomain? (host : String) : Option (List Char) :=
  (Address.splitAt? '.' host.toList).map Prod.snd

/-- The error for a host with fewer than three labels. -/
def tooFewLabels (host : String) : Error :=
  .configuration s!"An SRV host name must contain at least three labels: {host}"

/-- The error for a host without records. -/
def noRecords (host : String) : Error :=
  .configuration s!"No SRV records available for host {host}"

/-- The error for a record outside the domain of the host. -/
def outsideDomain (host : String) (address : Address) : Error :=
  .configuration (s!"The SRV host name '{host}' resolved to a host '{address.text}' " ++
    "that is not in a sub-domain of the SRV host.")

/-- Whether an address lies below a domain. -/
def isBelow (domain : List Char) (address : Address) : Bool :=
  ('.' :: domain).isSuffixOf address.host.toList

/-- The hosts that a lookup gave, or why they are refused. -/
def validate (srvHost : String) (hosts : List Address) : Except Error (List Address) :=
  let host := canonicalHost srvHost
  match (parentDomain? host).filter fun domain => domain.contains '.' with
  | none => .error (tooFewLabels host)
  | some domain =>
    if hosts.isEmpty then .error (noRecords host)
    else
      match hosts.find? fun address => !isBelow domain address with
      | some address => .error (outsideDomain host address)
      | none => .ok hosts

/-- The hosts to use: all of them, or as many as the limit allows from the front
    of a shuffled list. Zero is no limit. -/
def select (shuffle : List Address → List Address) (limit : Nat) (hosts : List Address) :
    List Address :=
  if limit = 0 || hosts.length ≤ limit then hosts else (shuffle hosts).take limit

/-- Hosts as they are shown: those picked by chance by their number only, and
    whether they are among those there were to pick from. -/
inductive Shown where
  | all (addresses : List Address)
  | sample (count : Nat) (among : Bool)
  deriving DecidableEq, Repr

/-- Whether addresses are among others, as often as they occur. -/
def isAmong (picked addresses : List Address) : Bool :=
  picked.all fun a => picked.count a ≤ addresses.count a

/-- Show hosts picked from others. -/
def sample (picked addresses : List Address) : Shown :=
  .sample picked.length (isAmong picked addresses)

/-- Show hosts in use, when those of the last lookup are known. -/
def shown (limit : Nat) (last inUse : List Address) : Shown :=
  if 0 < limit && limit < (Address.distinct last).length then sample inUse last else .all inUse

/-- What a lookup gives. -/
abbrev Lookup := Except Error (List Address)

/-- The hosts that a lookup settles on: valid, in order, each once. -/
def resolve (srvHost : String) (lookup : Lookup) : Lookup :=
  (lookup.bind (validate srvHost)).map Address.ordered

/-- What a poll reports. -/
inductive Report where
  /-- The hosts to use, and all there are, which have changed. -/
  | hosts (selected all : List Address)
  /-- Why there are no hosts yet. -/
  | failure (error : Error)
  deriving DecidableEq, Repr

/-- What is watched, and how. -/
structure Plan where
  srvHost : String
  serviceName : String
  maxHosts : Nat
  monitoring : ServerSettings
  deriving DecidableEq, Repr

/-- The longest time a watch sleeps between two polls, in milliseconds: thirty
    years of 365 days. -/
def longestSleep : Nat :=
  30 * 365 * 24 * 60 * 60 * 1000

/-- The milliseconds from one poll to the next. -/
def Plan.period (plan : Plan) : Nat :=
  min plan.monitoring.heartbeat longestSleep

/-- The name that a plan looks up. -/
def Plan.recordName (plan : Plan) : String :=
  Discovery.recordName plan.srvHost plan.serviceName

/-- One poll: what it reports, and the hosts known after it. -/
def poll (plan : Plan) (shuffle : List Address → List Address) (known : Option (List Address))
    (lookup : Lookup) : Option Report × Option (List Address) :=
  match resolve plan.srvHost lookup with
  | .ok hosts =>
    if known = some hosts then (none, known)
    else (some (.hosts (select shuffle plan.maxHosts hosts) hosts), some hosts)
  | .error e => if known.isNone then (some (.failure e), known) else (none, known)

end Discovery

/-- The lookups that are still to be answered, and what has been asked. -/
structure Resolver where
  lookups : List Discovery.Lookup
  /-- The names looked up so far, in order. -/
  queries : List String := []
  /-- The hosts of the last lookup that gave any. -/
  lastHosts : List Address := []

namespace Resolver

/-- What a lookup fails with when no answer is left. -/
def exhausted : Error :=
  .timeout "No scripted lookup left"

/-- Look a name up. -/
def lookUp (r : Resolver) (name : String) : Discovery.Lookup × Resolver :=
  let lookup := r.lookups.head?.getD (.error exhausted)
  let hosts := match lookup with
    | .ok hosts => hosts
    | .error _ => r.lastHosts
  (lookup, ⟨r.lookups.tail, r.queries ++ [name], hosts⟩)

end Resolver

/-- The task that polls, while a watch is running. -/
structure Watch.Task where
  /-- The hosts it knows. -/
  known : Option (List Address) := none
  /-- When it polls next. -/
  due : Nat
  deriving DecidableEq, Repr

/-- A watch over the records of one host. -/
structure Watch where
  plan : Discovery.Plan
  task : Option Watch.Task := none
  /-- How many polls there have been, for telling shuffles apart. -/
  polls : Nat := 0

namespace Watch

/-- The shuffles that chance would make, one for each poll. -/
abbrev Shuffles := Nat → List Address → List Address

/-- The error for a watch that nothing could run. -/
def noRuntime : Error :=
  .configuration ("SRV monitoring requires a tokio runtime: there is no reactor running, " ++
    "must be called from the context of a Tokio 1.x runtime")

/-- Poll a number of times. -/
def pollTimes (shuffles : Shuffles) :
    Nat → Watch → Resolver → List Discovery.Report × Watch × Resolver
  | 0, watch, resolver => ([], watch, resolver)
  | n + 1, watch, resolver =>
    match watch.task with
    | none => ([], watch, resolver)
    | some task =>
      let (lookup, resolver) := resolver.lookUp watch.plan.recordName
      let (report, known) := Discovery.poll watch.plan (shuffles watch.polls) task.known lookup
      let polled :=
        { watch with task := some ⟨known, task.due + watch.plan.period⟩, polls := watch.polls + 1 }
      let (reports, watch, resolver) := pollTimes shuffles n polled resolver
      (report.toList ++ reports, watch, resolver)

/-- How many polls are due at a time. -/
def duePolls (watch : Watch) (now : Nat) : Nat :=
  match watch.task with
  | none => 0
  | some task => if task.due ≤ now then (now - task.due) / watch.plan.period + 1 else 0

/-- Make the polls that are due. -/
def advance (watch : Watch) (shuffles : Shuffles) (now : Nat) (resolver : Resolver) :
    List Discovery.Report × Watch × Resolver :=
  pollTimes shuffles (watch.duePolls now) watch resolver

/-- Start polling, unless polling goes on already. -/
def start (watch : Watch) (runtime : Bool) (now : Nat) : Except Error Watch :=
  if !runtime then .error noRuntime
  else .ok { watch with task := some (watch.task.getD { due := now }) }

/-- Stop polling and forget what was known. -/
def close (watch : Watch) : Watch :=
  { watch with task := none }

end Watch

end DocumentLink
