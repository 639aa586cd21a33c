import DocumentLink.Proofs.Roster
import Mathlib.Data.List.Chain

/-!
# Runs of Polls

What one run of the polling task reports, and what becomes of the server set.

The task compares each answer with the last one it has reported, so what it does
depends on all that came before. Yet the run has a closed form. Until the first
valid answer, each answer is reported as a failure. From then on the answers that
are not valid count for nothing. The valid ones fall into blocks: a block is a
stretch of them that name the same hosts, no matter how often or in which order,
and it is reported once, as the sorted list of these hosts. Without a limit that
list is what the server set gets.

The last block decides the servers, and whether there is a block at all decides
whether a failure is left. So the run does not tell apart answers that are alike:
a valid answer may be written in another way or come twice, and failures may come
in after the first valid answer.

## Main definitions

* `Discovery.valid`: The hosts of the valid answers.
* `Discovery.Block`: Valid answers that name the same hosts.
* `Discovery.Cover`: Answers fall into blocks, and each is reported once.
* `Discovery.Reported`: The closed form of what a run reports.
* `Discovery.Alike`: Answers that a run does not tell apart.
* `Discovery.pollAll`: What polls report, one after the other.
* `Cluster.ClosedForm`: The closed form of the calls and of the set.
* `Roster.callsOn`: What one run of the task calls.

## Theorems

* `Watch.pollTimes_eq_pollAll`: What a watch reports, with no limit.
* `Discovery.exists_cover_of_known`: What is reported while hosts are known.
* `Discovery.reported_pollAll`: What is reported from the beginning.
* `Discovery.Alike.pollAll_eq`: What is alike is reported alike.
* `Cluster.closedForm_of_reported`: What such calls make of a set.
* `Roster.polling_closed_form`: All of it, for a cluster.
-/

namespace DocumentLink

namespace Discovery

/-- Whether an answer resolves to a valid list. -/
def isValid (srvHost : String) (lookup : Lookup) : Bool :=
  (checked srvHost lookup).toOption.isSome

/-- The hosts of the valid answers, in order. -/
def valid (srvHost : String) (lookups : List Lookup) : List (List Address) :=
  lookups.filterMap fun lookup => (checked srvHost lookup).toOption

/-- Valid answers in a row that name the same hosts, and the sorted list of these. -/
structure Block where
  hosts : List Address
  answers : List (List Address)
  sorted : hosts.Pairwise Address.Before
  nonempty : answers ≠ []
  same : ∀ answer ∈ answers, ∀ a, a ∈ answer ↔ a ∈ hosts

/-- What is reported of a block. -/
def Block.call (b : Block) : Report :=
  .hosts b.hosts b.hosts

/-- Two blocks do not name the same hosts. -/
def Block.Differ (b c : Block) : Prop :=
  ¬∀ a, a ∈ b.hosts ↔ a ∈ c.hosts

/-- Blocks with different lists do not name the same hosts. -/
theorem Block.differ_of_ne {b c : Block} (h : b.hosts ≠ c.hosts) : b.Differ c :=
  fun hsame => h (Address.eq_of_pairwise b.sorted c.sorted hsame)

/-- The block that an answer opens, with what else belongs to it. -/
def Block.opened (hosts : List Address) (more : List (List Address))
    (hmore : ∀ answer ∈ more, Address.ordered answer = Address.ordered hosts) : Block where
  hosts := Address.ordered hosts
  answers := hosts :: more
  sorted := Address.pairwise_ordered hosts
  nonempty := List.cons_ne_nil hosts more
  same := by
    intro answer hanswer a
    rcases List.mem_cons.mp hanswer with rfl | hanswer
    · exact Address.mem_ordered.symm
    · rw [← hmore answer hanswer, Address.mem_ordered]

/-- Answers fall into blocks, none of which could be longer, and each is reported once. -/
structure Cover (blocks : List Block) (answers : List (List Address)) (calls : List Report) :
    Prop where
  answers_eq : blocks.flatMap Block.answers = answers
  differ : blocks.IsChain Block.Differ
  calls_eq : calls = blocks.map Block.call

/-- The calls are one failure for each answer before the first valid one, and then one call
    for each block of valid ones. -/
def Reported (srvHost : String) (lookups : List Lookup) (calls : List Report) : Prop :=
  ∃ (errors : List Error) (blocks : List Block) (later : List Report),
    calls = errors.map .failure ++ later ∧
    (lookups.takeWhile fun lookup => !isValid srvHost lookup).map (checked srvHost) =
      errors.map .error ∧
    Cover blocks (valid srvHost lookups) later

/-- One more block in front. -/
theorem Cover.opened {blocks : List Block} {answers : List (List Address)} {calls : List Report}
    (h : Cover blocks answers calls) {hosts : List Address} {more : List (List Address)}
    (hmore : ∀ answer ∈ more, Address.ordered answer = Address.ordered hosts)
    (hhead : ∀ b ∈ blocks.head?, b.hosts ≠ Address.ordered hosts) :
    Cover (.opened hosts more hmore :: blocks) (hosts :: (more ++ answers))
      (.hosts (Address.ordered hosts) (Address.ordered hosts) :: calls) where
  answers_eq := by rw [List.flatMap_cons, h.answers_eq]; rfl
  differ := List.isChain_cons.mpr ⟨fun b hb => Block.differ_of_ne (hhead b hb).symm, h.differ⟩
  calls_eq := by rw [h.calls_eq]; rfl

/-- Answers that a run of polls does not tell apart. -/
inductive Alike (srvHost : String) : List Lookup → List Lookup → Prop where
  | refl (lookups : List Lookup) : Alike srvHost lookups lookups
  | symm {lookups others : List Lookup} : Alike srvHost lookups others →
      Alike srvHost others lookups
  | trans {lookups others more : List Lookup} : Alike srvHost lookups others →
      Alike srvHost others more → Alike srvHost lookups more
  /-- The hosts of a valid answer are put into another order, or repeated. -/
  | respelt (before after : List Lookup) {hosts others : List Address} :
      isValid srvHost (.ok hosts) = true → (∀ a, a ∈ hosts ↔ a ∈ others) →
      Alike srvHost (before ++ .ok hosts :: after) (before ++ .ok others :: after)
  /-- A valid answer comes twice. -/
  | repeated (before after : List Lookup) {lookup : Lookup} : isValid srvHost lookup = true →
      Alike srvHost (before ++ lookup :: after) (before ++ lookup :: lookup :: after)
  /-- An answer that is not valid comes in after one that is. -/
  | failed (before after : List Lookup) {lookup : Lookup} : valid srvHost before ≠ [] →
      isValid srvHost lookup = false →
      Alike srvHost (before ++ after) (before ++ lookup :: after)

theorem isValid_eq_true_iff {srvHost : String} {lookup : Lookup} :
    isValid srvHost lookup = true ↔ ∃ hosts, checked srvHost lookup = .ok hosts := by
  unfold isValid
  cases checked srvHost lookup with
  | ok hosts => exact iff_of_true rfl ⟨hosts, rfl⟩
  | error e => exact iff_of_false (by simp [Except.toOption]) (by simp)

theorem isValid_eq_false_iff {srvHost : String} {lookup : Lookup} :
    isValid srvHost lookup = false ↔ ∃ e, checked srvHost lookup = .error e := by
  unfold isValid
  cases checked srvHost lookup with
  | ok hosts => exact iff_of_false (by simp [Except.toOption]) (by simp)
  | error e => exact iff_of_true rfl ⟨e, rfl⟩

section Valid

variable {srvHost : String} {lookup : Lookup} (lookups : List Lookup)

theorem valid_cons_of_ok {hosts : List Address} (h : checked srvHost lookup = .ok hosts) :
    valid srvHost (lookup :: lookups) = hosts :: valid srvHost lookups := by
  rw [valid, List.filterMap_cons_some (by rw [h]; rfl)]
  rfl

theorem valid_cons_of_error {e : Error} (h : checked srvHost lookup = .error e) :
    valid srvHost (lookup :: lookups) = valid srvHost lookups := by
  rw [valid, List.filterMap_cons_none (by rw [h]; rfl)]
  rfl

end Valid

variable (plan : Plan)

/-- What polls report, one after the other, given the hosts known before them. -/
def pollAll : Option (List Address) → List Lookup → List Report
  | _, [] => []
  | known, lookup :: lookups =>
    let outcome := poll plan id known lookup
    outcome.1.toList ++ pollAll outcome.2 lookups

/-- The hosts known after polls. -/
def knownAfter (known : Option (List Address)) (lookups : List Lookup) : Option (List Address) :=
  lookups.foldl (fun known lookup => (poll plan id known lookup).2) known

variable {plan}

/-- Without a limit nothing is left to chance. -/
theorem poll_eq_poll_id (hlimit : plan.maxHosts = 0) (shuffle : List Address → List Address)
    (known : Option (List Address)) (lookup : Lookup) :
    poll plan shuffle known lookup = poll plan id known lookup := by
  simp only [poll, hlimit, select, decide_true, Bool.true_or, if_true]

theorem pollAll_append (known : Option (List Address)) (lookups more : List Lookup) :
    pollAll plan known (lookups ++ more) =
      pollAll plan known lookups ++ pollAll plan (knownAfter plan known lookups) more := by
  induction lookups generalizing known with
  | nil => rfl
  | cons lookup lookups ih =>
      simp only [List.cons_append, pollAll, ih, List.append_assoc, knownAfter, List.foldl_cons]

/-- Without a limit, the hosts that are reported are all there are. -/
theorem poll_of_ok_of_limit {lookup : Lookup} {hosts : List Address} (hlimit : plan.maxHosts = 0)
    (h : checked plan.srvHost lookup = .ok hosts) (known : Option (List Address)) :
    poll plan id known lookup =
      if known = some (Address.ordered hosts) then (none, known)
      else (some (.hosts (Address.ordered hosts) (Address.ordered hosts)),
        some (Address.ordered hosts)) := by
  rw [poll_of_ok h, select, hlimit]
  rfl

/-- While hosts are known, the valid answers are what is left of the block that is open, and
    further blocks. -/
theorem exists_cover_of_known (hlimit : plan.maxHosts = 0) (known : List Address)
    (lookups : List Lookup) :
    ∃ more answers blocks, valid plan.srvHost lookups = more ++ answers ∧
      (∀ answer ∈ more, Address.ordered answer = known) ∧
      (∀ b ∈ blocks.head?, b.hosts ≠ known) ∧
      Cover blocks answers (pollAll plan (some known) lookups) := by
  induction lookups generalizing known with
  | nil => exact ⟨[], [], [], rfl, by simp, by simp, ⟨rfl, .nil, rfl⟩⟩
  | cons lookup lookups ih =>
      cases hchecked : checked plan.srvHost lookup with
      | error e =>
          rw [valid_cons_of_error lookups hchecked, pollAll, poll_of_error hchecked]
          exact ih known
      | ok hosts =>
          rw [valid_cons_of_ok lookups hchecked, pollAll, poll_of_ok_of_limit hlimit hchecked]
          -- The answer belongs to the block that is open, or it opens the next one.
          by_cases hsame : Address.ordered hosts = known
          · obtain ⟨more, answers, blocks, hvalid, hmore, hhead, hcover⟩ := ih known
            rw [if_pos (congrArg some hsame.symm), hvalid]
            exact ⟨hosts :: more, answers, blocks, rfl, List.forall_mem_cons.mpr ⟨hsame, hmore⟩,
              hhead, hcover⟩
          · obtain ⟨more, answers, blocks, hvalid, hmore, hhead, hcover⟩ :=
              ih (Address.ordered hosts)
            rw [if_neg fun h => hsame (Option.some.inj h).symm, hvalid]
            refine ⟨[], _, _, rfl, by simp, ?_, hcover.opened hmore hhead⟩
            simpa [Block.opened] using hsame

/-- The closed form of what a run reports. -/
theorem reported_pollAll (hlimit : plan.maxHosts = 0) (lookups : List Lookup) :
    Reported plan.srvHost lookups (pollAll plan none lookups) := by
  induction lookups with
  | nil => exact ⟨[], [], [], rfl, rfl, rfl, .nil, rfl⟩
  | cons lookup lookups ih =>
      cases hchecked : checked plan.srvHost lookup with
      | error e =>
          obtain ⟨errors, blocks, later, hcalls, herrors, hcover⟩ := ih
          refine ⟨e :: errors, blocks, later, ?_, ?_, ?_⟩
          · rw [pollAll, poll_of_error hchecked]
            exact congrArg (.failure e :: ·) hcalls
          · have hinvalid : isValid plan.srvHost lookup = false :=
              isValid_eq_false_iff.mpr ⟨e, hchecked⟩
            rw [List.takeWhile_cons_of_pos (by simp [hinvalid]), List.map_cons, herrors, hchecked,
              List.map_cons]
          · rwa [valid_cons_of_error lookups hchecked]
      | ok hosts =>
          -- The first valid answer. It opens a block, and from here on hosts are known.
          obtain ⟨more, answers, blocks, hvalid, hmore, hhead, hcover⟩ :=
            exists_cover_of_known hlimit (Address.ordered hosts) lookups
          have hopened := hcover.opened hmore hhead
          rw [← hvalid, ← valid_cons_of_ok lookups hchecked] at hopened
          refine ⟨[], _, _, ?_, ?_, hopened⟩
          · rw [pollAll, poll_of_ok_of_limit hlimit hchecked, if_neg nofun]
            rfl
          · have hisValid : isValid plan.srvHost lookup = true :=
              isValid_eq_true_iff.mpr ⟨hosts, hchecked⟩
            rw [List.takeWhile_cons_of_neg (by simp [hisValid])]
            rfl

/-- Once hosts are known, they stay known. -/
theorem poll_known (known : List Address) (lookup : Lookup) :
    (poll plan id (some known) lookup).2 ≠ none := by
  cases hchecked : checked plan.srvHost lookup with
  | error e => rw [poll_of_error hchecked]; exact nofun
  | ok hosts => rw [poll_of_ok hchecked]; split <;> exact nofun

theorem knownAfter_ne_none {known : Option (List Address)} (h : known ≠ none)
    (lookups : List Lookup) : knownAfter plan known lookups ≠ none := by
  induction lookups generalizing known with
  | nil => exact h
  | cons lookup lookups ih =>
      cases known with
      | none => exact absurd rfl h
      | some hosts => exact ih (poll_known hosts lookup)

/-- A valid answer makes hosts known. -/
theorem knownAfter_ne_none_of_valid (known : Option (List Address)) {lookups : List Lookup}
    (h : valid plan.srvHost lookups ≠ []) : knownAfter plan known lookups ≠ none := by
  induction lookups generalizing known with
  | nil => exact absurd rfl h
  | cons lookup lookups ih =>
      cases hchecked : checked plan.srvHost lookup with
      | error e =>
          rw [valid_cons_of_error lookups hchecked] at h
          exact ih _ h
      | ok hosts =>
          rw [knownAfter, List.foldl_cons, poll_of_ok hchecked]
          refine knownAfter_ne_none ?_ lookups
          split
          next hsame => rw [hsame]; exact nofun
          next => exact nofun

/-- The same hosts, written in another way, settle on the same. -/
theorem resolve_respelt {srvHost : String} {hosts others : List Address}
    (hvalid : isValid srvHost (.ok hosts) = true) (hsame : ∀ a, a ∈ hosts ↔ a ∈ others) :
    resolve srvHost (.ok hosts) = resolve srvHost (.ok others) := by
  obtain ⟨found, hchecked⟩ := isValid_eq_true_iff.mp hvalid
  obtain ⟨hfound, hne, hbelow⟩ := checked_eq_ok_iff.mp hchecked
  obtain rfl := Except.ok.inj hfound
  have hothers : checked srvHost (.ok others) = .ok others := by
    refine checked_eq_ok_iff.mpr ⟨rfl, fun hnil => hne ?_, fun a ha => hbelow a ((hsame a).mpr ha)⟩
    exact List.eq_nil_iff_forall_not_mem.mpr fun a ha => by simpa [hnil] using (hsame a).mp ha
  rw [resolve_eq_map, resolve_eq_map, hchecked, hothers, Except.map, Except.map,
    Address.ordered_eq_ordered_iff.mpr hsame]

/-- What is alike is reported alike. -/
theorem Alike.pollAll_eq {lookups others : List Lookup} (h : Alike plan.srvHost lookups others) :
    pollAll plan none lookups = pollAll plan none others := by
  induction h with
  | refl => rfl
  | symm _ ih => exact ih.symm
  | trans _ _ ih ih' => exact ih.trans ih'
  | respelt before after hvalid hsame =>
      simp only [pollAll_append, pollAll, poll, resolve_respelt hvalid hsame]
  | @repeated before after lookup hvalid =>
      obtain ⟨hosts, hchecked⟩ := isValid_eq_true_iff.mp hvalid
      -- After the first poll its hosts are known, and the second one reports nothing.
      have hknown : ∀ known,
          (poll plan id known lookup).2 = some (Address.ordered hosts) := by
        intro known
        rw [poll_of_ok hchecked]
        split
        next hsame => exact hsame
        next => rfl
      have hsecond : poll plan id (some (Address.ordered hosts)) lookup =
          (none, some (Address.ordered hosts)) := by
        rw [poll_of_ok hchecked, if_pos rfl]
      simp only [pollAll_append, pollAll, hknown, hsecond, Option.toList_none, List.nil_append]
  | @failed before after lookup hbefore hinvalid =>
      obtain ⟨e, hchecked⟩ := isValid_eq_false_iff.mp hinvalid
      rw [pollAll_append, pollAll_append, pollAll, poll_of_error hchecked]
      cases hknown : knownAfter plan none before with
      | none => exact absurd hknown (knownAfter_ne_none_of_valid none hbefore)
      | some hosts => rfl

end Discovery

namespace Watch

open Discovery

/-- What a watch reports when there is no limit. Chance has no part in it. -/
theorem pollTimes_eq_pollAll (shuffles : Shuffles) {watch : Watch} {task : Task}
    {resolver : Resolver} {lookups : List Lookup} (hlimit : watch.plan.maxHosts = 0)
    (htask : watch.task = some task) (hlookups : resolver.lookups = lookups) :
    (pollTimes shuffles lookups.length watch resolver).1 =
      pollAll watch.plan task.known lookups := by
  induction lookups generalizing watch task resolver with
  | nil => rfl
  | cons lookup lookups ih =>
      obtain ⟨hfirst, hrest⟩ := Resolver.lookUp_cons hlookups watch.plan.recordName
      rw [List.length_cons, pollTimes_running shuffles _ _ htask]
      simp only [pollAll, hfirst, poll_eq_poll_id hlimit]
      generalize hpolled : watch.polledOnce task (poll watch.plan id task.known lookup).2 = polled
      have hplan : polled.plan = watch.plan := hpolled ▸ rfl
      rw [ih (hplan ▸ hlimit) (congrArg Watch.task hpolled).symm hrest, hplan]

end Watch

namespace Cluster

open Discovery

/-- The last block decides the servers. -/
theorem take_blocks_concat (set : ServerSet) (blocks : List Block) (b : Block) :
    (take set ((blocks ++ [b]).map Block.call)).addresses = b.hosts ∧
      (take set ((blocks ++ [b]).map Block.call)).failure = none := by
  rw [List.map_append, take_append, List.map_singleton, take_cons, take_nil, Block.call,
    takeReport, ServerSet.addresses_resolve,
    Address.distinct_of_nodup (Address.nodup_of_pairwise b.sorted), ServerSet.failure_resolve]
  exact ⟨rfl, rfl⟩

/-- What is known of a set after one run of the polling task, and of the calls that led to
    it, when the answers that the task has seen are given. -/
structure ClosedForm (srvHost : String) (lookups : List Lookup) (calls : List Report)
    (set : ServerSet) : Prop where
  /-- The addresses are sorted, each once. -/
  sorted : set.addresses.Pairwise Address.Before
  /-- They are the hosts of the last valid answer. -/
  members : ∀ a, a ∈ set.addresses ↔
    ∃ hosts, (valid srvHost lookups).getLast? = some hosts ∧ a ∈ hosts
  /-- A failure is shown if there have been answers, and none was valid. -/
  shown : set.failure?.isSome ↔ lookups ≠ [] ∧ valid srvHost lookups = []
  /-- It is a copy of the failure of the last answer. -/
  failure : ∀ e, set.failure? = some e → ∃ last error, lookups.getLast? = some last ∧
    checked srvHost last = .error error ∧ e = error.copy
  calls : Reported srvHost lookups calls

variable {srvHost : String} {lookups : List Lookup}

/-- Where no answer is valid, none is passed over. -/
theorem takeWhile_of_valid_eq_nil (h : valid srvHost lookups = []) :
    (lookups.takeWhile fun lookup => !isValid srvHost lookup) = lookups := by
  induction lookups with
  | nil => rfl
  | cons lookup lookups ih =>
      cases hchecked : checked srvHost lookup with
      | ok hosts =>
          rw [valid_cons_of_ok lookups hchecked] at h
          cases h
      | error e =>
          have hinvalid : isValid srvHost lookup = false := isValid_eq_false_iff.mpr ⟨e, hchecked⟩
          rw [valid_cons_of_error lookups hchecked] at h
          rw [List.takeWhile_cons_of_pos (by simp [hinvalid]), ih h]

/-- The last valid answer belongs to the last block. -/
theorem getLast?_of_cover {blocks : List Block} {b : Block} {later : List Report}
    (h : Cover (blocks ++ [b]) (valid srvHost lookups) later) :
    ∃ answer ∈ b.answers, (valid srvHost lookups).getLast? = some answer := by
  have hlast := List.getLast?_eq_some_getLast b.nonempty
  refine ⟨_, List.getLast_mem b.nonempty, ?_⟩
  rw [← h.answers_eq, List.flatMap_append, List.flatMap_singleton, List.getLast?_append, hlast]
  rfl

/-- The calls of the closed form make the set that it describes. -/
theorem closedForm_of_reported {calls : List Report} {set : ServerSet}
    (hservers : set.servers = []) (hfailure : set.failure = none)
    (hcalls : Reported srvHost lookups calls) :
    ClosedForm srvHost lookups calls (take set calls) := by
  have hreported := hcalls
  obtain ⟨errors, blocks, later, rfl, herrors, hcover⟩ := hcalls
  rcases List.eq_nil_or_concat blocks with rfl | ⟨init, b, hblocks⟩
  · -- No answer is valid: the set has no servers, and keeps the last failure.
    have hvalid : valid srvHost lookups = [] := hcover.answers_eq.symm
    rw [takeWhile_of_valid_eq_nil hvalid] at herrors
    have hset : take set (errors.map .failure ++ later) =
        { set with failure := errors.getLast? } := by
      rw [hcover.calls_eq, List.map_nil, List.append_nil, take_failures, hfailure, Option.or_none]
    have haddresses : (take set (errors.map .failure ++ later)).addresses = [] := by
      rw [hset]
      exact ServerSet.addresses_eq_nil_iff.mpr hservers
    have hlast : lookups.getLast?.map (checked srvHost) = errors.getLast?.map .error := by
      rw [← List.getLast?_map, herrors, List.getLast?_map]
    constructor
    case sorted => rw [haddresses]; exact .nil
    case members => simp [haddresses, hvalid]
    case shown =>
      have hsome := congrArg Option.isSome hlast
      rw [Option.isSome_map, Option.isSome_map] at hsome
      rw [hset, ServerSet.failure?, Option.isSome_map, ← hsome, List.getLast?_isSome]
      exact (and_iff_left hvalid).symm
    case failure =>
      intro e he
      rw [hset, ServerSet.failure?, Option.map_eq_some_iff] at he
      obtain ⟨error, herror, rfl⟩ := he
      have herror : errors.getLast? = some error := herror
      rw [herror, Option.map_some, Option.map_eq_some_iff] at hlast
      obtain ⟨last, hlookups, hchecked⟩ := hlast
      exact ⟨last, error, hlookups, hchecked, rfl⟩
    case calls => exact hreported
  · -- The last block decides: its hosts are those of the last valid answer.
    rw [List.concat_eq_append] at hblocks
    subst hblocks
    obtain ⟨answer, hanswer, hlast⟩ := getLast?_of_cover hcover
    have hne : valid srvHost lookups ≠ [] := by
      intro hnil
      rw [hnil] at hlast
      cases hlast
    obtain ⟨haddresses, hnone⟩ := take_blocks_concat (take set (errors.map .failure)) init b
    rw [← hcover.calls_eq, ← take_append] at haddresses hnone
    constructor
    case sorted => exact haddresses ▸ b.sorted
    case members =>
      intro a
      simp only [haddresses, hlast, Option.some.injEq, exists_eq_left', b.same answer hanswer]
    case shown => simp [ServerSet.failure?, hnone, hne]
    case failure => simp [ServerSet.failure?, hnone]
    case calls => exact hreported

end Cluster

namespace Roster

open Discovery

variable {options : ClusterOptions} {srvHost : String} {r : Roster}

/-- What the first polls call, one for each answer. -/
def callsOn (shuffles : Watch.Shuffles) (r : Roster) (lookups : List Lookup) : List Report :=
  (r.watch.pollTimes shuffles lookups.length { r.resolver with lookups := lookups }).1

/-- One run of the polling task of a cluster without a limit of hosts: the closed form of what
    it calls and of the set that this makes, and that both are the same for answers that are
    alike. -/
theorem polling_closed_form (hborn : r.Born options)
    (hsrvHost : options.settings.srvHost = some srvHost)
    (hlimit : options.settings.srvMaxHosts = 0) (shuffles : Watch.Shuffles)
    (lookups : List Lookup) :
    Cluster.ClosedForm srvHost lookups (r.callsOn shuffles lookups)
        (Cluster.take r.set (r.callsOn shuffles lookups)) ∧
      ∀ others, Alike srvHost lookups others →
        r.callsOn shuffles others = r.callsOn shuffles lookups ∧
        Cluster.take r.set (r.callsOn shuffles others) =
          Cluster.take r.set (r.callsOn shuffles lookups) := by
  obtain ⟨now, hwatch⟩ := hborn.watch_eq hsrvHost
  obtain ⟨hservers, hfailure⟩ := hborn.set_eq hsrvHost
  have htask : r.watch.task = some { due := now } := congrArg Watch.task hwatch
  have hplan : r.watch.plan.maxHosts = 0 := (congrArg (·.plan.maxHosts) hwatch).trans hlimit
  have hhost : r.watch.plan.srvHost = srvHost := congrArg (·.plan.srvHost) hwatch
  subst hhost
  have hcalls : ∀ lookups, r.callsOn shuffles lookups = pollAll r.watch.plan none lookups :=
    fun lookups => Watch.pollTimes_eq_pollAll shuffles hplan htask rfl
  refine ⟨Cluster.closedForm_of_reported hservers hfailure ?_, fun others halike => ?_⟩
  · rw [hcalls]
    exact reported_pollAll hplan lookups
  · have hsame : r.callsOn shuffles others = r.callsOn shuffles lookups := by
      rw [hcalls, hcalls, halike.pollAll_eq]
    exact ⟨hsame, by rw [hsame]⟩

/-- A failure, two hosts, an answer from another domain, and the two hosts again. It is as if
    the two hosts had been found once. -/
theorem polling_closed_form_twice :
    let a : Address := ⟨"a.example.com", 1⟩
    let b : Address := ⟨"b.example.com", 1⟩
    let late : Lookup := .error (.timeout "late")
    let outside : Lookup := .ok [⟨"a.example.org", 1⟩]
    let lookups : List Lookup := [late, .ok [b, a], outside, .ok [a, b, a]]
    ∃ r : Roster,
      r.Born { settings := { mode := .multiple, srvHost := some "rs0.example.com" } } ∧
      (Cluster.take r.set (r.callsOn (fun _ hosts => hosts) lookups)).addresses = [a, b] ∧
      r.callsOn (fun _ hosts => hosts) [late, .ok [a, b]] =
        r.callsOn (fun _ hosts => hosts) lookups := by
  have hlast : (valid "rs0.example.com" [.error (.timeout "late"),
      .ok [⟨"b.example.com", 1⟩, ⟨"a.example.com", 1⟩], .ok [⟨"a.example.org", 1⟩],
      .ok [⟨"a.example.com", 1⟩, ⟨"b.example.com", 1⟩, ⟨"a.example.com", 1⟩]]).getLast? =
      some [⟨"a.example.com", 1⟩, ⟨"b.example.com", 1⟩, ⟨"a.example.com", 1⟩] := by
    decide +kernel
  have hbefore : valid "rs0.example.com" [.error (.timeout "late"),
      .ok [⟨"b.example.com", 1⟩, ⟨"a.example.com", 1⟩]] ≠ [] := by
    decide +kernel
  have hvalid : isValid "rs0.example.com"
      (.ok [⟨"b.example.com", 1⟩, ⟨"a.example.com", 1⟩]) = true := by
    decide +kernel
  have houtside : isValid "rs0.example.com" (.ok [⟨"a.example.org", 1⟩]) = false := by
    decide +kernel
  have hsorted : [(⟨"a.example.com", 1⟩ : Address), ⟨"b.example.com", 1⟩].Pairwise
      Address.Before := by
    decide +kernel
  intro a b late outside lookups
  have halike : Alike "rs0.example.com" [late, .ok [a, b]] lookups := by
    have hfirst : Alike "rs0.example.com" [late, .ok [a, b]] [late, .ok [b, a]] :=
      .symm (.respelt [late] [] hvalid (by grind))
    have hsecond : Alike "rs0.example.com" [late, .ok [b, a], .ok [b, a]]
        [late, .ok [b, a], .ok [a, b, a]] := .respelt [late, .ok [b, a]] [] hvalid (by grind)
    exact hfirst.trans ((Alike.repeated [late] [] hvalid).trans
      (hsecond.trans (.failed [late, .ok [b, a]] [.ok [a, b, a]] hbefore houtside)))
  obtain ⟨r, hborn⟩ : ∃ r : Roster,
      r.Born { settings := { mode := .multiple, srvHost := some "rs0.example.com" } } :=
    ⟨{ set := _, watch := _, resolver := ⟨[], [], []⟩ }, ⟨⟨1, true, 0, _, _, rfl, rfl⟩, rfl⟩⟩
  obtain ⟨hform, hsame⟩ := polling_closed_form hborn rfl rfl (fun _ hosts => hosts) lookups
  refine ⟨r, hborn, ?_, (hsame _ halike.symm).1⟩
  refine Address.eq_of_pairwise hform.sorted hsorted fun c => ?_
  rw [hform.members, hlast]
  grind

end Roster

end DocumentLink
