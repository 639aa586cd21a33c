import DocumentLink.Cluster
import DocumentLink.Proofs.Hosts

/-!
# Lookups and Polls

What a lookup settles on, and what a poll makes of it.

A host is accepted only below the parent domain of the host that is looked up.
`Below` says this without the scanning that decides it: the canonical host is a
label, a dot and a domain, there is a dot in the domain, and the accepted host
ends with a dot and the domain. Everything that gets through the check has it,
and whatever has it gets through, so the check depends on nothing but the
members of the list.

A poll has four ways to end, depending on whether the lookup settles on hosts
and whether the watch knows hosts already. `Polled` has a constructor for each.
What is reported as hosts lies within the domain, is free of repeats, respects
the limit and is never empty. That holds for whatever the name service answers
and however the shuffle falls, and it is all that the server set will need.

## Main definitions

* `Discovery.Below`: An address lies below the parent domain of a host.
* `Discovery.checked`: What a lookup gives once its hosts are checked.
* `Discovery.Within`: What is demanded of the addresses of a server set.
* `Discovery.Report.Lawful`: A report hands out nothing but such addresses.
* `Discovery.Polled`: The ways in which a poll ends.

## Theorems

* `Discovery.validate_eq_ok_iff`: What gets through the check.
* `Discovery.poll_of_ok`, `Discovery.poll_of_error`: What a poll makes of a lookup.
* `Discovery.polled`: A poll ends in one of the ways.
* `Watch.pollTimes_lawful`: What polls report is lawful.
* `Watch.pollTimes_add`: Polling goes on where it stopped.
-/

namespace DocumentLink

namespace Address

/-- Splitting at a mark takes off what stands before the first one. -/
theorem splitAt?_eq_some_iff {mark : Char} {cs before after : List Char} :
    splitAt? mark cs = some (before, after) ↔ cs = before ++ mark :: after ∧ mark ∉ before := by
  induction cs generalizing before with
  | nil => simp [splitAt?]
  | cons c rest ih =>
      unfold splitAt?
      by_cases hc : c = mark
      · rw [if_pos hc]
        cases before with
        | nil => simp [hc]
        | cons b before =>
            refine iff_of_false (by simp) ?_
            rintro ⟨hcons, hmark⟩
            have hb : mark = b := hc ▸ (List.cons.inj hcons).1
            exact hmark (hb ▸ List.mem_cons_self)
      · rw [if_neg hc]
        cases before with
        | nil => simp [hc]
        | cons b before =>
            simp only [Option.map_eq_some_iff, Prod.exists, Prod.mk.injEq, List.cons.injEq,
              List.cons_append, List.mem_cons, not_or]
            constructor
            · rintro ⟨before', after', hrest, ⟨rfl, rfl⟩, rfl⟩
              obtain ⟨rfl, hmark⟩ := ih.mp hrest
              exact ⟨⟨rfl, rfl⟩, Ne.symm hc, hmark⟩
            · rintro ⟨⟨rfl, hrest⟩, -, hmark⟩
              exact ⟨before, after, ih.mpr ⟨hrest, hmark⟩, ⟨rfl, rfl⟩, rfl⟩

end Address

namespace Discovery

/-- An address lies below the parent domain of a host, which is what follows the
    first label, and no top-level domain. -/
def Below (srvHost : String) (address : Address) : Prop :=
  ∃ label domain : List Char,
    (canonicalHost srvHost).toList = label ++ '.' :: domain ∧ '.' ∉ label ∧ '.' ∈ domain ∧
      ('.' :: domain) <:+ address.host.toList

theorem isBelow_iff {domain : List Char} {address : Address} :
    isBelow domain address = true ↔ ('.' :: domain) <:+ address.host.toList :=
  List.isSuffixOf_iff_suffix

/-- The parent domain of a host, if it has three labels at least. -/
theorem parentDomain?_filter_eq_some_iff {host : String} {domain : List Char} :
    ((parentDomain? host).filter fun domain => domain.contains '.') = some domain ↔
      '.' ∈ domain ∧ ∃ label, host.toList = label ++ '.' :: domain ∧ '.' ∉ label := by
  rw [Option.filter_eq_some_iff, and_comm, List.contains_iff_mem, parentDomain?,
    Option.map_eq_some_iff]
  refine and_congr_right fun _ => ⟨?_, ?_⟩
  · rintro ⟨⟨label, after⟩, hsplit, rfl⟩
    exact ⟨label, Address.splitAt?_eq_some_iff.mp hsplit⟩
  · rintro ⟨label, hsplit⟩
    exact ⟨(label, domain), Address.splitAt?_eq_some_iff.mpr hsplit, rfl⟩

/-- Nothing lies below a host that has no parent domain. -/
theorem not_below {srvHost : String} (hdomain : ((parentDomain? (canonicalHost srvHost)).filter
      fun domain => domain.contains '.') = none) (address : Address) :
    ¬Below srvHost address := by
  rintro ⟨label, domain, hhost, hlabel, hdot, -⟩
  rw [parentDomain?_filter_eq_some_iff.mpr ⟨hdot, label, hhost, hlabel⟩] at hdomain
  cases hdomain

/-- A host has one parent domain at most, and what is scanned for is that it comes last. -/
theorem below_iff {srvHost : String} {domain : List Char}
    (hdomain : ((parentDomain? (canonicalHost srvHost)).filter fun domain =>
      domain.contains '.') = some domain) (address : Address) :
    Below srvHost address ↔ isBelow domain address = true := by
  rw [isBelow_iff]
  constructor
  · rintro ⟨label, domain', hhost, hlabel, hdot, hsuffix⟩
    rw [parentDomain?_filter_eq_some_iff.mpr ⟨hdot, label, hhost, hlabel⟩] at hdomain
    exact Option.some.inj hdomain ▸ hsuffix
  · intro hsuffix
    obtain ⟨hdot, label, hhost, hlabel⟩ := parentDomain?_filter_eq_some_iff.mp hdomain
    exact ⟨label, domain, hhost, hlabel, hdot, hsuffix⟩

/-- What gets through the check: some hosts, all below the parent domain, as they are. -/
theorem validate_eq_ok_iff {srvHost : String} {hosts accepted : List Address} :
    validate srvHost hosts = .ok accepted ↔
      accepted = hosts ∧ hosts ≠ [] ∧ ∀ a ∈ hosts, Below srvHost a := by
  cases hdomain : (parentDomain? (canonicalHost srvHost)).filter fun domain =>
      domain.contains '.' with
  | none =>
    -- Without a parent domain nothing lies below it, and an empty list is refused as well.
    refine iff_of_false (by simp only [validate, hdomain, reduceCtorEq, not_false_eq_true]) ?_
    rintro ⟨-, hne, hbelow⟩
    obtain ⟨a, ha⟩ := List.exists_mem_of_ne_nil hosts hne
    exact not_below hdomain a (hbelow a ha)
  | some domain =>
    by_cases hempty : hosts = []
    · refine iff_of_false ?_ fun h => h.2.1 hempty
      simp only [validate, hdomain, hempty, List.isEmpty_nil, if_true, reduceCtorEq,
        not_false_eq_true]
    · have hall : (∀ a ∈ hosts, Below srvHost a) ↔
          (hosts.find? fun address => !isBelow domain address) = none := by
        simp only [below_iff hdomain, List.find?_eq_none, Bool.not_eq_true', Bool.not_eq_false]
      rw [hall]
      simp only [validate, hdomain, List.isEmpty_iff, hempty, if_false, ne_eq, not_false_eq_true,
        true_and]
      cases hosts.find? fun address => !isBelow domain address with
      | none => simp only [Except.ok.injEq, eq_comm, and_true]
      | some address => simp only [reduceCtorEq, and_false]

/-- What a lookup gives once its hosts have been checked. -/
def checked (srvHost : String) (lookup : Lookup) : Lookup :=
  lookup.bind (validate srvHost)

theorem resolve_eq_map (srvHost : String) (lookup : Lookup) :
    resolve srvHost lookup = (checked srvHost lookup).map Address.ordered := by
  rw [resolve, checked]

/-- A checked lookup gives the hosts that were found, and they lie below the domain. -/
theorem checked_eq_ok_iff {srvHost : String} {lookup : Lookup} {hosts : List Address} :
    checked srvHost lookup = .ok hosts ↔
      lookup = .ok hosts ∧ hosts ≠ [] ∧ ∀ a ∈ hosts, Below srvHost a := by
  cases lookup with
  | error e => exact iff_of_false (by simp [checked, Except.bind]) (by simp)
  | ok found =>
      rw [checked, Except.bind, validate_eq_ok_iff]
      constructor
      · rintro ⟨rfl, h⟩
        exact ⟨rfl, h⟩
      · rintro ⟨hfound, h⟩
        obtain rfl := Except.ok.inj hfound
        exact ⟨rfl, h⟩

/-- What is demanded of the addresses of a server set. -/
structure Within (srvHost : String) (limit : Nat) (addresses : List Address) : Prop where
  nodup : addresses.Nodup
  below : ∀ a ∈ addresses, Below srvHost a
  few : limit ≠ 0 → addresses.length ≤ limit

/-- No addresses at all are in order everywhere. -/
theorem Within.nil (srvHost : String) (limit : Nat) : Within srvHost limit [] where
  nodup := List.nodup_nil
  below _ ha := absurd ha List.not_mem_nil
  few _ := Nat.zero_le limit

/-- Picking some of the hosts keeps to what is demanded, and picks one at least. -/
theorem select_within {srvHost : String} {limit : Nat} {hosts : List Address}
    {shuffle : List Address → List Address} (hshuffle : (shuffle hosts).Perm hosts)
    (hnodup : hosts.Nodup) (hbelow : ∀ a ∈ hosts, Below srvHost a) (hne : hosts ≠ []) :
    Within srvHost limit (select shuffle limit hosts) ∧ select shuffle limit hosts ≠ [] := by
  unfold select
  split
  next h =>
    simp only [Bool.or_eq_true, decide_eq_true_eq] at h
    exact ⟨⟨hnodup, hbelow, fun hlimit => h.resolve_left hlimit⟩, hne⟩
  next h =>
    simp only [Bool.or_eq_true, decide_eq_true_eq, not_or] at h
    have hsub := List.take_sublist limit (shuffle hosts)
    -- What is picked are the first ones of the shuffled hosts.
    refine ⟨⟨(hshuffle.nodup_iff.mpr hnodup).sublist hsub, fun a ha => ?_, fun _ => ?_⟩, ?_⟩
    · exact hbelow a (hshuffle.mem_iff.mp (hsub.subset ha))
    · rw [List.length_take]
      exact Nat.min_le_left _ _
    · -- There are more hosts than the limit, and the limit is not zero.
      intro hnil
      have hlength := congrArg List.length hnil
      rw [List.length_take, hshuffle.length_eq, List.length_nil] at hlength
      omega

/-- A report hands out nothing but what is demanded, and never an empty list. -/
def Report.Lawful (srvHost : String) (limit : Nat) : Report → Prop
  | .hosts selected _ => Within srvHost limit selected ∧ selected ≠ []
  | .failure _ => True

/-- The ways in which a poll ends: what it reports, and the hosts known after it. -/
inductive Polled (plan : Plan) (shuffle : List Address → List Address) (lookup : Lookup) :
    Option (List Address) → Option Report → Option (List Address) → Prop where
  /-- The hosts are those that are known. -/
  | same {hosts : List Address} : checked plan.srvHost lookup = .ok hosts →
      Polled plan shuffle lookup (some (Address.ordered hosts)) none
        (some (Address.ordered hosts))
  /-- The hosts are others than those that are known. -/
  | changed {hosts : List Address} {known : Option (List Address)} :
      checked plan.srvHost lookup = .ok hosts → known ≠ some (Address.ordered hosts) →
      Polled plan shuffle lookup known
        (some (.hosts (select shuffle plan.maxHosts (Address.ordered hosts))
          (Address.ordered hosts)))
        (some (Address.ordered hosts))
  /-- There are no hosts, and none are known. -/
  | unresolved {e : Error} : checked plan.srvHost lookup = .error e →
      Polled plan shuffle lookup none (some (.failure e)) none
  /-- There are no hosts, and the known ones are kept. -/
  | kept {e : Error} {hosts : List Address} : checked plan.srvHost lookup = .error e →
      Polled plan shuffle lookup (some hosts) none (some hosts)

/-- A poll that finds hosts compares them with those that are known. -/
theorem poll_of_ok {plan : Plan} {lookup : Lookup} {hosts : List Address}
    (hchecked : checked plan.srvHost lookup = .ok hosts)
    (shuffle : List Address → List Address) (known : Option (List Address)) :
    poll plan shuffle known lookup =
      if known = some (Address.ordered hosts) then (none, known)
      else (some (.hosts (select shuffle plan.maxHosts (Address.ordered hosts))
        (Address.ordered hosts)), some (Address.ordered hosts)) := by
  rw [poll, resolve_eq_map, hchecked, Except.map]

/-- A poll that finds none says so while none are known. -/
theorem poll_of_error {plan : Plan} {lookup : Lookup} {e : Error}
    (hchecked : checked plan.srvHost lookup = .error e)
    (shuffle : List Address → List Address) (known : Option (List Address)) :
    poll plan shuffle known lookup =
      if known.isNone then (some (.failure e), known) else (none, known) := by
  rw [poll, resolve_eq_map, hchecked, Except.map]

/-- A poll ends in one of the ways. -/
theorem polled (plan : Plan) (shuffle : List Address → List Address)
    (known : Option (List Address)) (lookup : Lookup) :
    Polled plan shuffle lookup known (poll plan shuffle known lookup).1
      (poll plan shuffle known lookup).2 := by
  cases hchecked : checked plan.srvHost lookup with
  | ok hosts =>
      rw [poll_of_ok hchecked]
      by_cases hsame : known = some (Address.ordered hosts)
      · rw [if_pos hsame, hsame]
        exact .same hchecked
      · rw [if_neg hsame]
        exact .changed hchecked hsame
  | error e =>
      rw [poll_of_error hchecked]
      cases known with
      | none => exact .unresolved hchecked
      | some hosts => exact .kept hchecked

/-- What a poll reports is lawful. -/
theorem Polled.lawful {plan : Plan} {shuffle : List Address → List Address} {lookup : Lookup}
    {known after : Option (List Address)} {report : Report}
    (hshuffle : ∀ hosts, (shuffle hosts).Perm hosts)
    (h : Polled plan shuffle lookup known (some report) after) :
    report.Lawful plan.srvHost plan.maxHosts := by
  cases h with
  | changed hchecked _ =>
      obtain ⟨-, hne, hbelow⟩ := checked_eq_ok_iff.mp hchecked
      refine select_within (hshuffle _) (Address.nodup_ordered _) (fun a ha => ?_) ?_
      · exact hbelow a (Address.mem_ordered.mp ha)
      · exact fun hnil => hne (Address.ordered_eq_nil_iff.mp hnil)
  | unresolved _ => trivial

end Discovery

/-- A lookup takes the first of the answers that are left. -/
theorem Resolver.lookUp_cons {resolver : Resolver} {lookup : Discovery.Lookup}
    {lookups : List Discovery.Lookup} (h : resolver.lookups = lookup :: lookups) (name : String) :
    (resolver.lookUp name).1 = lookup ∧ (resolver.lookUp name).2.lookups = lookups := by
  rw [lookUp, h]
  exact ⟨rfl, rfl⟩

namespace Watch

/-- The hosts that the running task of a watch knows. -/
def known? (watch : Watch) : Option (List Address) :=
  watch.task.bind Task.known

@[simp] theorem known?_close (watch : Watch) : watch.close.known? = none := rfl

/-- Starting a watch changes nothing of what it knows. -/
theorem known?_start {watch started : Watch} {runtime : Bool} {now : Nat}
    (h : watch.start runtime now = .ok started) : started.known? = watch.known? := by
  unfold start at h
  cases runtime with
  | false => cases h
  | true =>
      obtain rfl := Except.ok.inj h
      unfold known?
      cases watch.task <;> rfl

theorem plan_start {watch started : Watch} {runtime : Bool} {now : Nat}
    (h : watch.start runtime now = .ok started) : started.plan = watch.plan := by
  unfold start at h
  cases runtime with
  | false => cases h
  | true => exact Except.ok.inj h ▸ rfl

variable (shuffles : Shuffles)

/-- A watch that is not running does not poll. -/
theorem pollTimes_stopped (n : Nat) {watch : Watch} (resolver : Resolver)
    (h : watch.task = none) : pollTimes shuffles n watch resolver = ([], watch, resolver) := by
  cases n with
  | zero => rfl
  | succ n => rw [pollTimes, h]

/-- The watch after one poll of its task. -/
def polledOnce (watch : Watch) (task : Task) (known : Option (List Address)) : Watch :=
  { watch with task := some ⟨known, task.due + watch.plan.period⟩, polls := watch.polls + 1 }

/-- A watch that is running polls once and goes on. -/
theorem pollTimes_running (n : Nat) {watch : Watch} {task : Task} (resolver : Resolver)
    (h : watch.task = some task) :
    pollTimes shuffles (n + 1) watch resolver =
      let asked := resolver.lookUp watch.plan.recordName
      let outcome := Discovery.poll watch.plan (shuffles watch.polls) task.known asked.1
      let rest := pollTimes shuffles n (watch.polledOnce task outcome.2) asked.2
      (outcome.1.toList ++ rest.1, rest.2) := by
  rw [pollTimes, h]
  rfl

/-- Polling goes on where it stopped. -/
theorem pollTimes_add (m n : Nat) (watch : Watch) (resolver : Resolver) :
    pollTimes shuffles (m + n) watch resolver =
      let first := pollTimes shuffles m watch resolver
      let second := pollTimes shuffles n first.2.1 first.2.2
      (first.1 ++ second.1, second.2) := by
  induction m generalizing watch resolver with
  | zero => rw [Nat.zero_add]; rfl
  | succ m ih =>
      cases htask : watch.task with
      | none =>
          simp only [pollTimes_stopped shuffles _ resolver htask, List.nil_append]
      | some task =>
          -- The first poll is the first of all of them, and the rest is what is added to.
          rw [Nat.add_right_comm, pollTimes_running shuffles _ resolver htask,
            pollTimes_running shuffles _ resolver htask]
          simp only [ih, List.append_assoc]

/-- Polls leave the plan as it is. -/
theorem pollTimes_plan (n : Nat) (watch : Watch) (resolver : Resolver) :
    (pollTimes shuffles n watch resolver).2.1.plan = watch.plan := by
  induction n generalizing watch resolver with
  | zero => rfl
  | succ n ih =>
      cases htask : watch.task with
      | none => rw [pollTimes_stopped shuffles _ resolver htask]
      | some task =>
          rw [pollTimes_running shuffles n resolver htask]
          exact ih _ _

variable {shuffles} in
/-- What polls report is lawful. -/
theorem pollTimes_lawful (hshuffles : ∀ n hosts, (shuffles n hosts).Perm hosts) (n : Nat)
    (watch : Watch) (resolver : Resolver) :
    ∀ report ∈ (pollTimes shuffles n watch resolver).1,
      report.Lawful watch.plan.srvHost watch.plan.maxHosts := by
  induction n generalizing watch resolver with
  | zero => exact fun report h => absurd h List.not_mem_nil
  | succ n ih =>
      intro report hreport
      cases htask : watch.task with
      | none =>
          rw [pollTimes_stopped shuffles _ resolver htask] at hreport
          exact absurd hreport List.not_mem_nil
      | some task =>
          rw [pollTimes_running shuffles n resolver htask] at hreport
          rcases List.mem_append.mp hreport with hfirst | hrest
          · have hpolled := Discovery.polled watch.plan (shuffles watch.polls) task.known
              (resolver.lookUp watch.plan.recordName).1
            rw [Option.mem_toList.mp hfirst] at hpolled
            exact hpolled.lawful (hshuffles watch.polls)
          · have hlawful := ih _ _ report hrest
            exact hlawful

end Watch

namespace Cluster

@[simp] theorem take_nil (set : ServerSet) : take set [] = set := rfl

@[simp] theorem take_cons (set : ServerSet) (report : Discovery.Report)
    (reports : List Discovery.Report) :
    take set (report :: reports) = take (takeReport set report) reports := rfl

theorem take_append (set : ServerSet) (reports more : List Discovery.Report) :
    take set (reports ++ more) = take (take set reports) more :=
  List.foldl_append

/-- Failures leave the servers alone, and the last one is kept. -/
theorem take_failures (set : ServerSet) (errors : List Error) :
    take set (errors.map Discovery.Report.failure) =
      { set with failure := errors.getLast?.or set.failure } := by
  induction errors generalizing set with
  | nil => rfl
  | cons e errors ih =>
      rw [List.map_cons, take_cons, ih, takeReport, ServerSet.fail, List.getLast?_cons]
      cases errors.getLast? <;> rfl

end Cluster

end DocumentLink
