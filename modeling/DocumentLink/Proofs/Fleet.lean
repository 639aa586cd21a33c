import DocumentLink.Proofs.Passage

/-!
# A Fleet of Connections

Any number of connections, to whichever servers, are made and opened side by side. Each
goes on by steps of its own: it is made once there is a transport for it, its call enters
the opening and goes from one wait to the next, and at the end it stores what it has
learned, one thing after the other. The steps come in any order.

Every connection keeps the invariant of its passage, since the steps of others only add
to the journal and take numbers. Of the fleet as a whole it has to be said besides that
local values are given out one after the other, and that what has been told since the
beginning falls apart into what has been told of each connection.

## Main definitions

* `Vessel`: A connection in a fleet, and how far it has come.
* `Vessel.go`: Go on with it by one step.
* `Vessel.Sound`, `Vessel.Goes`: What is known of it, and what its step does.
* `Fleet`, `Fleet.go`, `Fleet.run`: Connections side by side, and their steps.
* `Fleet.Sound`: The invariant of fleets.
* `Fleet.Isolated`: What can be seen of a fleet.

## Theorems

* `Vessel.Sound.go`, `Fleet.Sound.go`, `Fleet.Sound.run`: Steps keep the invariants.
* `Fleet.stepsLeft_run`: A connection that has had its turns has come to its end.
* `Fleet.run_isolated`: Connections do not notice each other.
-/

namespace DocumentLink

/-- How far it has come with a connection: it is planned, or there was no transport for it,
    or it has been made and a call is opening it. -/
inductive Vessel.Status where
  | planned
  | stranded (e : Error)
  | underway (connection : Connection) (opener : Opener)

/-- A connection in a fleet, and what has been told while its own call went on. -/
structure Vessel where
  berth : Berth
  status : Vessel.Status := .planned
  told : List Event := []

namespace Vessel

/-- Go on by one step: make the connection, which takes a local value if there is a transport,
    or go on with the call that opens it. -/
def go (vessel : Vessel) (common : Common) : Vessel × Common :=
  match vessel.status with
  | .planned =>
    match vessel.berth.transport with
    | .error e => ({ vessel with status := .stranded e }, common)
    | .ok transport =>
      ({ vessel with
          status := .underway (vessel.berth.connection transport common.nextLocalValue)
            vessel.berth.opener },
        { common with nextLocalValue := common.nextLocalValue + 1 })
  | .stranded _ => (vessel, common)
  | .underway connection opener =>
    let (opener, line) :=
      (opener.counting (common.made vessel.berth.provider)).go ⟨connection, common.journal⟩
    ({ vessel with
        status := .underway line.connection opener
        told := vessel.told ++ line.journal.events.drop common.journal.events.length },
      { common with
        journal := line.journal
        made := fun provider =>
          if provider = vessel.berth.provider then opener.seat.created else common.made provider })

/-- The local value of the connection, as it is described, if it has been made. -/
def localValue? (vessel : Vessel) : Option Nat :=
  match vessel.status with
  | .planned | .stranded _ => none
  | .underway connection _ => some connection.description.id.localValue

/-- What has come of opening it so far. -/
def upshot (vessel : Vessel) : Upshot :=
  match vessel.status with
  | .planned => ⟨none, none, vessel.told⟩
  | .stranded e => ⟨some (.error e), none, vessel.told⟩
  | .underway connection opener => ⟨opener.result?, some connection, vessel.told⟩

/-- The steps that are left at most. -/
def stepsLeft (vessel : Vessel) : Nat :=
  match vessel.status with
  | .planned => vessel.berth.patience
  | .stranded _ => 0
  | .underway connection opener =>
    opener.status.stepsLeft connection.transport.answers.length

/-- What is known of a connection at every moment, if numbers have been given out so far. -/
inductive Sound (next : Nat) : Vessel → Prop where
  | planned (berth : Berth) : Sound next ⟨berth, .planned, []⟩
  | stranded {berth : Berth} {e : Error} (htransport : berth.transport = .error e) :
      Sound next ⟨berth, .stranded e, []⟩
  | underway {berth : Berth} {transport : Transport} {localValue : Nat} {told : List Event}
      {connection : Connection} {opener : Opener} (htransport : berth.transport = .ok transport)
      (h : berth.Underway transport localValue next told connection opener) :
      Sound next ⟨berth, .underway connection opener, told⟩

/-- What a step does to a connection and to what is shared: the connection is made with the
    next local value and nothing is told, or it stays the same and events are told of it. -/
inductive Goes (vessel : Vessel) (common : Common) (later : Vessel) (shared : Common) : Prop where
  | launched (hnone : vessel.localValue? = none)
      (hsome : later.localValue? = some common.nextLocalValue)
      (hnext : shared.nextLocalValue = common.nextLocalValue + 1)
      (hjournal : shared.journal = common.journal) (htold : vessel.told = [])
      (hlater : later.told = [])
  | stayed (news : List Event) (hsame : later.localValue? = vessel.localValue?)
      (hnext : shared.nextLocalValue = common.nextLocalValue)
      (hevents : shared.journal.events = common.journal.events ++ news)
      (htold : later.told = vessel.told ++ news)
      (hown : ∀ event ∈ news, vessel.localValue? = some event.connection.localValue)

variable {vessel : Vessel} {common : Common} {next : Nat}

theorem Sound.mono (h : vessel.Sound next) {next' : Nat} (hle : next ≤ next') :
    vessel.Sound next' := by
  cases h with
  | planned berth => exact .planned berth
  | stranded htransport => exact .stranded htransport
  | underway htransport h => exact .underway htransport (h.mono hle)

/-- A step keeps what is known. -/
theorem Sound.go (h : vessel.Sound common.journal.nextRequest)
    (huniform : vessel.berth.setup.authenticator.Uniform) :
    (vessel.go common).1.Sound (vessel.go common).2.journal.nextRequest ∧
      (vessel.go common).1.berth = vessel.berth ∧
      common.journal.nextRequest ≤ (vessel.go common).2.journal.nextRequest ∧
      vessel.Goes common (vessel.go common).1 (vessel.go common).2 := by
  cases h with
  | planned berth =>
      simp only [Vessel.go]
      cases htransport : berth.transport with
      | error e =>
          exact ⟨.stranded htransport, rfl, Nat.le_refl _, .stayed [] rfl rfl
            (List.append_nil _).symm rfl fun _ h => absurd h List.not_mem_nil⟩
      | ok transport =>
          exact ⟨.underway htransport (Berth.underway_make huniform transport _ _), rfl,
            Nat.le_refl _, .launched rfl rfl rfl rfl rfl rfl⟩
  | stranded htransport =>
      exact ⟨.stranded htransport, rfl, Nat.le_refl _, .stayed [] rfl rfl
        (List.append_nil _).symm rfl fun _ h => absurd h List.not_mem_nil⟩
  | @underway berth transport localValue told connection opener htransport h =>
      rcases h.go huniform (Nat.le_refl _) (common.made berth.provider) with
        ⟨news, hadds, hunderway⟩
      have hnews : List.drop common.journal.events.length
          ((opener.counting (common.made berth.provider)).go
            ⟨connection, common.journal⟩).2.journal.events = news := by
        rw [hadds.events, List.drop_left]
      refine ⟨?_, rfl, hadds.grows, .stayed news ?_ rfl hadds.events ?_ ?_⟩
      · rw [← hnews] at hunderway
        exact .underway htransport hunderway
      · exact congrArg some (hunderway.localValue_eq.trans h.localValue_eq.symm)
      · exact congrArg (told ++ ·) hnews
      · intro event hevent
        exact congrArg some (hadds.localValue event hevent).symm

/-- With every step there is one less left. -/
theorem stepsLeft_go (vessel : Vessel) (common : Common) :
    (vessel.go common).1.stepsLeft ≤ vessel.stepsLeft - 1 := by
  rcases vessel with ⟨berth, status, told⟩
  cases status with
  | planned =>
      simp only [go, stepsLeft, Berth.patience]
      cases berth.transport with
      | error e => exact Nat.le_refl 0
      | ok transport => exact Nat.le_refl _
  | stranded e => exact Nat.zero_le _
  | underway connection opener =>
      exact (opener.counting (common.made berth.provider)).stepsLeft_go
        ⟨connection, common.journal⟩

/-- A call that has no steps left has returned. -/
theorem Sound.returned (h : vessel.Sound next) (hleft : vessel.stepsLeft = 0) :
    vessel.upshot.result.isSome = true := by
  cases h with
  | planned berth =>
      simp only [stepsLeft, Berth.patience] at hleft
      split at hleft <;> cases hleft
  | stranded => rfl
  | underway _ h => exact h.returned hleft

/-- What has come of a connection so far is a part of what comes of it alone. -/
theorem Sound.sent_isPrefix (h : vessel.Sound next) (elsewhere : Common) :
    vessel.upshot.sent <+: (vessel.berth.alone elsewhere).sent := by
  cases h with
  | planned | stranded => exact List.nil_prefix
  | underway htransport h => exact h.sent_isPrefix htransport elsewhere

/-- What has come of a call that has returned is what comes of it alone. -/
theorem Sound.uncounted_eq (h : vessel.Sound next) (hreturned : vessel.upshot.result.isSome = true)
    (elsewhere : Common) :
    vessel.upshot.uncounted = (vessel.berth.alone elsewhere).uncounted := by
  cases h with
  | planned => cases hreturned
  | @stranded berth e htransport =>
      rw [Berth.alone, htransport]
      rfl
  | @underway berth transport localValue told connection opener htransport h =>
      rcases Option.isSome_iff_exists.mp hreturned with ⟨result, hresult⟩
      rw [← h.uncounted_eq htransport hresult elsewhere, ← show opener.result? = _ from hresult]
      rfl

/-- The local value is the one in the result and in all events, and so is the server. -/
theorem Sound.identity (h : vessel.Sound next) {localValue : Nat}
    (hlocalValue : vessel.localValue? = some localValue) :
    (∀ opened, vessel.upshot.result = some (.ok opened) →
      opened.connection.id.server = vessel.berth.server ∧
        opened.connection.id.localValue = localValue) ∧
    ∀ event ∈ vessel.told, event.connection.server = vessel.berth.server ∧
      event.connection.localValue = localValue := by
  cases h with
  | planned | stranded => cases hlocalValue
  | underway htransport h =>
      have hsame := Option.some.inj hlocalValue
      rw [h.localValue_eq] at hsame
      subst hsame
      exact ⟨fun opened hopened => h.identity hopened,
        fun event hevent => ⟨h.server event hevent, h.localValue event hevent⟩⟩

end Vessel

/-- Any number of connections that are opened side by side. -/
structure Fleet where
  common : Common
  vessels : List Vessel
  /-- The connections that have been made, in this order. They are given by their places. -/
  launched : List Nat := []

namespace Fleet

/-- Nothing has been done yet. -/
def make (berths : List Berth) (common : Common) : Fleet where
  common := common
  vessels := berths.map fun berth => { berth := berth }

/-- Go on with the connection at a place by one step. -/
def go (fleet : Fleet) (place : Nat) : Fleet :=
  match fleet.vessels[place]? with
  | none => fleet
  | some vessel =>
    let (later, common) := vessel.go fleet.common
    { common := common
      vessels := fleet.vessels.set place later
      launched :=
        if vessel.localValue?.isNone && later.localValue?.isSome then fleet.launched ++ [place]
        else fleet.launched }

/-- Go on with connections, one step after the other, in whatever order. -/
def run (fleet : Fleet) (turns : List Nat) : Fleet :=
  turns.foldl go fleet

/-- The local value of the connection at a place. -/
def localValue? (fleet : Fleet) (place : Nat) : Option Nat :=
  fleet.vessels[place]?.bind Vessel.localValue?

/-- The invariant of fleets. The local values are given out one after the other, and what
    has been told consists of what has been told of each of the connections. -/
structure Sound (berths : List Berth) (start : Common) (fleet : Fleet) : Prop where
  berths : fleet.vessels.map Vessel.berth = berths
  vessels : ∀ vessel ∈ fleet.vessels, vessel.Sound fleet.common.journal.nextRequest
  next : fleet.common.nextLocalValue = start.nextLocalValue + fleet.launched.length
  launched : ∀ count place, fleet.launched[count]? = some place →
    fleet.localValue? place = some (start.nextLocalValue + count)
  mem_launched : ∀ place, (fleet.localValue? place).isSome = true → place ∈ fleet.launched
  told : ∃ told, fleet.common.journal.events = start.journal.events ++ told ∧
    (∀ event ∈ told, ∃ place, fleet.localValue? place = some event.connection.localValue) ∧
    ∀ (place : Nat) (vessel : Vessel) (localValue : Nat), fleet.vessels[place]? = some vessel →
      vessel.localValue? = some localValue →
      told.filter (fun event => event.connection.localValue = localValue) = vessel.told

variable {berths : List Berth} {start : Common} {fleet : Fleet} {place other : Nat}

/-- A local value is that of the place where it was given out. -/
theorem Sound.localValue?_eq_some (h : Sound berths start fleet) {localValue : Nat}
    (hplace : fleet.localValue? place = some localValue) :
    ∃ count, fleet.launched[count]? = some place ∧ localValue = start.nextLocalValue + count := by
  have hsome : (fleet.localValue? place).isSome = true := by rw [hplace]; rfl
  rcases List.mem_iff_getElem?.mp (h.mem_launched place hsome) with ⟨count, hcount⟩
  have hvalue := h.launched count place hcount
  rw [hplace] at hvalue
  exact ⟨count, hcount, Option.some.inj hvalue⟩

/-- No two connections share a local value. -/
theorem Sound.place_eq (h : Sound berths start fleet) {localValue : Nat}
    (hplace : fleet.localValue? place = some localValue)
    (hother : fleet.localValue? other = some localValue) : place = other := by
  rcases h.localValue?_eq_some hplace with ⟨count, hcount, rfl⟩
  rcases h.localValue?_eq_some hother with ⟨count', hcount', hsame⟩
  rw [Nat.add_left_cancel hsame, hcount'] at hcount
  exact (Option.some.inj hcount).symm

/-- Local values are below the next one. -/
theorem Sound.localValue_lt (h : Sound berths start fleet) {localValue : Nat}
    (hplace : fleet.localValue? place = some localValue) :
    localValue < fleet.common.nextLocalValue := by
  rcases h.localValue?_eq_some hplace with ⟨count, hcount, rfl⟩
  rw [h.next]
  exact Nat.add_lt_add_left (List.getElem?_eq_some_iff.mp hcount).1 _

/-- A place that is set has the local value that is set there. -/
theorem localValue?_set {vessel : Vessel} (hplace : fleet.vessels[place]? = some vessel)
    (later : Vessel) (common : Common) (launched : List Nat) (other : Nat) :
    localValue? ⟨common, fleet.vessels.set place later, launched⟩ other =
      if other = place then later.localValue? else fleet.localValue? other := by
  rw [localValue?, localValue?]
  by_cases hother : other = place
  · rw [if_pos hother, hother, List.getElem?_set_self (List.getElem?_eq_some_iff.mp hplace).1]
    rfl
  · rw [if_neg hother, List.getElem?_set_ne (fun hsame => hother hsame.symm)]

/-- What is found where one place was set is what was set, or was there before. -/
theorem getElem?_set_cases {later own : Vessel}
    (hfound : (fleet.vessels.set place later)[other]? = some own) :
    other = place ∧ own = later ∨ other ≠ place ∧ fleet.vessels[other]? = some own := by
  by_cases hother : other = place
  · rw [hother] at hfound
    have hless := (List.getElem?_eq_some_iff.mp hfound).1
    rw [List.length_set] at hless
    rw [List.getElem?_set_self hless] at hfound
    exact .inl ⟨hother, (Option.some.inj hfound).symm⟩
  · rw [List.getElem?_set_ne (fun hsame => hother hsame.symm)] at hfound
    exact .inr ⟨hother, hfound⟩

/-- At first there are no connections. -/
theorem localValue?_make (berths : List Berth) (start : Common) (place : Nat) :
    (make berths start).localValue? place = none := by
  rw [localValue?, make, List.getElem?_map]
  cases berths[place]? <;> rfl

theorem sound_make (berths : List Berth) (start : Common) :
    Sound berths start (make berths start) where
  berths := by
    rw [make, List.map_map]
    exact List.map_id _
  vessels vessel hvessel := by
    rcases List.mem_map.mp hvessel with ⟨berth, _, rfl⟩
    exact .planned berth
  next := rfl
  launched _ _ h := by cases h
  mem_launched place h := by
    rw [localValue?_make] at h
    cases h
  told := by
    refine ⟨[], (List.append_nil _).symm, fun _ h => absurd h List.not_mem_nil, ?_⟩
    intro place vessel localValue hplace hlocalValue
    have hnone := localValue?_make berths start place
    rw [localValue?, hplace, Option.bind_some, hlocalValue] at hnone
    cases hnone

/-- A connection is made. It is given a local value that no other has, and of which nothing
    has been told. -/
theorem Sound.launch (h : Sound berths start fleet) {vessel later : Vessel} {common : Common}
    (hplace : fleet.vessels[place]? = some vessel)
    (hberths : (fleet.vessels.set place later).map Vessel.berth = berths)
    (hvessels : ∀ vessel ∈ fleet.vessels.set place later,
      vessel.Sound common.journal.nextRequest)
    (hnone : vessel.localValue? = none)
    (hsome : later.localValue? = some fleet.common.nextLocalValue)
    (hnext : common.nextLocalValue = fleet.common.nextLocalValue + 1)
    (hjournal : common.journal = fleet.common.journal) (hlater : later.told = []) :
    Sound berths start ⟨common, fleet.vessels.set place later, fleet.launched ++ [place]⟩ := by
  have hset := localValue?_set hplace later common (fleet.launched ++ [place])
  have hbefore : fleet.localValue? place = none := by
    rw [localValue?, hplace]
    exact hnone
  have hother : ∀ {other localValue : Nat}, fleet.localValue? other = some localValue →
      other ≠ place := by
    rintro other localValue hsome rfl
    rw [hbefore] at hsome
    cases hsome
  refine ⟨hberths, hvessels, ?_, fun count other hcount => ?_, fun other hother => ?_, ?_⟩
  · rw [hnext, h.next, List.length_append]
    rfl
  · -- It is the last one that has been made, after all the others.
    rw [hset]
    rcases Nat.lt_trichotomy count fleet.launched.length with hless | rfl | hmore
    · rw [List.getElem?_append_left hless] at hcount
      have hvalue := h.launched count other hcount
      rw [if_neg (hother hvalue)]
      exact hvalue
    · rw [List.getElem?_concat_length] at hcount
      rw [if_pos (Option.some.inj hcount).symm, hsome, h.next]
    · rw [List.getElem?_eq_none (by rw [List.length_append]; exact hmore)] at hcount
      cases hcount
  · rw [hset] at hother
    split at hother
    · rename_i hself
      rw [hself]
      exact List.mem_append_right _ List.mem_cons_self
    · exact List.mem_append_left _ (h.mem_launched other hother)
  · rcases h.told with ⟨told, hevents, hfrom, hown⟩
    refine ⟨told, by rw [hjournal, hevents], fun event hevent => ?_, ?_⟩
    · rcases hfrom event hevent with ⟨other, hvalue⟩
      refine ⟨other, ?_⟩
      rw [hset, if_neg (hother hvalue)]
      exact hvalue
    · intro other own localValue hfound hvalue
      rcases getElem?_set_cases hfound with ⟨-, rfl⟩ | ⟨-, hfound⟩
      · -- Everything that has been told is about a connection with a smaller number.
        rw [hsome] at hvalue
        rw [hlater, List.filter_eq_nil_iff]
        intro event hevent hsame
        rcases hfrom event hevent with ⟨earlier, hearlier⟩
        have hless := h.localValue_lt hearlier
        rw [of_decide_eq_true hsame, ← Option.some.inj hvalue] at hless
        exact Nat.lt_irrefl _ hless
      · exact hown other own localValue hfound hvalue

/-- A connection stays what it is. What is told meanwhile is about it, and so about no
    other. -/
theorem Sound.stay (h : Sound berths start fleet) {vessel later : Vessel} {common : Common}
    (hplace : fleet.vessels[place]? = some vessel)
    (hberths : (fleet.vessels.set place later).map Vessel.berth = berths)
    (hvessels : ∀ vessel ∈ fleet.vessels.set place later,
      vessel.Sound common.journal.nextRequest) {news : List Event}
    (hsame : later.localValue? = vessel.localValue?)
    (hnext : common.nextLocalValue = fleet.common.nextLocalValue)
    (hevents : common.journal.events = fleet.common.journal.events ++ news)
    (htold : later.told = vessel.told ++ news)
    (hnews : ∀ event ∈ news, vessel.localValue? = some event.connection.localValue) :
    Sound berths start ⟨common, fleet.vessels.set place later, fleet.launched⟩ := by
  have hself : fleet.localValue? place = vessel.localValue? := by
    rw [localValue?, hplace]
    rfl
  have hset : ∀ other, localValue? ⟨common, fleet.vessels.set place later, fleet.launched⟩ other =
      fleet.localValue? other := by
    intro other
    rw [localValue?_set hplace]
    split
    · rename_i hother
      rw [hother, hsame, hself]
    · rfl
  refine ⟨hberths, hvessels, hnext.trans h.next, fun count other hcount => ?_,
    fun other hother => ?_, ?_⟩
  · rw [hset]
    exact h.launched count other hcount
  · rw [hset] at hother
    exact h.mem_launched other hother
  · rcases h.told with ⟨told, hstart, hfrom, hown⟩
    refine ⟨told ++ news, by rw [hevents, hstart, List.append_assoc], fun event hevent => ?_, ?_⟩
    · rcases List.mem_append.mp hevent with hevent | hevent
      · rcases hfrom event hevent with ⟨other, hvalue⟩
        exact ⟨other, (hset other).trans hvalue⟩
      · exact ⟨place, (hset place).trans (hself.trans (hnews event hevent))⟩
    · intro other own localValue hfound hvalue
      rw [List.filter_append]
      rcases getElem?_set_cases hfound with ⟨-, rfl⟩ | ⟨hother, hfound⟩
      · rw [hsame] at hvalue
        rw [htold, hown place vessel localValue hplace hvalue]
        refine congrArg _ (List.filter_eq_self.mpr fun event hevent => decide_eq_true ?_)
        have hevent := hnews event hevent
        rw [hvalue] at hevent
        exact (Option.some.inj hevent).symm
      · -- Two places do not share a value, so the news is not about this one.
        rw [hown other own localValue hfound hvalue]
        have hnone : news.filter (fun event => event.connection.localValue = localValue) = [] := by
          refine List.filter_eq_nil_iff.mpr fun event hevent hshared => hother ?_
          have hplaced := hself.trans (hnews event hevent)
          rw [of_decide_eq_true hshared] at hplaced
          refine h.place_eq ?_ hplaced
          rw [localValue?, hfound]
          exact hvalue
        rw [hnone, List.append_nil]

/-- A step of one connection keeps the invariant. -/
theorem Sound.go (h : Sound berths start fleet)
    (huniform : ∀ berth ∈ berths, berth.setup.authenticator.Uniform) (place : Nat) :
    Sound berths start (fleet.go place) := by
  rw [Fleet.go]
  cases hplace : fleet.vessels[place]? with
  | none => exact h
  | some vessel =>
      have hmem := List.mem_of_getElem? hplace
      have hberth : vessel.berth ∈ berths := h.berths ▸ List.mem_map_of_mem hmem
      rcases (h.vessels vessel hmem).go (huniform vessel.berth hberth) with
        ⟨hsound, hsame, hgrows, hgoes⟩
      simp only []
      generalize (vessel.go fleet.common).1 = later at hsound hsame hgoes ⊢
      generalize (vessel.go fleet.common).2 = common at hsound hgrows hgoes ⊢
      -- The connection is put back where it was, and the others are as they were.
      have hberths : (fleet.vessels.set place later).map Vessel.berth = berths := by
        have hown : (fleet.vessels.map Vessel.berth)[place]? = some vessel.berth := by
          rw [List.getElem?_map, hplace]
          rfl
        rw [List.map_set, hsame, ← h.berths]
        rcases List.getElem?_eq_some_iff.mp hown with ⟨hless, hown⟩
        rw [← hown]
        exact List.set_getElem_self hless
      have hvessels : ∀ vessel ∈ fleet.vessels.set place later,
          vessel.Sound common.journal.nextRequest := by
        intro own hown
        rcases List.mem_or_eq_of_mem_set hown with hown | rfl
        · exact (h.vessels own hown).mono hgrows
        · exact hsound
      -- Only a step that gives out a local value counts as making a connection.
      cases hgoes with
      | launched hnone hsome hnext hjournal htold hlater =>
          rw [hnone, hsome]
          exact h.launch hplace hberths hvessels hnone hsome hnext hjournal hlater
      | stayed news hstays hnext hevents htold hnews =>
          have hnot : (vessel.localValue?.isNone && later.localValue?.isSome) = false := by
            rw [hstays]
            cases vessel.localValue? <;> rfl
          rw [hnot]
          exact h.stay hplace hberths hvessels hstays hnext hevents htold hnews

/-- So do all steps, in whatever order. -/
theorem Sound.run (h : Sound berths start fleet)
    (huniform : ∀ berth ∈ berths, berth.setup.authenticator.Uniform) (turns : List Nat) :
    Sound berths start (fleet.run turns) := by
  induction turns generalizing fleet with
  | nil => exact h
  | cons place turns ih => exact ih (h.go huniform place)

/-- The steps that the connection at a place has left at most. -/
def stepsLeft (fleet : Fleet) (place : Nat) : Nat :=
  fleet.vessels[place]?.elim 0 Vessel.stepsLeft

/-- Only its own steps bring a connection nearer to its end, and each of them does. -/
theorem stepsLeft_go (fleet : Fleet) (turn place : Nat) :
    (fleet.go turn).stepsLeft place ≤ fleet.stepsLeft place - if turn = place then 1 else 0 := by
  rw [Fleet.go]
  cases hturn : fleet.vessels[turn]? with
  | none =>
      simp only [stepsLeft]
      split
      · rename_i hself
        rw [← hself, hturn]
        exact Nat.le_refl 0
      · exact Nat.le_refl _
  | some vessel =>
      simp only [stepsLeft]
      split
      · rename_i hself
        rw [← hself, hturn, List.getElem?_set_self (List.getElem?_eq_some_iff.mp hturn).1]
        exact vessel.stepsLeft_go fleet.common
      · rename_i hother
        rw [List.getElem?_set_ne hother]
        exact Nat.le_refl _

theorem stepsLeft_run (fleet : Fleet) (turns : List Nat) (place : Nat) :
    (fleet.run turns).stepsLeft place ≤ fleet.stepsLeft place - turns.count place := by
  induction turns generalizing fleet with
  | nil => exact Nat.le_refl _
  | cons turn turns ih =>
      calc ((fleet.go turn).run turns).stepsLeft place
          ≤ (fleet.go turn).stepsLeft place - turns.count place := ih (fleet.go turn)
        _ ≤ fleet.stepsLeft place - (if turn = place then 1 else 0) - turns.count place :=
            Nat.sub_le_sub_right (fleet.stepsLeft_go turn place) _
        _ = fleet.stepsLeft place - (turn :: turns).count place := by
            rw [List.count_cons, Nat.sub_sub, Nat.add_comm]
            simp only [beq_iff_eq]

/-- What can be seen of a fleet after some turns. -/
structure Isolated (berths : List Berth) (start : Common) (turns : List Nat) (fleet : Fleet) :
    Prop where
  /-- There is a connection for every berth, and its opening has returned once it has had
      its turns. -/
  returned : ∀ (place : Nat) (berth : Berth), berths[place]? = some berth →
    ∃ vessel, fleet.vessels[place]? = some vessel ∧ vessel.berth = berth ∧
      (berth.patience ≤ turns.count place → vessel.upshot.result.isSome = true)
  /-- It goes as if nothing else were done: what it has sent is a part of what it sends alone,
      and once it has returned its result, the connection, what was sent and what was told of
      it are the same as alone, but for what was counted. -/
  alone : ∀ vessel ∈ fleet.vessels, ∀ elsewhere : Common,
    vessel.upshot.sent <+: (vessel.berth.alone elsewhere).sent ∧
      (vessel.upshot.result.isSome = true →
        vessel.upshot.uncounted = (vessel.berth.alone elsewhere).uncounted)
  /-- The local value of a connection, which is in its description, is in its result and in
      all events that were told while it went on. -/
  identity : ∀ vessel ∈ fleet.vessels, ∀ localValue, vessel.localValue? = some localValue →
    (∀ opened, vessel.upshot.result = some (.ok opened) →
      opened.connection.id.server = vessel.berth.server ∧
        opened.connection.id.localValue = localValue) ∧
    ∀ event ∈ vessel.told, event.connection.server = vessel.berth.server ∧
      event.connection.localValue = localValue
  /-- These are all events with that value, and all events are of such a kind. -/
  told : ∃ told, fleet.common.journal.events = start.journal.events ++ told ∧
    (∀ event ∈ told, ∃ place, fleet.localValue? place = some event.connection.localValue) ∧
    ∀ (place : Nat) (vessel : Vessel) (localValue : Nat), fleet.vessels[place]? = some vessel →
      vessel.localValue? = some localValue →
      told.filter (fun event => event.connection.localValue = localValue) = vessel.told
  /-- The connections that have a local value are those that have been made. -/
  launched : ∀ place, (fleet.localValue? place).isSome = true ↔ place ∈ fleet.launched
  /-- The values are given out one after the other. -/
  numbered : ∀ count place, fleet.launched[count]? = some place →
    fleet.localValue? place = some (start.nextLocalValue + count)
  /-- No two connections have the same. -/
  distinct : ∀ (place other localValue : Nat), fleet.localValue? place = some localValue →
    fleet.localValue? other = some localValue → place = other
  /-- One that was made earlier has the smaller one. -/
  increasing : ∀ (earlier later place other localValue localValue' : Nat),
    fleet.launched[earlier]? = some place → fleet.launched[later]? = some other →
    fleet.localValue? place = some localValue → fleet.localValue? other = some localValue' →
    (earlier < later ↔ localValue < localValue')
  /-- They are those of a counter with 64 bits as long as it has not run over. -/
  counted : start.nextLocalValue + fleet.launched.length ≤ 9223372036854775808 →
    ∀ place localValue, fleet.localValue? place = some localValue →
      (Int64.ofNat localValue).toInt = localValue

theorem Sound.isolated {turns : List Nat}
    (h : Sound berths start ((make berths start).run turns)) :
    Isolated berths start turns ((make berths start).run turns) where
  returned place berth hberth := by
    have hown : (((make berths start).run turns).vessels.map Vessel.berth)[place]? =
        some berth := by
      rw [h.berths]
      exact hberth
    rw [List.getElem?_map, Option.map_eq_some_iff] at hown
    rcases hown with ⟨vessel, hplace, rfl⟩
    refine ⟨vessel, hplace, rfl, fun hpatience => ?_⟩
    refine (h.vessels vessel (List.mem_of_getElem? hplace)).returned (Nat.le_zero.mp ?_)
    have hleft := (make berths start).stepsLeft_run turns place
    have hfirst : (make berths start).stepsLeft place = vessel.berth.patience := by
      rw [stepsLeft, make, List.getElem?_map, hberth]
      rfl
    rw [stepsLeft, hplace, hfirst, Nat.sub_eq_zero_of_le hpatience] at hleft
    exact hleft
  alone vessel hvessel elsewhere :=
    ⟨(h.vessels vessel hvessel).sent_isPrefix elsewhere,
      fun hreturned => (h.vessels vessel hvessel).uncounted_eq hreturned elsewhere⟩
  identity vessel hvessel _ hlocalValue := (h.vessels vessel hvessel).identity hlocalValue
  told := h.told
  launched place := by
    refine ⟨h.mem_launched place, fun hmem => ?_⟩
    rcases List.mem_iff_getElem?.mp hmem with ⟨count, hcount⟩
    rw [h.launched count place hcount]
    rfl
  numbered := h.launched
  distinct place other localValue := h.place_eq
  increasing earlier later place other localValue localValue' hearlier hlater hplace hother := by
    rw [h.launched earlier place hearlier] at hplace
    rw [h.launched later other hlater] at hother
    rw [← Option.some.inj hplace, ← Option.some.inj hother]
    exact (Nat.add_lt_add_iff_left).symm
  counted hfew place localValue hplace := by
    rw [← h.next] at hfew
    exact Int64.toInt_ofNat_of_lt (Nat.lt_of_lt_of_le (h.localValue_lt hplace) hfew)

/-- Connections that are opened side by side do not notice each other. Let each have an
    authenticator and a transport of its own, and let no provider make different provers
    for the same mechanism and credential. Then whatever the order of their steps, every
    connection goes as it would alone, but for what was counted; and the local values are
    given out in order, one to each connection, and are found in its result and its events.
    They fit into 64 bits for as many connections as a counter of that size can count.
    To be opened alone is what happens to a connection of a cluster. -/
theorem run_isolated (berths : List Berth)
    (huniform : ∀ berth ∈ berths, berth.setup.authenticator.Uniform) (start : Common)
    (turns : List Nat) :
    Isolated berths start turns ((make berths start).run turns) ∧
    ∀ (access : Access) (context : Context) (purpose : Purpose) (mode : Mode) (server : ServerId),
      (access.openConnection context purpose mode server).1 =
          ((access.berth context purpose mode server).alone access.common).attempt ∧
        (access.openConnection context purpose mode server).2.journal.events.drop
            access.journal.events.length =
          ((access.berth context purpose mode server).alone access.common).told :=
  ⟨((sound_make berths start).run huniform turns).isolated,
    fun access context purpose mode server =>
      access.openConnection_alone context purpose mode server⟩

/-- Two connections with one provider, of which the second is made first. They take turns, and
    in the end both are as they would be alone. -/
theorem run_isolated_in_turn :
    let berth : Berth := {
      server := ⟨.draw 7 none, .localhost⟩
      setup := ({} : Setup).withCredential
        (Script.config { first := .ok [], answers := [] } .scramSha256) none
      listener := some .recording
      transport := .ok (.scripted .localhost [.ok ⟨[("ok", .bool true)]⟩]) }
    let turns := (List.replicate 8 [1, 0]).flatten
    let fleet := (make [berth, berth] {}).run turns
    (∀ own ∈ [berth, berth], own.setup.authenticator.Uniform) ∧
      Isolated [berth, berth] {} turns fleet ∧
      ((make [berth, berth] {}).run [1, 0]).launched = [1, 0] ∧
      ∀ place < 2, ∃ vessel, fleet.vessels[place]? = some vessel ∧
        ∀ elsewhere, vessel.upshot.uncounted = (berth.alone elsewhere).uncounted := by
  intro berth turns fleet
  have huniform : ∀ own ∈ [berth, berth], own.setup.authenticator.Uniform := by
    intro own hown
    have hsame : own = berth := by
      simp only [List.mem_cons, List.not_mem_nil, or_false, or_self] at hown
      exact hown
    rw [hsame]
    exact Script.uniform_provider { first := .ok [], answers := [] }
  have hisolated := (run_isolated [berth, berth] huniform {} turns).1
  refine ⟨huniform, hisolated, rfl, fun place hplace => ?_⟩
  have hfound : [berth, berth][place]? = some berth ∧ berth.patience ≤ turns.count place := by
    rcases place with _ | _ | more
    · exact ⟨rfl, by decide⟩
    · exact ⟨rfl, by decide⟩
    · omega
  rcases hisolated.returned place berth hfound.1 with ⟨vessel, hvessel, hberth, hreturned⟩
  refine ⟨vessel, hvessel, fun elsewhere => ?_⟩
  rw [← hberth]
  exact (hisolated.alone vessel (List.mem_of_getElem? hvessel) elsewhere).2 (hreturned hfound.2)

end Fleet

end DocumentLink
