import DocumentLink.Proofs.Telling

/-!
# Prepared Commands

What preparing does to a command, whatever fields the command already has. The database
and the declaration go in as fields put one after the other, and a field either takes
the place of one with its key or comes last. So the keys of a prepared command are those
of the command, in their order, and then the keys that are new. With the value of each
key that is all there is to say of a document, and everything else follows: the command
keeps its name, nothing but the added keys is touched, and to prepare it once more is to
put values in the places of others.

The verdict whether a command may be shown is made on the prepared command. It goes by
the name and by the presence of one key, which is none of those that are added. So it is
the verdict on the command that the caller had in mind. An empty command is the odd one
out: it takes the key of the database for its name, which is no secret either.

## Main definitions

* `Document.without`: A document less the fields under some keys.
* `Document.ChangesAt`: Two documents that differ in the value of one key.
* `ServerApi.Declares`: What is declared, by key.
* `Command.Adds`: What preparing adds, by key.
* `Command.addedKeys`: The keys under which something may be added.
* `Event.shown?`: The document that is shown with an event.
* `Command.Prepared`: What a prepared command consists of.

## Theorems

* `Document.eq_of_get?_eq`: A document is its keys, in order, and their values.
* `Document.keys_foldl_insert`: The keys after fields have been put.
* `Command.get?_prepare_of_adds`, `Command.get?_prepare_of_not_adds`: The value of every
  key of a prepared command.
* `Command.isSensitive_prepare`: The verdict on a prepared command.
* `Command.prepare_keeps_meaning`: A prepared command means what the command did.
-/

namespace DocumentLink

open Json (Value)

namespace Document

/-- The document less the fields under some keys; the others keep their order. -/
def without (d : Document) (keys : List String) : Document :=
  ⟨d.fields.filter fun field => field.1 ∉ keys⟩

/-- A key that has no value is none of the document. -/
theorem get?_eq_none_iff {d : Document} {key : String} : d.get? key = none ↔ key ∉ d.keys := by
  rw [← contains_iff_mem_keys, contains, Bool.not_eq_true, Option.isSome_eq_false_iff,
    Option.isNone_iff_eq_none]

/-- Fields with distinct keys are known by their keys, in order, and the values found under
    them. -/
theorem eq_of_lookup_eq {fields fields' : List (String × Value)}
    (hkeys : fields.map Prod.fst = fields'.map Prod.fst) (hdistinct : (fields.map Prod.fst).Nodup)
    (hlookup : ∀ key, fields.lookup key = fields'.lookup key) : fields = fields' := by
  induction fields generalizing fields' with
  | nil => exact (List.map_eq_nil_iff.mp hkeys.symm).symm
  | cons field rest ih =>
      obtain ⟨k, v⟩ := field
      cases fields' with
      | nil => cases hkeys
      | cons field' rest' =>
          obtain ⟨k', v'⟩ := field'
          rw [List.map_cons, List.map_cons, List.cons.injEq] at hkeys
          obtain ⟨rfl, hkeys⟩ := hkeys
          rw [List.map_cons, List.nodup_cons] at hdistinct
          have hvalue := hlookup k
          simp only [List.lookup_cons, beq_self_eq_true, Option.some.injEq] at hvalue
          -- The first key is not among the others, where it has no value on either side.
          have hrest : ∀ key, rest.lookup key = rest'.lookup key := by
            intro key
            by_cases hkey : key = k
            · subst hkey
              have hnone : (⟨rest⟩ : Document).get? key = none :=
                get?_eq_none_iff.mpr hdistinct.1
              have hnone' : (⟨rest'⟩ : Document).get? key = none :=
                get?_eq_none_iff.mpr fun hmem => hdistinct.1 (hkeys ▸ hmem)
              exact hnone.trans hnone'.symm
            · have hother := hlookup key
              simpa only [List.lookup_cons, beq_false_of_ne hkey] using hother
          rw [hvalue, ih hkeys hdistinct.2 hrest]

/-- A document is its keys, in order, and their values. -/
theorem eq_of_get?_eq {d : Keyed} {d' : Document} (hkeys : d.keys = d'.keys)
    (hget : ∀ key, d.get? key = d'.get? key) : d = d' := by
  obtain ⟨⟨fields⟩, hdistinct⟩ := d
  obtain ⟨fields'⟩ := d'
  exact congrArg mk (eq_of_lookup_eq hkeys hdistinct hget)

theorem name?_eq_none_iff {d : Document} : d.name? = none ↔ d = .empty := by
  obtain ⟨fields⟩ := d
  rw [name?, List.head?_eq_none_iff, keys, List.map_eq_nil_iff, empty, mk.injEq]

/-- One document is the other with the value of one key changed. -/
structure ChangesAt (d d' : Document) (key : String) (value : Value) : Prop where
  keys : d'.keys = d.keys
  value : d'.get? key = some value
  others : ∀ other, other ≠ key → d'.get? other = d.get? other

/-- A value that is changed into what it is. -/
theorem ChangesAt.eq {d : Keyed} {d' : Document} {key : String} {value : Value}
    (h : ChangesAt d d' key value) (hvalue : d.get? key = some value) : d' = d := by
  refine (eq_of_get?_eq h.keys.symm fun other => ?_).symm
  by_cases hkey : other = key
  · rw [hkey, h.value, hvalue]
  · exact (h.others other hkey).symm

/-- What is put under one of some keys makes no difference to what is under the others. -/
theorem without_insert {keys : List String} {key : String} (h : key ∈ keys) (d : Document)
    (value : Value) : (d.insert key value).without keys = d.without keys := by
  obtain ⟨fields⟩ := d
  simp only [insert, without, mk.injEq]
  induction fields with
  | nil => simp only [insertField, List.filter_cons, h, not_true_eq_false, decide_false,
      Bool.false_eq_true, if_false]
  | cons field rest ih =>
      obtain ⟨k, v⟩ := field
      by_cases hkey : k = key
      · subst hkey
        simp only [insertField, if_true, List.filter_cons, h, not_true_eq_false, decide_false,
          Bool.false_eq_true, if_false]
      · simp only [insertField, hkey, if_false, List.filter_cons, ih]

section Putting

variable (d : Document) (fields : List (String × Value))

/-- Fields put one after the other make no difference to what is under other keys. -/
theorem without_foldl_insert {keys : List String} (h : ∀ field ∈ fields, field.1 ∈ keys) :
    (fields.foldl (fun d field => d.insert field.1 field.2) d).without keys = d.without keys := by
  induction fields generalizing d with
  | nil => rfl
  | cons field rest ih =>
      rw [List.foldl_cons, ih _ fun f hf => h f (List.mem_cons_of_mem _ hf),
        without_insert (h field List.mem_cons_self)]

/-- Fields with distinct keys that are put one after the other are all found. -/
theorem get?_foldl_insert_of_mem {key : String} {value : Value}
    (hdistinct : (fields.map Prod.fst).Nodup) (h : (key, value) ∈ fields) :
    (fields.foldl (fun d field => d.insert field.1 field.2) d).get? key = some value := by
  induction fields generalizing d with
  | nil => cases h
  | cons field rest ih =>
      rw [List.map_cons, List.nodup_cons] at hdistinct
      rcases List.mem_cons.mp h with rfl | hrest
      · -- Nothing that is put later has this key.
        rw [List.foldl_cons, get?_foldl_insert _ rest fun f hf heq =>
          hdistinct.1 (List.mem_map.mpr ⟨f, hf, heq.symm⟩)]
        exact get?_insert_self d key value
      · exact ih _ hdistinct.2 hrest

/-- The keys after fields have been put: those that were there, and the new ones. -/
theorem keys_foldl_insert (hdistinct : (fields.map Prod.fst).Nodup) :
    (fields.foldl (fun d field => d.insert field.1 field.2) d).keys =
      d.keys ++ (fields.map Prod.fst).filter fun key => key ∉ d.keys := by
  induction fields generalizing d with
  | nil => exact (List.append_nil _).symm
  | cons field rest ih =>
      obtain ⟨key, value⟩ := field
      rw [List.map_cons, List.nodup_cons] at hdistinct
      rw [List.foldl_cons, ih _ hdistinct.2, List.map_cons, List.filter_cons]
      by_cases hkey : key ∈ d.keys
      · rw [keys_insert_of_contains d value (contains_iff_mem_keys.mpr hkey),
          if_neg (by simpa using hkey)]
      · have hnew : d.contains key = false := by
          rw [← Bool.not_eq_true, contains_iff_mem_keys]
          exact hkey
        -- The key that was put first is none of the rest, so it makes no difference to them.
        have hrest : (rest.map Prod.fst).filter (fun other => other ∉ d.keys ++ [key]) =
            (rest.map Prod.fst).filter fun other => other ∉ d.keys := by
          refine List.filter_congr fun other hother => ?_
          have hne : other ≠ key := fun heq => hdistinct.1 (heq ▸ hother)
          simp only [List.mem_append, List.mem_singleton, hne, or_false]
        rw [keys_insert_of_not_contains d value hnew, hrest, if_pos (by simpa using hkey),
          List.append_assoc, List.singleton_append]

end Putting

end Document

/-- What an interface declares, by key: always its version, and the two options only if they
    have been set. -/
inductive ServerApi.Declares (api : ServerApi) : String → Value → Prop where
  | version : Declares api "apiVersion" (.string api.version.text)
  | strict {b : Bool} (h : api.strict = some b) : Declares api "apiStrict" (.bool b)
  | deprecationErrors {b : Bool} (h : api.deprecationErrors = some b) :
      Declares api "apiDeprecationErrors" (.bool b)

theorem ServerApi.mem_fields_iff {api : ServerApi} {key : String} {value : Value} :
    (key, value) ∈ api.fields ↔ api.Declares key value := by
  simp only [fields, List.mem_append, List.mem_singleton, Option.mem_toList,
    Option.map_eq_some_iff, Prod.mk.injEq]
  constructor
  · rintro ((⟨rfl, rfl⟩ | ⟨b, hb, rfl, rfl⟩) | ⟨b, hb, rfl, rfl⟩)
    · exact .version
    · exact .strict hb
    · exact .deprecationErrors hb
  · rintro (_ | hb | hb)
    · exact .inl (.inl ⟨rfl, rfl⟩)
    · exact .inl (.inr ⟨_, hb, rfl, rfl⟩)
    · exact .inr ⟨_, hb, rfl, rfl⟩

namespace Command

/-- What preparing adds to a command, by key: the database, and what is declared. -/
inductive Adds (database : String) (api : Option ServerApi) : String → Value → Prop where
  | database : Adds database api databaseKey (.string database)
  | declared {own : ServerApi} {key : String} {value : Value} (hown : api = some own)
      (h : own.Declares key value) : Adds database api key value

/-- The keys under which something may be added. -/
def addedKeys : List String :=
  databaseKey :: ServerApi.keys

/-- The fields that are added, in order. -/
def additions (database : String) (api : Option ServerApi) : List (String × Value) :=
  (databaseKey, .string database) :: api.elim [] ServerApi.fields

variable {command : Document} {database : String} {api : Option ServerApi}

theorem mem_additions_iff {key : String} {value : Value} :
    (key, value) ∈ additions database api ↔ Adds database api key value := by
  rw [additions, List.mem_cons, Prod.mk.injEq]
  constructor
  · rintro (⟨rfl, rfl⟩ | hdeclared)
    · exact .database
    · cases api with
      | none => cases hdeclared
      | some own => exact .declared rfl (ServerApi.mem_fields_iff.mp hdeclared)
  · rintro (_ | ⟨rfl, hdeclares⟩)
    · exact .inl ⟨rfl, rfl⟩
    · exact .inr (ServerApi.mem_fields_iff.mpr hdeclares)

theorem nodup_keys_additions : ((additions database api).map Prod.fst).Nodup := by
  rcases api with _ | ⟨version, _ | strict, _ | deprecationErrors⟩ <;>
    simp [additions, ServerApi.fields, databaseKey]

theorem mem_addedKeys {field : String × Value} (h : field ∈ additions database api) :
    field.1 ∈ addedKeys := by
  rw [additions, List.mem_cons] at h
  rcases h with rfl | hdeclared
  · exact List.mem_cons_self
  · cases api with
    | none => cases hdeclared
    | some own => exact List.mem_cons_of_mem _ (own.mem_keys_of_mem_fields hdeclared)

/-- To prepare a command is to put these fields into it, one after the other. -/
theorem prepare_eq_foldl : prepare command database api =
    (additions database api).foldl (fun d field => d.insert field.1 field.2) command := by
  cases api <;> rfl

/-- What is added is found in a prepared command. -/
theorem get?_prepare_of_adds {key : String} {value : Value} (h : Adds database api key value) :
    (prepare command database api).get? key = some value := by
  rw [prepare_eq_foldl]
  exact Document.get?_foldl_insert_of_mem command _ nodup_keys_additions (mem_additions_iff.mpr h)

/-- Under any other key is what was there. -/
theorem get?_prepare_of_not_adds {key : String} (h : ∀ value, ¬Adds database api key value) :
    (prepare command database api).get? key = command.get? key := by
  rw [prepare_eq_foldl]
  refine Document.get?_foldl_insert command _ fun field hfield heq => ?_
  exact h field.2 (mem_additions_iff.mp (heq ▸ hfield))

theorem keys_prepare : (prepare command database api).keys =
    command.keys ++
      ((additions database api).map Prod.fst).filter fun key => key ∉ command.keys := by
  rw [prepare_eq_foldl, Document.keys_foldl_insert command _ nodup_keys_additions]

/-- A prepared command has distinct keys. -/
theorem distinct_prepare (command : Document.Keyed) :
    (prepare command database api).keys.Nodup := by
  rw [prepare_eq_foldl, ← command.toDocument_insertAll]
  exact (command.insertAll _).distinct

/-- The keys that are added do not depend on the database. -/
theorem keys_additions (database other : String) (api : Option ServerApi) :
    (additions other api).map Prod.fst = (additions database api).map Prod.fst :=
  rfl

/-- To prepare a command once more adds no keys. -/
theorem keys_prepare_prepare (other : String) :
    (prepare (prepare command database api) other api).keys =
      (prepare command database api).keys := by
  rw [keys_prepare, keys_additions database other, List.append_right_eq_self,
    List.filter_eq_nil_iff]
  intro key hkey
  have hthere : key ∈ (prepare command database api).keys := by
    rw [keys_prepare, List.mem_append, List.mem_filter, decide_eq_true_eq]
    exact or_iff_not_imp_left.mpr fun hnew => ⟨hkey, hnew⟩
  simpa using hthere

/-- To prepare a command once more leaves every value but the database. -/
theorem get?_prepare_prepare (other : String) {key : String} (h : key ≠ databaseKey) :
    (prepare (prepare command database api) other api).get? key =
      (prepare command database api).get? key := by
  by_cases hadds : ∃ value, Adds other api key value
  · obtain ⟨value, hvalue⟩ := hadds
    cases hvalue with
    | database => exact absurd rfl h
    | declared hown hdeclares =>
        rw [get?_prepare_of_adds (.declared hown hdeclares),
          get?_prepare_of_adds (.declared hown hdeclares)]
  · exact get?_prepare_of_not_adds fun value hvalue => hadds ⟨value, hvalue⟩

/-- To prepare a command once more, for another database, changes the database alone. -/
theorem changesAt_prepare (other : String) :
    (prepare command database api).ChangesAt (prepare (prepare command database api) other api)
      databaseKey (.string other) where
  keys := keys_prepare_prepare other
  value := get?_prepare_of_adds .database
  others _ := get?_prepare_prepare other

/-- The verdict on a prepared command is that on the command. -/
theorem isSensitive_prepare (command : Document) (database : String) (api : Option ServerApi) :
    isSensitive (prepare command database api) = isSensitive command := by
  cases hname : command.name? with
  | some name =>
      have hstep : (prepare command database api).contains Handshake.speculativeKey =
          command.contains Handshake.speculativeKey :=
        congrArg Option.isSome (get?_prepare command database api (by decide) (by decide))
      rw [isSensitive, isSensitive, name?_prepare hname, hname, hstep]
  | none =>
      -- What is added first becomes the name, and that is no name of a command.
      have haddressed :
          (command.insert databaseKey (.string database)).name? = some databaseKey := by
        rw [Document.name?_eq_none_iff.mp hname]
        rfl
      have hprepared : (prepare command database api).name? = some databaseKey := by
        rw [prepare_eq_foldl]
        exact Document.name?_foldl_insert haddressed _
      rw [isSensitive, isSensitive, hprepared, hname]
      have hhandshake : Handshake.isName databaseKey = false := by decide
      have hlisted : (sensitiveNames.any fun sensitive =>
          Handshake.foldCase sensitive = Handshake.foldCase databaseKey) = false := by decide
      simp only [hhandshake, hlisted, Bool.false_eq_true, if_false]

end Command

/-- The document that is shown with an event, if one is. -/
def Event.shown? : Event → Option Document
  | started _ _ _ _ command => some command
  | succeeded _ _ _ reply => some reply
  | failed .. => none

/-- What is shown of an exchange: the command and the reply, by the verdict on the command. -/
theorem Line.shown_told (line : Line) (command : Document) (answer : Answer) :
    (line.told command answer).map Event.shown? =
      [some (Command.redact command (Command.isSensitive command)),
        answer.toOption.map (Command.redact · (Command.isSensitive command))] := by
  cases answer <;> rfl

/-- What is shown of a command that is executed and of the reply to it, by the verdict on the
    command before it was prepared. -/
theorem Mode.shown_execute (mode : Mode) (line : Line) (database : String) (command : Document)
    (api : Option ServerApi) :
    (mode.execute line.watched database command api).2.journal.events.map Event.shown? =
      line.journal.events.map Event.shown? ++
        [some (Command.redact (Command.prepare command database api)
          (Command.isSensitive command)),
        line.connection.transport.take.1.toOption.map
          (Command.redact · (Command.isSensitive command))] := by
  rw [execute_eq]
  show (Blocking.exchange line.watched _).2.journal.events.map Event.shown? = _
  rw [(line.watched.journal_exchange _).1,
    show line.watched.connection.listener = some .recording from rfl, if_pos rfl, List.map_append,
    Line.shown_told, Command.isSensitive_prepare]
  rfl

namespace Command

/-- What a prepared command consists of. -/
structure Prepared (command : Document) (database : String) (api : Option ServerApi)
    (prepared : Document) : Prop where
  /-- It has the name of the command. -/
  name : command ≠ .empty → prepared.name? = command.name?
  /-- All that is under other keys is there, in its order. -/
  others : prepared.without addedKeys = command.without addedKeys
  /-- What is added stands under its key, whatever was there. -/
  added : ∀ key value, Adds database api key value → prepared.get? key = some value
  /-- A key under which nothing is added is as it was, and is not there if it was not. -/
  kept : ∀ key, (∀ value, ¬Adds database api key value) →
    prepared.get? key = command.get? key
  /-- No key is there twice. -/
  distinct : prepared.keys.Nodup

/-- A prepared command means what the command did. It has its name and its fields, in their
    order, and besides them the database and what is declared, and nothing else. To prepare it
    once more changes nothing, and for another database only the database. What a listener is
    shown of it and of the reply is decided as for the command itself. -/
theorem prepare_keeps_meaning (command : Document.Keyed) (database : String)
    (api : Option ServerApi) :
    Prepared command database api (prepare command database api) ∧
      prepare (prepare command database api) database api = prepare command database api ∧
      (∀ other, (prepare command database api).ChangesAt
        (prepare (prepare command database api) other api) databaseKey (.string other)) ∧
      isSensitive (prepare command database api) = isSensitive command ∧
      ∀ (mode : Mode) (line : Line),
        (mode.execute line.watched database command api).2.journal.events.map Event.shown? =
          line.journal.events.map Event.shown? ++
            [some (redact (prepare command database api) (isSensitive command)),
            line.connection.transport.take.1.toOption.map (redact · (isSensitive command))] := by
  refine ⟨⟨fun hnonempty => ?_, ?_, fun key value => get?_prepare_of_adds,
    fun key => get?_prepare_of_not_adds, distinct_prepare command⟩, ?_, changesAt_prepare,
    isSensitive_prepare command database api,
    fun mode line => mode.shown_execute line database command api⟩
  · cases hname : command.name? with
    | none => exact absurd (Document.name?_eq_none_iff.mp hname) hnonempty
    | some name => exact name?_prepare hname database api
  · rw [prepare_eq_foldl]
    exact Document.without_foldl_insert _ _ fun field => mem_addedKeys
  · exact Document.ChangesAt.eq (d := ⟨prepare command database api, distinct_prepare command⟩)
      (changesAt_prepare database) (get?_prepare_of_adds .database)

/-- A command that has the fields already, of another database and another interface. They keep
    their places, and what is not declared keeps its value. -/
theorem prepare_keeps_meaning_again :
    let command := Document.Keyed.ofFields [("ping", .number 1), ("apiStrict", .bool true),
      ("$db", .string "local"), ("comment", .null), ("apiVersion", .string "2")]
    let api : Option ServerApi := some { version := .one, deprecationErrors := some true }
    let prepared : Document := ⟨[("ping", .number 1), ("apiStrict", .bool true),
      ("$db", .string "admin"), ("comment", .null), ("apiVersion", .string "1"),
      ("apiDeprecationErrors", .bool true)]⟩
    Prepared command "admin" api prepared ∧ prepare prepared "admin" api = prepared := by
  intro command api prepared
  have hprepared := prepare_keeps_meaning command "admin" api
  exact ⟨hprepared.1, hprepared.2.1⟩

end Command

end DocumentLink
