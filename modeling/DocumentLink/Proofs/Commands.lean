import DocumentLink.Command.Certificate
import DocumentLink.Command.Handshake
import DocumentLink.Command.Prepared
import DocumentLink.Command.Sasl
import DocumentLink.Command.StatusProbe

/-!
# Reading Commands Back

What can be told from a command that has been built and prepared: its name, the
database it goes to, and the fields it was given. Putting fields into a command
leaves its first key alone, and preparing one touches no keys but those of the
database and of the declared interface.

## Theorems

* `Document.name?_insert`: Putting a field leaves the name alone.
* `Command.name?_prepare`, `Command.get?_prepare`, `Command.database_prepare`: What
  preparing keeps, and where the command goes.
* `Sasl.name?_start`, `Sasl.name?_advance`, `Command.name?_certificate`,
  `StatusProbe.name?_command`, `Handshake.name?_command`: The names of commands.
* `Handshake.mechanisms_command`, `Handshake.speculative_command`: What a handshake
  asks for.
-/

namespace DocumentLink

open Json (Value)

namespace Document

/-- Putting a field leaves the name of a command alone: it is first already, or
    something else is. -/
theorem name?_insert {d : Document} {name : String} (h : d.name? = some name) (key : String)
    (value : Value) : (d.insert key value).name? = some name := by
  rw [name?] at h ⊢
  cases hcontains : d.contains key with
  | true => rw [keys_insert_of_contains d value hcontains, h]
  | false =>
      rw [keys_insert_of_not_contains d value hcontains, List.head?_append, h, Option.some_or]

theorem name?_insertSome {d : Document} {name : String} (h : d.name? = some name) (key : String)
    (value : Option Value) : (d.insertSome key value).name? = some name := by
  cases value with
  | none => exact h
  | some value => exact name?_insert h key value

/-- Fields put one after the other leave the name alone. -/
theorem name?_foldl_insert {d : Document} {name : String} (h : d.name? = some name)
    (fields : List (String × Value)) :
    (fields.foldl (fun d field => d.insert field.1 field.2) d).name? = some name := by
  induction fields generalizing d with
  | nil => exact h
  | cons field rest ih => exact ih (name?_insert h field.1 field.2)

theorem get?_insertSome_of_ne (d : Document) {key other : String} (value : Option Value)
    (h : other ≠ key) : (d.insertSome key value).get? other = d.get? other := by
  cases value with
  | none => rfl
  | some value => exact get?_insert_of_ne d value h

/-- A field that is put if there is a value for it. -/
theorem get?_insertSome_self (d : Document) (key : String) (value : Option Value) :
    (d.insertSome key value).get? key = value.or (d.get? key) := by
  cases value with
  | none => rw [Option.none_or]; rfl
  | some value => exact get?_insert_self d key value

/-- Fields put one after the other leave the values of other keys alone. -/
theorem get?_foldl_insert (d : Document) {other : String} (fields : List (String × Value))
    (h : ∀ field ∈ fields, other ≠ field.1) :
    (fields.foldl (fun d field => d.insert field.1 field.2) d).get? other = d.get? other := by
  induction fields generalizing d with
  | nil => rfl
  | cons field rest ih =>
      rw [List.foldl_cons, ih _ fun f hf => h f (List.mem_cons_of_mem _ hf)]
      exact get?_insert_of_ne d field.2 (h field List.mem_cons_self)

theorem get?_command (name key : String) (h : key ≠ name) : (command name).get? key = none := by
  rw [get?, command, List.lookup_cons, beq_false_of_ne h]
  rfl

end Document

namespace ServerApi

/-- The keys under which an interface is declared. -/
def keys : List String :=
  ["apiVersion", "apiStrict", "apiDeprecationErrors"]

/-- A declaration is made under these keys only. -/
theorem mem_keys_of_mem_fields (api : ServerApi) {field : String × Value}
    (h : field ∈ api.fields) : field.1 ∈ keys := by
  simp only [fields, List.mem_append, List.mem_singleton, Option.mem_toList, Option.map_eq_some_iff]
    at h
  rcases h with (rfl | ⟨_, _, rfl⟩) | ⟨_, _, rfl⟩ <;>
    simp only [keys, List.mem_cons, true_or, or_true]

end ServerApi

namespace Command

/-- A prepared command has the name it had. -/
theorem name?_prepare {command : Document} {name : String} (h : command.name? = some name)
    (database : String) (api : Option ServerApi) :
    (prepare command database api).name? = some name := by
  have haddressed := Document.name?_insert h databaseKey (.string database)
  cases api with
  | none => exact haddressed
  | some api => exact Document.name?_foldl_insert haddressed api.fields

/-- Preparing leaves every field alone but the database and the declaration. -/
theorem get?_prepare (command : Document) (database : String) (api : Option ServerApi)
    {key : String} (hdatabase : key ≠ databaseKey) (hkeys : key ∉ ServerApi.keys) :
    (prepare command database api).get? key = command.get? key := by
  have haddressed := Document.get?_insert_of_ne command (.string database) hdatabase
  cases api with
  | none => exact haddressed
  | some api =>
      refine (Document.get?_foldl_insert _ api.fields fun field hfield heq => ?_).trans haddressed
      exact hkeys (heq ▸ api.mem_keys_of_mem_fields hfield)

/-- A prepared command goes to the database it was prepared for. -/
theorem database_prepare (command : Document) (database : String) (api : Option ServerApi) :
    (prepare command database api).string? databaseKey = some database := by
  have haddressed := Document.get?_insert_self command databaseKey (.string database)
  have hget : (prepare command database api).get? databaseKey = some (.string database) := by
    cases api with
    | none => exact haddressed
    | some api =>
        refine (Document.get?_foldl_insert _ api.fields fun field hfield heq => ?_).trans haddressed
        have hmem := api.mem_keys_of_mem_fields hfield
        rw [← heq] at hmem
        exact absurd hmem (by decide)
  rw [Document.string?, hget]
  rfl

theorem name?_certificate (userName : Option String) :
    (certificate userName).name? = some "authenticate" :=
  Document.name?_insertSome (Document.name?_insert rfl _ _) _ _

end Command

namespace Sasl

theorem name?_start (mechanism : Mechanism) (payload : Bytes) (database : Option String) :
    (start mechanism payload database).name? = some "saslStart" :=
  Document.name?_insertSome (Document.name?_insertSome
    (Document.name?_insert (Document.name?_insert rfl _ _) _ _) _ _) _ _

theorem name?_advance (conversation : Value) (payload : Bytes) :
    (advance conversation payload).name? = some "saslContinue" :=
  Document.name?_insert (Document.name?_insert rfl _ _) _ _

/-- The mechanism that the opening of a conversation names. -/
theorem mechanism_start (mechanism : Mechanism) (payload : Bytes) (database : Option String) :
    (start mechanism payload database).get? "mechanism" = some (.string mechanism.name) := by
  rw [start, Document.get?_insertSome_of_ne _ _ (by decide),
    Document.get?_insertSome_of_ne _ _ (by decide), Document.get?_insert_of_ne _ _ (by decide),
    Document.get?_insert_self]

end Sasl

theorem StatusProbe.name?_command : command.name? = some "getlasterror" :=
  rfl

namespace Handshake

theorem name?_command (h : Handshake) : h.command.name? = some h.name :=
  Document.name?_insertSome (Document.name?_insertSome (Document.name?_insertSome
    (Document.name?_insertSome (Document.name?_insertSome rfl _ _) _ _) _ _) _ _) _ _

/-- The name of a handshake is none of the keys of its fields. -/
theorem ne_name_of_ne (h : Handshake) {key : String} (hhello : key ≠ helloName)
    (hlegacy : key ≠ legacyName) : key ≠ h.name := by
  rw [name]
  split
  · exact hhello
  · exact hlegacy

/-- A handshake asks for mechanisms if it was made to. -/
theorem mechanisms_command (h : Handshake) :
    h.command.get? mechanismsKey = h.mechanismsOf.map .string := by
  rw [command, Document.get?_insertSome_of_ne _ _ (by decide), Document.get?_insertSome_self,
    Document.get?_insertSome_of_ne _ _ (by decide), Document.get?_insertSome_of_ne _ _ (by decide),
    Document.get?_insertSome_of_ne _ _ (by decide),
    Document.get?_command _ _ (h.ne_name_of_ne (by decide) (by decide)), Option.or_none]

/-- A handshake carries a step of an authentication if it was given one. -/
theorem speculative_command (h : Handshake) :
    h.command.get? speculativeKey = h.speculative.map .ofDocument := by
  rw [command, Document.get?_insertSome_self, Document.get?_insertSome_of_ne _ _ (by decide),
    Document.get?_insertSome_of_ne _ _ (by decide), Document.get?_insertSome_of_ne _ _ (by decide),
    Document.get?_insertSome_of_ne _ _ (by decide),
    Document.get?_command _ _ (h.ne_name_of_ne (by decide) (by decide)), Option.or_none]

end Handshake

end DocumentLink
