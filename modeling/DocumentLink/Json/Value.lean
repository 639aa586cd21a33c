import DocumentLink.Json.Number

/-!
# Documents

The values exchanged with a server, and the ordered documents they make up.

Order carries meaning: the first key of a command is its name. So a document is
a list of fields, and putting a field has two effects that must not be confused.
A new key goes to the end; a key that is already there keeps its place and only
its value changes.

A document nested inside a value is a bare list of fields, because the type of
values has to be built before the type of documents. `Value.ofDocument` and
`Value.document?` go between the two.

## Main definitions

* `Json.Value`: Any value.
* `Document`: The fields of an object, in order.
* `Document.get?`: The value of a key.
* `Document.insert`: Replace a value in place, or append a field.
* `Document.remove`: Take a field out.
* `Document.Keyed`: A document with distinct keys.

## Theorems

* `Document.get?_insert_self`, `Document.get?_insert_of_ne`: What is put under a
  key is found there, and nowhere else.
* `Document.keys_insert_of_contains`, `Document.keys_insert_of_not_contains`: A key
  keeps its place, and a new one goes to the end.
* `Document.remove_last`: A document that loses its last field keeps its order.
-/

namespace DocumentLink

namespace Json

/-- A value of a document. -/
inductive Value where
  | null
  | bool (b : Bool)
  | number (n : Number)
  | string (s : String)
  | array (items : List Value)
  | object (fields : List (String × Value))
  deriving Repr

namespace Value

instance : Inhabited Value := ⟨.null⟩

/-- A whole number, as a value. -/
def ofInt (n : Int) : Value :=
  .number (.ofInt n)

/-- A list of texts, as a value. -/
def ofTexts (texts : List String) : Value :=
  .array (texts.map .string)

/-- The text, if the value is one. -/
def text? : Value → Option String
  | string s => some s
  | _ => none

/-- The items, if the value is an array. -/
def items? : Value → Option (List Value)
  | array items => some items
  | _ => none

end Value

end Json

open Json (Value)

/-- A document: fields in order. -/
structure Document where
  fields : List (String × Value)
  deriving Repr

namespace Document

/-- The document without fields. -/
def empty : Document :=
  ⟨[]⟩

instance : Inhabited Document := ⟨empty⟩

/-- Put a field among others. -/
def insertField (key : String) (value : Value) : List (String × Value) → List (String × Value)
  | [] => [(key, value)]
  | (k, v) :: rest =>
    if k = key then (k, value) :: rest else (k, v) :: insertField key value rest

/-- Put a field: in the place of one with the same key, else at the end. -/
def insert (d : Document) (key : String) (value : Value) : Document :=
  ⟨insertField key value d.fields⟩

/-- The value of a key. -/
def get? (d : Document) (key : String) : Option Value :=
  d.fields.lookup key

/-- The keys, in order. -/
def keys (d : Document) : List String :=
  d.fields.map Prod.fst

/-- Whether there is a field with the key, whatever its value. -/
def contains (d : Document) (key : String) : Bool :=
  (d.get? key).isSome

/-- What is put under a key is found there. -/
theorem get?_insert_self (d : Document) (key : String) (value : Value) :
    (d.insert key value).get? key = some value := by
  obtain ⟨fields⟩ := d
  simp only [get?, insert]
  induction fields with
  | nil => simp only [insertField, List.lookup_cons, beq_self_eq_true]
  | cons field rest ih =>
      obtain ⟨k, v⟩ := field
      by_cases hkey : k = key
      · simp only [insertField, hkey, if_true, List.lookup_cons, beq_self_eq_true]
      · have hother : (key == k) = false := beq_false_of_ne (Ne.symm hkey)
        simp only [insertField, hkey, if_false, List.lookup_cons, hother]
        exact ih

/-- Putting a field leaves the values of other keys alone. -/
theorem get?_insert_of_ne (d : Document) {key other : String} (value : Value)
    (h : other ≠ key) : (d.insert key value).get? other = d.get? other := by
  obtain ⟨fields⟩ := d
  simp only [get?, insert]
  induction fields with
  | nil => simp only [insertField, List.lookup_cons, List.lookup_nil, beq_false_of_ne h]
  | cons field rest ih =>
      obtain ⟨k, v⟩ := field
      by_cases hkey : k = key
      · subst hkey
        simp only [insertField, if_true, List.lookup_cons, beq_false_of_ne h]
      · simp only [insertField, hkey, if_false, List.lookup_cons]
        rw [ih]

/-- A key that is there keeps its place. -/
theorem keys_insert_of_contains (d : Document) {key : String} (value : Value)
    (h : d.contains key = true) : (d.insert key value).keys = d.keys := by
  obtain ⟨fields⟩ := d
  simp only [contains, get?, keys, insert] at h ⊢
  induction fields with
  | nil => exact absurd h (by simp only [List.lookup_nil, Option.isSome_none, Bool.false_eq_true,
      not_false_eq_true])
  | cons field rest ih =>
      obtain ⟨k, v⟩ := field
      by_cases hkey : k = key
      · simp only [insertField, hkey, if_true, List.map_cons]
      · have hother : (key == k) = false := beq_false_of_ne (Ne.symm hkey)
        simp only [List.lookup_cons, hother] at h
        simp only [insertField, hkey, if_false, List.map_cons, ih h]

/-- A key that is not there goes to the end. -/
theorem keys_insert_of_not_contains (d : Document) {key : String} (value : Value)
    (h : d.contains key = false) : (d.insert key value).keys = d.keys ++ [key] := by
  obtain ⟨fields⟩ := d
  simp only [contains, get?, keys, insert] at h ⊢
  induction fields with
  | nil => rfl
  | cons field rest ih =>
      obtain ⟨k, v⟩ := field
      by_cases hkey : k = key
      · subst hkey
        exact absurd h (by simp only [List.lookup_cons, beq_self_eq_true, Option.isSome_some,
          Bool.true_eq_false, not_false_eq_true])
      · have hother : (key == k) = false := beq_false_of_ne (Ne.symm hkey)
        simp only [List.lookup_cons, hother] at h
        simp only [insertField, hkey, if_false, List.map_cons, List.cons_append, ih h]

/-- Put a field if there is a value for it. -/
def insertSome (d : Document) (key : String) : Option Value → Document
  | some value => d.insert key value
  | none => d

/-- Take a field out. The last field comes to stand in its place. -/
def remove (d : Document) (key : String) : Document :=
  match d.fields.findIdx? fun field => field.1 = key, d.fields.getLast? with
  | some place, some last => ⟨(d.fields.set place last).dropLast⟩
  | _, _ => d

/-- A document that loses its last field keeps its order. -/
theorem remove_last {fields : List (String × Value)} {key : String} (value : Value)
    (h : key ∉ fields.map Prod.fst) : remove ⟨fields ++ [(key, value)]⟩ key = ⟨fields⟩ := by
  have hnone : fields.findIdx? (fun field => decide (field.1 = key)) = none := by
    rw [List.findIdx?_eq_none_iff]
    intro field hfield
    rw [decide_eq_false_iff_not]
    rintro rfl
    exact h (List.mem_map_of_mem hfield)
  rw [remove, List.getLast?_concat, List.findIdx?_append, hnone]
  simp only [List.findIdx?_singleton, decide_true, if_true, Option.map_some, Option.none_or,
    Nat.zero_add, List.set_append_right _ _ (Nat.le_refl _), Nat.sub_self, List.set_cons_zero,
    List.dropLast_concat]

/-- The document made by putting fields one after the other. -/
def ofFields (fields : List (String × Value)) : Document :=
  fields.foldl (fun d field => d.insert field.1 field.2) empty

theorem contains_iff_mem_keys {d : Document} {key : String} :
    d.contains key = true ↔ key ∈ d.keys := by
  rw [← Decidable.not_iff_not, Bool.not_eq_true, contains, Option.isSome_eq_false_iff,
    Option.isNone_iff_eq_none, get?, List.lookup_eq_none_iff, keys, List.mem_map]
  simp only [bne_iff_ne, ne_eq, not_exists, not_and, eq_comm (a := key)]

/-- A document as maps are: no key is there twice. -/
structure Keyed extends Document where
  distinct : toDocument.keys.Nodup

namespace Keyed

instance : Coe Keyed Document :=
  ⟨toDocument⟩

def empty : Keyed :=
  ⟨Document.empty, List.nodup_nil⟩

/-- Distinct keys stay distinct when a field is put. -/
def insert (d : Keyed) (key : String) (value : Value) : Keyed where
  toDocument := d.toDocument.insert key value
  distinct := by
    cases hcontains : d.contains key with
    | true =>
        rw [keys_insert_of_contains d.toDocument value hcontains]
        exact d.distinct
    | false =>
        rw [keys_insert_of_not_contains d.toDocument value hcontains, List.nodup_append]
        refine ⟨d.distinct, List.pairwise_singleton _ _, fun other hother new hnew => ?_⟩
        rw [List.mem_singleton.mp hnew]
        rintro rfl
        rw [contains_iff_mem_keys.mpr hother] at hcontains
        cases hcontains

/-- The document with fields put one after the other. -/
def insertAll (d : Keyed) (fields : List (String × Value)) : Keyed :=
  fields.foldl (fun d field => d.insert field.1 field.2) d

theorem toDocument_insertAll (d : Keyed) (fields : List (String × Value)) :
    (d.insertAll fields).toDocument =
      fields.foldl (fun d field => d.insert field.1 field.2) d.toDocument := by
  induction fields generalizing d with
  | nil => rfl
  | cons field rest ih => exact ih (d.insert field.1 field.2)

/-- The document made by putting fields one after the other has distinct keys. -/
def ofFields (fields : List (String × Value)) : Keyed :=
  empty.insertAll fields

end Keyed

/-- The name of a command: its first key. -/
def name? (d : Document) : Option String :=
  d.keys.head?

/-- A document that begins as commands do, with its name and the number one. -/
def command (name : String) : Document :=
  ⟨[(name, .number 1)]⟩

end Document

/-- A document, as a value. -/
def Json.Value.ofDocument (d : Document) : Value :=
  .object d.fields

/-- The document, if the value is one. -/
def Json.Value.document? : Value → Option Document
  | .object fields => some ⟨fields⟩
  | _ => none

end DocumentLink
