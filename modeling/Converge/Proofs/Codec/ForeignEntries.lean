import Converge.Proofs.Codec.RoundTrip
import Mathlib.Logic.Relation

/-!
# Entries that no field names are overlooked

`Schema.AddsForeign` adds a single entry to a value, at any depth, in an object that the outline of
the value reads as a record that has no field of that key. A dictionary has no such entries, since
every key of it says something.

A codec overlooks such an entry (`Codec.OverlooksForeign`) when it reads the value with the entry as
it reads the value without it, be it as the same value or as the same error. As in the laws of
reading back, scalars overlook by themselves, and a record does when its fields do and no two of
them share a key. What holds of one entry holds of any number, added or taken away
(`Codec.decode_eq_of_eqvGen`).
-/

namespace Converge

/-- The second value is the first one with one more entry, which no field names. -/
inductive Schema.AddsForeign : Schema → Json → Json → Prop
  /-- The record itself gets the entry. -/
  | entry {form : RecordForm} {fields : List (String × Schema)}
      {before after : List (String × Json)} {key : String} (value : Json)
      (foreign : key ∉ fields.map (·.1)) :
      AddsForeign (.record form fields) (.obj (before ++ after))
        (.obj (before ++ (key, value) :: after))
  /-- The value of a field gets the entry. -/
  | field {form : RecordForm} {fields : List (String × Schema)}
      {before after : List (String × Json)} {key : String} {outline : Schema} {value value' : Json}
      (known : (key, outline) ∈ fields) (inside : AddsForeign outline value value') :
      AddsForeign (.record form fields) (.obj (before ++ (key, value) :: after))
        (.obj (before ++ (key, value') :: after))
  /-- The value of a field gets the entry, in a list that stands for the record. -/
  | element {form : RecordForm} {fields : List (String × Schema)} {before after : List Json}
      {key : String} {outline : Schema} {value value' : Json}
      (known : fields[before.length]? = some (key, outline))
      (inside : AddsForeign outline value value') :
      AddsForeign (.record form fields) (.arr (before ++ value :: after))
        (.arr (before ++ value' :: after))
  /-- An item of a list gets the entry. -/
  | item {outline : Schema} {before after : List Json} {value value' : Json}
      (inside : AddsForeign outline value value') :
      AddsForeign (.list outline) (.arr (before ++ value :: after))
        (.arr (before ++ value' :: after))
  /-- An optional value that is given gets the entry. -/
  | given {outline : Schema} {value value' : Json} (inside : AddsForeign outline value value') :
      AddsForeign (.optional outline) value value'

/-- Only values that are there get entries, and they stay there. -/
theorem Schema.AddsForeign.isNull_eq {outline : Schema} {value value' : Json}
    (adds : outline.AddsForeign value value') : value.isNull = false ∧ value'.isNull = false := by
  induction adds with
  | entry _ _ | field _ _ _ | element _ _ _ | item _ _ => exact ⟨rfl, rfl⟩
  | given _ ih => exact ih

/-- An entry is found under no other key than its own. -/
theorem Json.lookup?_insert_of_ne {before after : List (String × Json)} {key other : String}
    {value : Json} (differ : key ≠ other) :
    lookup? (before ++ (key, value) :: after) other = lookup? (before ++ after) other := by
  simp [lookup?, List.find?_append, differ]

/-- A codec reads a value as it reads the value without an entry that no field names. -/
class Codec.OverlooksForeign {α : Type} (codec : Codec α) : Prop where
  decode_eq : ∀ {value value'}, codec.schema.AddsForeign value value' →
    codec.decode value' = codec.decode value

/-- Each of the fields overlooks foreign entries in its value. -/
class inductive Fields.OverlooksForeign : {α : Type} → Fields α → Prop where
  | done : OverlooksForeign .done
  | field {α β : Type} {first : Field α} {rest : Fields β}
      (overlooks : first.codec.OverlooksForeign) (others : OverlooksForeign rest) :
      OverlooksForeign (.field first rest)

namespace Codec

variable {α : Type}

/-- Entries that no field names may be added and taken away in any number. -/
theorem decode_eq_of_eqvGen (codec : Codec α) [overlooks : codec.OverlooksForeign]
    {value value' : Json} (changed : Relation.EqvGen codec.schema.AddsForeign value value') :
    codec.decode value' = codec.decode value := by
  induction changed with
  | rel _ _ adds => exact overlooks.decode_eq adds
  | refl _ => rfl
  | symm _ _ _ ih => exact ih.symm
  | trans _ _ _ _ _ first second => exact second.trans first

instance : text.OverlooksForeign where
  decode_eq adds := nomatch adds

instance : int32.OverlooksForeign where
  decode_eq adds := nomatch adds

instance : int64.OverlooksForeign where
  decode_eq adds := nomatch adds

instance : dict.OverlooksForeign where
  decode_eq adds := nomatch adds

instance (item : Codec α) [overlooks : item.OverlooksForeign] : item.list.OverlooksForeign where
  decode_eq adds := by
    cases adds with
    | item inside =>
      simp only [list, List.mapM_append, List.mapM_cons, overlooks.decode_eq inside]

instance (inner : Codec α) [overlooks : inner.OverlooksForeign] :
    inner.optional.OverlooksForeign where
  decode_eq adds := by
    cases adds with
    | given inside =>
      obtain ⟨present, present'⟩ := inside.isNull_eq
      rw [inner.optional_decode_of_isNull present, inner.optional_decode_of_isNull present',
        overlooks.decode_eq inside]

end Codec

namespace Field

variable {α : Type} (key : String) (codec : Codec α)

instance [codec.OverlooksForeign] : (required key codec).codec.OverlooksForeign :=
  inferInstanceAs codec.OverlooksForeign

instance (absent : α) [codec.OverlooksForeign] :
    (defaulted key codec absent).codec.OverlooksForeign :=
  inferInstanceAs codec.OverlooksForeign

instance [codec.OverlooksForeign] : (optional key codec).codec.OverlooksForeign :=
  inferInstanceAs codec.optional.OverlooksForeign

instance [codec.OverlooksForeign] : (items key codec).codec.OverlooksForeign :=
  inferInstanceAs codec.list.OverlooksForeign

instance : (entries key).codec.OverlooksForeign :=
  inferInstanceAs Codec.dict.OverlooksForeign

end Field

namespace Fields

variable {α β : Type}

instance : done.OverlooksForeign := .done

instance (first : Field α) (rest : Fields β) [overlooks : first.codec.OverlooksForeign]
    [others : rest.OverlooksForeign] : (field first rest).OverlooksForeign :=
  .field overlooks others

/-- An object is read as a record as if it had no entry that no field names. -/
theorem readObject_foreign (fields : Fields α) {before after : List (String × Json)}
    {key : String} (value : Json) (foreign : key ∉ fields.keys) :
    fields.readObject (before ++ (key, value) :: after) = fields.readObject (before ++ after) := by
  refine readObject_congr fields fun other known => ?_
  have differ : key ≠ other := fun same => foreign (same ▸ known)
  exact Json.lookup?_insert_of_ne differ

/-- An object is read as a record as if the value of a field had no foreign entry. -/
theorem readObject_inside {fields : Fields α} [overlooks : fields.OverlooksForeign]
    (distinct : fields.keys.Nodup) {before after : List (String × Json)} {key : String}
    {outline : Schema} {value value' : Json} (known : (key, outline) ∈ fields.schema)
    (inside : outline.AddsForeign value value') :
    fields.readObject (before ++ (key, value') :: after) =
      fields.readObject (before ++ (key, value) :: after) := by
  induction overlooks with
  | done => cases known
  | @field _ _ first rest overlooks _ ih =>
    obtain ⟨fresh, distinct⟩ := List.nodup_cons.1 distinct
    rcases List.mem_cons.1 known with here | known
    · cases here
      -- The field is the first one: its value is read alike, and the others have other keys.
      have others : rest.readObject (before ++ (first.key, value') :: after) =
          rest.readObject (before ++ (first.key, value) :: after) := by
        rw [readObject_foreign rest value' fresh, readObject_foreign rest value fresh]
      have read : readField first (before ++ (first.key, value') :: after) =
          readField first (before ++ (first.key, value) :: after) := by
        cases earlier : before.find? fun entry => entry.1 == first.key with
        | some entry => simp [readField, Json.lookup?, List.find?_append, earlier]
        | none =>
          simp [readField, Json.lookup?, List.find?_append, earlier, overlooks.decode_eq inside]
      simp only [readObject, read, others]
    · have differ : key ≠ first.key := by
        rintro rfl
        exact fresh (List.mem_map.2 ⟨_, known, rfl⟩)
      have read : readField first (before ++ (key, value') :: after) =
          readField first (before ++ (key, value) :: after) := by
        simp only [readField, Json.lookup?_insert_of_ne differ]
      simp only [readObject, read, ih distinct known]

/-- A list is read as a record as if the value of a field had no foreign entry. -/
theorem readList_inside {fields : Fields α} [overlooks : fields.OverlooksForeign] (index : Nat)
    {before after : List Json} {key : String} {outline : Schema} {value value' : Json}
    (known : fields.schema[before.length]? = some (key, outline))
    (inside : outline.AddsForeign value value') :
    fields.readList index (before ++ value' :: after) =
      fields.readList index (before ++ value :: after) := by
  induction overlooks generalizing index before with
  | done => cases known
  | @field _ _ first rest overlooks _ ih =>
    cases before with
    | nil =>
      cases known
      simp only [List.nil_append, readList, overlooks.decode_eq inside]
    | cons head before =>
      have behind : rest.readList (index + 1) (before ++ value' :: after) =
          rest.readList (index + 1) (before ++ value :: after) := ih (index + 1) known
      simp only [List.cons_append, readList, behind]

/-- A whole list is read so too, since entries do not make it longer. -/
theorem readWhole_inside {fields : Fields α} [fields.OverlooksForeign] {record : String}
    {before after : List Json} {key : String} {outline : Schema} {value value' : Json}
    (known : fields.schema[before.length]? = some (key, outline))
    (inside : outline.AddsForeign value value') :
    fields.readWhole record (before ++ value' :: after) =
      fields.readWhole record (before ++ value :: after) := by
  simp only [readWhole, readList_inside 0 known inside, List.length_append, List.length_cons]

end Fields

/-- A record overlooks foreign entries when its fields do and no two of them have one key. -/
theorem Codec.record_overlooksForeign {α β : Type} {type : String} {fields : Fields α}
    {make : α → β} {parts : β → α} [fields.OverlooksForeign] (distinct : fields.keys.Nodup) :
    (Codec.record type fields make parts).OverlooksForeign where
  decode_eq adds := by
    cases adds with
    | entry value foreign =>
      simp only [record, recordIn, fields.readObject_foreign value foreign]
    | field known inside =>
      simp only [record, recordIn, Fields.readObject_inside distinct known inside]
    | element known inside =>
      simp only [record, recordIn, if_true, Fields.readWhole_inside known inside]

end Converge
