import Converge.Codec.Record

/-!
# Codecs that read back what they write

`Codec.Lawful` says that a codec decodes whatever it encodes to the value that was encoded, and
that it never writes null, which leaves null free to stand for an absent value. Scalars, lists and
dictionaries are lawful by themselves. `Codec.record_lawful` makes a record lawful when its fields
are: each field reads back what it writes, a field that is left out has exactly the value that its
absence stands for, and no two fields share a key. All three laws are classes, so the law of a
record is found along its fields.

An object is only ever looked at under the keys of the fields (`Fields.readObject_congr`), so the
entries of the other fields do not disturb the reading of one.
-/

namespace Converge

/-- An error that is told in other words does not stand in the way of a value. -/
theorem mapError_eq_ok_iff {ε ε' α : Type} {tell : ε → ε'} {result : Except ε α} {value : α} :
    result.mapError tell = .ok value ↔ result = .ok value := by
  constructor
  · intro told
    cases result with
    | error _ => cases told
    | ok _ =>
      cases told
      rfl
  · rintro rfl
    rfl

/-- A codec decodes what it encodes, and what it encodes is not null. -/
class Codec.Lawful {α : Type} (codec : Codec α) : Prop where
  decode_encode : ∀ value, codec.decode (codec.encode value) = .ok value
  encode_isNull : ∀ value, (codec.encode value).isNull = false

/-- A field reads back what it writes, and is left out only where absence stands for its value. -/
class Field.Lawful {α : Type} (field : Field α) : Prop where
  decode_encode : ∀ value, field.isOmitted value = false →
    field.codec.decode (field.codec.encode value) = .ok value
  absent_eq : ∀ value, field.isOmitted value = true → field.absent = some value

/-- Each of the fields is lawful. -/
class inductive Fields.Lawful : {α : Type} → Fields α → Prop where
  | done : Lawful .done
  | field {α β : Type} {first : Field α} {rest : Fields β} (lawful : first.Lawful)
      (others : Lawful rest) : Lawful (.field first rest)

namespace Codec

variable {α : Type}

theorem decode_encode (codec : Codec α) [codec.Lawful] (value : α) :
    codec.decode (codec.encode value) = .ok value :=
  Lawful.decode_encode value

instance : text.Lawful where
  decode_encode _ := rfl
  encode_isNull _ := rfl

instance : bool.Lawful where
  decode_encode _ := rfl
  encode_isNull _ := rfl

/-- Integers are lawful when every value lies between the bounds and is found again from its
number. -/
theorem integer_lawful {type : String} {low high : Int} {toInt : α → Int} {ofInt : Int → α}
    (bounded : ∀ value, low ≤ toInt value ∧ toInt value ≤ high)
    (inverse : ∀ value, ofInt (toInt value) = value) :
    (integer type low high toInt ofInt).Lawful where
  decode_encode value := by simp [integer, bounded value, inverse value]
  encode_isNull _ := rfl

instance : int32.Lawful :=
  integer_lawful (fun value => ⟨value.minValue_le_toInt, value.toInt_le⟩) Int32.ofInt_toInt

instance : int64.Lawful :=
  integer_lawful (fun value => ⟨value.minValue_le_toInt, value.toInt_le⟩) Int64.ofInt_toInt

instance : uint32.Lawful := by
  refine integer_lawful (fun value => ⟨Int.natCast_nonneg _, ?_⟩) fun value => ?_
  · have below := value.toNat_lt_size
    omega
  · simp

private theorem mapM_decode_map_encode (codec : Codec α) [codec.Lawful] (items : List α) :
    (items.map codec.encode).mapM codec.decode = .ok items := by
  induction items with
  | nil => rfl
  | cons item rest ih =>
    rw [List.map_cons, List.mapM_cons, Lawful.decode_encode item, ih]
    rfl

instance (item : Codec α) [item.Lawful] : item.list.Lawful where
  decode_encode items := mapM_decode_map_encode item items
  encode_isNull _ := rfl

/-- A value that is not null is read as the optional value that it is. -/
theorem optional_decode_of_isNull (codec : Codec α) {value : Json} (present : value.isNull = false) :
    codec.optional.decode value = (codec.decode value).map some := by
  cases value with
  | null => cases present
  | bool _ | int _ | float _ | str _ | arr _ | obj _ => rfl

/-- An optional value is read back, since null is written for none alone. -/
theorem optional_decode_encode (codec : Codec α) [codec.Lawful] (value : Option α) :
    codec.optional.decode (codec.optional.encode value) = .ok value := by
  cases value with
  | none => rfl
  | some value =>
    have written : (codec.encode value).isNull = false := Lawful.encode_isNull value
    have read := codec.optional_decode_of_isNull written
    rw [codec.decode_encode value] at read
    exact read

end Codec

namespace Dict

/-- An entry behind all others is inserted at the end. -/
theorem insertEntry_of_forall_lt (key value : String) {entries : List (String × String)}
    (before : ∀ entry ∈ entries, entry.1 < key) :
    insertEntry key value entries = entries ++ [(key, value)] := by
  induction entries with
  | nil => rfl
  | cons head rest ih =>
    have less : head.1 < key := before head List.mem_cons_self
    have differ : key ≠ head.1 := fun same => String.lt_irrefl key (same ▸ less)
    have later : ¬ key < head.1 := fun more => String.lt_irrefl key (String.lt_trans more less)
    have tail := ih fun entry inside => before entry (List.mem_cons_of_mem _ inside)
    simp only [insertEntry, later, differ, if_false, tail, List.cons_append]

/-- Inserting ascending entries one after the other only appends them. -/
theorem entries_foldl_insert (rest : List (String × String)) (dict : Dict)
    (ascending : (dict.entries ++ rest).Pairwise fun a b => a.1 < b.1) :
    (rest.foldl (fun dict entry => dict.insert entry.1 entry.2) dict).entries =
      dict.entries ++ rest := by
  induction rest generalizing dict with
  | nil => simp
  | cons entry rest ih =>
    have before : ∀ other ∈ dict.entries, other.1 < entry.1 := by
      intro other inside
      exact (List.pairwise_append.1 ascending).2.2 other inside entry List.mem_cons_self
    have inserted : (dict.insert entry.1 entry.2).entries = dict.entries ++ [entry] :=
      insertEntry_of_forall_lt entry.1 entry.2 before
    have sorted : ((dict.insert entry.1 entry.2).entries ++ rest).Pairwise
        fun a b => a.1 < b.1 := by
      rw [inserted, List.append_assoc]
      exact ascending
    rw [List.foldl_cons, ih _ sorted, inserted, List.append_assoc, List.singleton_append]

/-- A dictionary is made again of its entries. -/
theorem ofList_entries (dict : Dict) : ofList dict.entries = dict := by
  apply Dict.ext
  have appended := entries_foldl_insert dict.entries empty dict.ascending
  exact appended

end Dict

namespace Codec

private theorem mapM_decode_entries (entries : List (String × String)) :
    (entries.map fun entry => (entry.1, Json.str entry.2)).mapM
      (fun entry => do return (entry.1, ← text.decode entry.2)) =
        (.ok entries : Except DecodeError _) := by
  induction entries with
  | nil => rfl
  | cons entry rest ih =>
    rw [List.map_cons, List.mapM_cons, ih]
    rfl

instance : dict.Lawful where
  decode_encode value := by
    simp only [dict, mapM_decode_entries]
    exact congrArg Except.ok value.ofList_entries
  encode_isNull _ := rfl

end Codec

namespace Field

variable {α : Type} (key : String) (codec : Codec α)

@[simp] theorem key_required : (required key codec).key = key := rfl

@[simp] theorem key_defaulted (absent : α) : (defaulted key codec absent).key = key := rfl

@[simp] theorem key_optional : (optional key codec).key = key := rfl

@[simp] theorem key_items : (items key codec).key = key := rfl

@[simp] theorem key_entries : (entries key).key = key := rfl

instance [codec.Lawful] : (required key codec).Lawful where
  decode_encode value _ := codec.decode_encode value
  absent_eq _ omitted := nomatch omitted

instance (absent : α) [codec.Lawful] : (defaulted key codec absent).Lawful where
  decode_encode value _ := codec.decode_encode value
  absent_eq _ omitted := nomatch omitted

instance [codec.Lawful] : (optional key codec).Lawful where
  decode_encode value _ := codec.optional_decode_encode value
  absent_eq value omitted := by
    cases value with
    | none => rfl
    | some _ => cases omitted

instance [codec.Lawful] : (items key codec).Lawful where
  decode_encode items _ := codec.list.decode_encode items
  absent_eq items omitted := by
    rw [List.isEmpty_iff.1 omitted]
    rfl

instance : (entries key).Lawful where
  decode_encode dict _ := Codec.dict.decode_encode dict
  absent_eq dict omitted := by
    have none : dict.entries = [] := List.isEmpty_iff.1 omitted
    exact congrArg some (Dict.ext none.symm)

end Field

namespace Fields

variable {α β : Type}

/-- The keys of the fields in the order of their declaration. -/
def keys (fields : Fields α) : List String := fields.schema.map (·.1)

@[simp] theorem keys_done : done.keys = [] := rfl

@[simp] theorem keys_field (first : Field α) (rest : Fields β) :
    (field first rest).keys = first.key :: rest.keys := rfl

instance : done.Lawful := .done

instance (first : Field α) (rest : Fields β) [lawful : first.Lawful] [others : rest.Lawful] :
    (field first rest).Lawful :=
  .field lawful others

/-- Reading the fields looks at an object under their keys only. -/
theorem readObject_congr (fields : Fields α) {entries others : List (String × Json)}
    (agree : ∀ key ∈ fields.keys, Json.lookup? entries key = Json.lookup? others key) :
    fields.readObject entries = fields.readObject others := by
  induction fields with
  | done => rfl
  | field first rest ih =>
    have here := agree first.key List.mem_cons_self
    have behind := ih fun key inside => agree key (List.mem_cons_of_mem _ inside)
    simp only [readObject, readField, here, behind]

/-- Only the keys of the fields are written. -/
theorem lookup?_encode_of_not_mem (fields : Fields α) (values : α) {key : String}
    (foreign : key ∉ fields.keys) : Json.lookup? (fields.encode values) key = none := by
  induction fields with
  | done => rfl
  | field first rest ih =>
    obtain ⟨value, values⟩ := values
    have differ : first.key ≠ key := fun same => foreign (same ▸ List.mem_cons_self)
    have tail := ih values fun inside => foreign (List.mem_cons_of_mem _ inside)
    simp only [encode]
    split
    · exact tail
    · simpa [Json.lookup?, differ] using tail

/-- The fields of a record are read back from the object that is written for them. -/
theorem readObject_encode {fields : Fields α} [lawful : fields.Lawful]
    (distinct : fields.keys.Nodup) (values : α) :
    fields.readObject (fields.encode values) = .ok values := by
  induction lawful with
  | done => rfl
  | @field _ _ first rest lawful _ ih =>
    obtain ⟨value, values⟩ := values
    obtain ⟨fresh, distinct⟩ := List.nodup_cons.1 distinct
    simp only [readObject]
    cases omitted : first.isOmitted value with
    | true =>
      have missing := lookup?_encode_of_not_mem rest values fresh
      have read : readField first (rest.encode values) = .ok value := by
        simp only [readField, missing, lawful.absent_eq value omitted]
      simp only [encode, omitted, if_true, read, ih distinct values, both]
    | false =>
      have read : readField first ((first.key, first.codec.encode value) :: rest.encode values) =
          .ok value := by
        have here : Json.lookup? ((first.key, first.codec.encode value) :: rest.encode values)
            first.key = some (first.codec.encode value) := by simp [Json.lookup?]
        simp only [readField, here]
        exact mapError_eq_ok_iff.2 (lawful.decode_encode value omitted)
      have others : rest.readObject
          ((first.key, first.codec.encode value) :: rest.encode values) = .ok values := by
        rw [← ih distinct values]
        refine readObject_congr rest fun key inside => ?_
        have differ : first.key ≠ key := fun same => fresh (same ▸ inside)
        simp [Json.lookup?, differ]
      simp only [encode, omitted, Bool.false_eq_true, if_false, read, others, both]

end Fields

/-- A record is lawful when its fields are, no two of them have one key, and its parts make it
again. -/
theorem Codec.record_lawful {α β : Type} {type : String} {fields : Fields α} {make : α → β}
    {parts : β → α} [fields.Lawful] (distinct : fields.keys.Nodup)
    (inverse : ∀ value, make (parts value) = value) :
    (Codec.record type fields make parts).Lawful where
  decode_encode value := by
    have read : ((fields.readObject (fields.encode (parts value))).mapError Obstacle.toError) =
        .ok (parts value) := mapError_eq_ok_iff.2 (Fields.readObject_encode distinct (parts value))
    simp only [record, recordIn, read]
    exact congrArg Except.ok (inverse value)
  encode_isNull _ := rfl

end Converge
