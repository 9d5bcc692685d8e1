/-
Module: SakalaAgent.Protocol.Record
Layer: Protocol (library)
Purpose: Records as derived serializers and deserializers write and read them. An object is read
  entry by entry, with what has been read of each field so far; names that are no field's are passed
  over, and a field without an entry may have a default. An array is read by the places of the fields.
Trusted boundary: the texts of the errors are left out.
Main exports: Field, Layout, Layout.read, Layout.Represents, Layout.read_iff, Layout.codec
-/
import SakalaAgent.Protocol.Codec

namespace SakalaAgent

/-! ### Fields -/

/-- A field of a record: what it is where an object has no entry for it or an array ends before it,
and which of its values are left out when they are written. -/
structure Field (α : Type) where
  name : String
  codec : Codec α
  absent : Option α
  short : Option α
  skips : α → Bool
  valid_absent : ∀ value, absent = some value → codec.Valid value
  valid_short : ∀ value, short = some value → codec.Valid value
  absent_of_skips : ∀ value, skips value = true → absent = some value

namespace Field

variable {α : Type}

def required (name : String) (codec : Codec α) : Field α where
  name := name
  codec := codec
  absent := none
  short := none
  skips _ := false
  valid_absent _ same := by cases same
  valid_short _ same := by cases same
  absent_of_skips _ same := by cases same

/-- A field of an optional type: none where an object has no entry for it. -/
def optional (name : String) (codec : Codec α) (solid : codec.Solid) : Field (Option α) where
  name := name
  codec := codec.option solid
  absent := some none
  short := none
  skips _ := false
  valid_absent _ same _ some := by
    cases same
    cases some
  valid_short _ same := by cases same
  absent_of_skips _ same := by cases same

/-- A field with a default. -/
def defaulted (name : String) (codec : Codec α) (default : α) (valid : codec.Valid default) :
    Field α where
  name := name
  codec := codec
  absent := some default
  short := some default
  skips _ := false
  valid_absent _ same := Option.some.inj same ▸ valid
  valid_short _ same := Option.some.inj same ▸ valid
  absent_of_skips _ same := by cases same

/-- A field with a default that is left out where it has it. -/
def omitted (name : String) (codec : Codec α) (default : α) (valid : codec.Valid default)
    (skips : α → Bool) (isDefault : ∀ value, skips value = true → default = value) : Field α where
  name := name
  codec := codec
  absent := some default
  short := some default
  skips := skips
  valid_absent _ same := Option.some.inj same ▸ valid
  valid_short _ same := Option.some.inj same ▸ valid
  absent_of_skips value same := congrArg some (isDefault value same)

/-- What the entries under the name of a field make of it: one has to represent its value, or there
is none and the value is the default. -/
inductive Represents (field : Field α) (value : α) : List Json → Prop
  | absent (default : field.absent = some value) : Represents field value []
  | present {json : Json} (represents : field.codec.Represents value json) :
      Represents field value [json]

theorem Represents.valid {field : Field α} {value : α} {entries : List Json}
    (represents : field.Represents value entries) : field.codec.Valid value := by
  cases represents with
  | absent default => exact field.valid_absent value default
  | present represents => exact field.codec.valid_of_represents value _ represents

/-- The entry of a field, unless it is left out. -/
def entry (field : Field α) (value : α) : Option Json :=
  if field.skips value then none else some (field.codec.encode value)

theorem represents_entry {field : Field α} {value : α} (valid : field.codec.Valid value) :
    field.Represents value (field.entry value).toList := by
  rw [entry]
  split
  · rename_i skipped
    exact .absent (field.absent_of_skips value skipped)
  · exact .present (field.codec.represents_encode value valid)

/-- What has been read of a field, after the given entries under its name. -/
inductive Slot (field : Field α) : Option α → List Json → Prop
  | empty : Slot field none []
  | filled {value : α} {json : Json} (represents : field.codec.Represents value json) :
      Slot field (some value) [json]

theorem Slot.unique {field : Field α} {slot slot' : Option α} {entries : List Json}
    (first : field.Slot slot entries) (second : field.Slot slot' entries) : slot = slot' := by
  cases first with
  | empty => cases second with | empty => rfl
  | filled represents =>
      cases second with
      | filled represents' => rw [Codec.Represents.unique represents represents']

theorem Slot.before {field : Field α} {slot : Option α} {entries : List Json} {json : Json}
    (filled : field.Slot slot (entries ++ [json])) :
    entries = [] ∧ ∃ value, slot = some value ∧ field.codec.Represents value json := by
  cases entries with
  | nil =>
      cases filled with
      | filled represents => exact ⟨rfl, _, rfl, represents⟩
  | cons first rest =>
      generalize whole : first :: rest ++ [json] = entries at filled
      cases filled with
      | empty => cases whole
      | filled represents => simp at whole

/-- Read an entry under the name of the field. -/
def take (field : Field α) (slot : Option α) (json : Json) : Except DecodeError (Option α) :=
  match slot with
  | some _ => .error (.duplicateField field.name)
  | none => (field.codec.decode json).map some

theorem take_iff {field : Field α} {slot slot' : Option α} {entries : List Json} {json : Json}
    (before : field.Slot slot entries) :
    field.take slot json = .ok slot' ↔ field.Slot slot' (entries ++ [json]) := by
  cases before with
  | empty =>
      rw [take, Except.map_eq_ok]
      constructor
      · rintro ⟨value, read, rfl⟩
        exact .filled ((field.codec.decode_iff _ _).mp read)
      · intro filled
        obtain ⟨-, value, rfl, represents⟩ := filled.before
        exact ⟨value, (field.codec.decode_iff _ _).mpr represents, rfl⟩
  | filled represents =>
      constructor
      · intro read
        cases read
      · intro filled
        cases filled.before.1

/-- What a field is when all entries have been read. -/
def settle (field : Field α) : Option α → Except DecodeError α
  | some value => .ok value
  | none =>
      match field.absent with
      | some value => .ok value
      | none => .error (.missingField field.name)

theorem settle_iff {field : Field α} {slot : Option α} {entries : List Json} {value : α}
    (filled : field.Slot slot entries) :
    field.settle slot = .ok value ↔ field.Represents value entries := by
  cases filled with
  | empty =>
      constructor
      · intro settled
        rw [settle] at settled
        split at settled
        · rename_i default
          cases settled
          exact .absent default
        · cases settled
      · intro represents
        cases represents with
        | absent default => rw [settle, default]
  | filled represents =>
      constructor
      · intro settled
        cases settled
        exact .present represents
      · intro represents'
        cases represents' with
        | present represents' => rw [Codec.Represents.unique represents represents', settle]

theorem Represents.slot {field : Field α} {value : α} {entries : List Json}
    (represents : field.Represents value entries) : ∃ slot, field.Slot slot entries := by
  cases represents with
  | absent _ => exact ⟨none, .empty⟩
  | present represents => exact ⟨_, .filled represents⟩

end Field

/-! ### Records -/

/-- The fields of a record, in the order of their declaration. -/
inductive Layout : Type → Type 1
  | nil : Layout Unit
  | field {α β : Type} (first : Field α) (rest : Layout β) : Layout (α × β)

namespace Layout

variable {α β : Type}

def names : {α : Type} → Layout α → List String
  | _, .nil => []
  | _, .field first rest => first.name :: rest.names

def Valid : {α : Type} → Layout α → α → Prop
  | _, .nil, _ => True
  | _, .field first rest, value => first.codec.Valid value.1 ∧ rest.Valid value.2

/-! ### Objects -/

/-- What has been read of the fields. -/
@[reducible] def Slots : {α : Type} → Layout α → Type
  | _, .nil => Unit
  | _, @Layout.field first _ _ rest => Option first × rest.Slots

def noSlots : {α : Type} → (layout : Layout α) → layout.Slots
  | _, .nil => ()
  | _, .field _ rest => (none, rest.noSlots)

/-- Read one entry: names that are no field's are passed over. -/
def take : {α : Type} → (layout : Layout α) → layout.Slots → String × Json →
    Except DecodeError layout.Slots
  | _, .nil, _, _ => .ok ()
  | _, .field first rest, slots, entry =>
      if entry.1 = first.name then (first.take slots.1 entry.2).map fun slot => (slot, slots.2)
      else (rest.take slots.2 entry).map fun others => (slots.1, others)

def finish : {α : Type} → (layout : Layout α) → layout.Slots → Except DecodeError α
  | _, .nil, _ => .ok ()
  | _, .field first rest, slots => do
      let value ← first.settle slots.1
      let others ← rest.finish slots.2
      return (value, others)

/-- `visit_map`. -/
def readFields (layout : Layout α) (fields : Json.Fields) : Except DecodeError α := do
  let slots ← fields.foldlM layout.take layout.noSlots
  layout.finish slots

/-- The entries of an object under a name. -/
def under (fields : Json.Fields) (name : String) : List Json :=
  (fields.filter fun entry => entry.1 = name).map Prod.snd

/-- What has been read so far, after the entries that the names have. -/
def Filled : {α : Type} → (layout : Layout α) → layout.Slots → (String → List Json) → Prop
  | _, .nil, _, _ => True
  | _, .field first rest, slots, entries =>
      first.Slot slots.1 (entries first.name) ∧ rest.Filled slots.2 entries

/-- Each field has its value of the entries under its name. -/
def RepresentsFields : {α : Type} → Layout α → α → (String → List Json) → Prop
  | _, .nil, _, _ => True
  | _, .field first rest, value, entries =>
      first.Represents value.1 (entries first.name) ∧ rest.RepresentsFields value.2 entries

section Fields

variable {layout : Layout α} {entries entries' : String → List Json}

theorem Filled.congr {slots : layout.Slots} (filled : layout.Filled slots entries)
    (same : ∀ name ∈ layout.names, entries' name = entries name) : layout.Filled slots entries' := by
  induction layout with
  | nil => trivial
  | field first rest ih =>
      refine ⟨?_, ih filled.2 fun name member => same name (List.mem_cons_of_mem _ member)⟩
      rw [same first.name List.mem_cons_self]
      exact filled.1

theorem Filled.unique {slots slots' : layout.Slots} (filled : layout.Filled slots entries)
    (filled' : layout.Filled slots' entries) : slots = slots' := by
  induction layout with
  | nil => rfl
  | field first rest ih => exact Prod.ext (filled.1.unique filled'.1) (ih filled.2 filled'.2)

/-- One more entry under a name. -/
def addEntry (entries : String → List Json) (entry : String × Json) (name : String) : List Json :=
  if entry.1 = name then entries name ++ [entry.2] else entries name

theorem addEntry_of_not_mem {entry : String × Json} {names : List String} (other : entry.1 ∉ names) :
    ∀ name ∈ names, addEntry entries entry name = entries name := by
  intro name member
  exact if_neg fun (same : entry.1 = name) => other (same ▸ member)

/-- One entry: what has been read after it is what the names have then. -/
theorem take_iff (distinct : layout.names.Nodup) {slots slots' : layout.Slots}
    {entry : String × Json} (filled : layout.Filled slots entries) :
    layout.take slots entry = .ok slots' ↔ layout.Filled slots' (addEntry entries entry) := by
  induction layout with
  | nil => exact ⟨fun _ => trivial, fun _ => rfl⟩
  | field first rest ih =>
      obtain ⟨fresh, distinct⟩ := List.nodup_cons.mp distinct
      rw [take]
      by_cases own : entry.1 = first.name
      · have others := @addEntry_of_not_mem entries _ _ (own ▸ fresh)
        rw [if_pos own, Except.map_eq_ok, Filled, addEntry, if_pos own]
        constructor
        · rintro ⟨slot, taken, rfl⟩
          exact ⟨(Field.take_iff filled.1).mp taken, filled.2.congr others⟩
        · rintro ⟨slot, rest'⟩
          refine ⟨_, (Field.take_iff filled.1).mpr slot, Prod.ext rfl ?_⟩
          exact filled.2.unique (rest'.congr fun name member => (others name member).symm)
      · rw [if_neg own, Except.map_eq_ok, Filled, addEntry, if_neg own]
        constructor
        · rintro ⟨others, taken, rfl⟩
          exact ⟨filled.1, (ih distinct filled.2).mp taken⟩
        · rintro ⟨slot, rest'⟩
          exact ⟨_, (ih distinct filled.2).mpr rest', Prod.ext (filled.1.unique slot) rfl⟩

theorem filled_noSlots : layout.Filled layout.noSlots fun _ => [] := by
  induction layout with
  | nil => trivial
  | field first rest ih => exact ⟨.empty, ih⟩

/-- What can be read with one more entry could be read without it. -/
theorem Filled.before {slots : layout.Slots} {entry : String × Json}
    (filled : layout.Filled slots (addEntry entries entry)) :
    ∃ slots', layout.Filled slots' entries := by
  induction layout with
  | nil => exact ⟨(), trivial⟩
  | field first rest ih =>
      obtain ⟨others, rest'⟩ := ih filled.2
      have own := filled.1
      rw [addEntry] at own
      split at own
      · refine ⟨(none, others), ?_, rest'⟩
        rw [own.before.1]
        exact .empty
      · exact ⟨(slots.1, others), own, rest'⟩

theorem under_append (fields : Json.Fields) (entry : String × Json) :
    under (fields ++ [entry]) = addEntry (under fields) entry := by
  funext name
  rw [under, addEntry, List.filter_append, List.map_append]
  by_cases same : entry.1 = name
  · simp [same, under]
  · simp [same, under]

/-- A run over the entries of an object: what has been read is what the names have. -/
theorem foldlM_take_iff (distinct : layout.names.Nodup) {fields : Json.Fields}
    {slots : layout.Slots} :
    fields.foldlM layout.take layout.noSlots = .ok slots ↔ layout.Filled slots (under fields) := by
  induction fields using List.reverseRecOn generalizing slots with
  | nil =>
      constructor
      · intro same
        cases same
        exact filled_noSlots
      · intro filled
        exact congrArg _ (filled_noSlots.unique filled)
  | append_singleton fields entry ih =>
      rw [List.foldlM_append, Except.bind_eq_ok, under_append]
      simp only [List.foldlM_cons, List.foldlM_nil, bind_pure]
      constructor
      · rintro ⟨before, read, taken⟩
        exact (take_iff distinct (ih.mp read)).mp taken
      · intro filled
        obtain ⟨before, filled'⟩ := filled.before
        exact ⟨before, ih.mpr filled', (take_iff distinct filled').mpr filled⟩

theorem finish_iff {slots : layout.Slots} {value : α} (filled : layout.Filled slots entries) :
    layout.finish slots = .ok value ↔ layout.RepresentsFields value entries := by
  induction layout with
  | nil => exact ⟨fun _ => trivial, fun _ => rfl⟩
  | field first rest ih =>
      simp only [finish, Except.bind_eq_ok]
      constructor
      · rintro ⟨own, settled, others, finished, same⟩
        cases same
        exact ⟨(Field.settle_iff filled.1).mp settled, (ih filled.2).mp finished⟩
      · rintro ⟨own, others⟩
        exact ⟨_, (Field.settle_iff filled.1).mpr own, _, (ih filled.2).mpr others, rfl⟩

theorem RepresentsFields.filled {value : α} (represents : layout.RepresentsFields value entries) :
    ∃ slots, layout.Filled slots entries := by
  induction layout with
  | nil => exact ⟨(), trivial⟩
  | field first rest ih =>
      obtain ⟨slot, own⟩ := represents.1.slot
      obtain ⟨slots, others⟩ := ih represents.2
      exact ⟨(slot, slots), own, others⟩

theorem readFields_iff (distinct : layout.names.Nodup) {fields : Json.Fields} {value : α} :
    layout.readFields fields = .ok value ↔ layout.RepresentsFields value (under fields) := by
  simp only [readFields, Except.bind_eq_ok]
  constructor
  · rintro ⟨slots, read, finished⟩
    exact (finish_iff ((foldlM_take_iff distinct).mp read)).mp finished
  · intro represents
    obtain ⟨slots, filled⟩ := represents.filled
    exact ⟨slots, (foldlM_take_iff distinct).mpr filled, (finish_iff filled).mpr represents⟩

theorem RepresentsFields.valid {value : α} (represents : layout.RepresentsFields value entries) :
    layout.Valid value := by
  induction layout with
  | nil => trivial
  | field first rest ih => exact ⟨represents.1.valid, ih represents.2⟩

end Fields

/-! ### Arrays -/

/-- `visit_seq`, with the fields that have been read before: a field that is not there any more has
its default, and nothing may be left. -/
def readItems : {α : Type} → Layout α → Nat → List Json → Except DecodeError α
  | _, .nil, _, [] => .ok ()
  | _, .nil, index, _ :: rest => .error (.invalidLength (index + rest.length + 1))
  | _, .field first rest, index, [] =>
      match first.short with
      | some value => do
          let others ← rest.readItems (index + 1) []
          return (value, others)
      | none => .error (.invalidLength index)
  | _, .field first rest, index, item :: items => do
      let value ← first.codec.decode item
      let others ← rest.readItems (index + 1) items
      return (value, others)

/-- Each field has its value of the item in its place. -/
def RepresentsItems : {α : Type} → Layout α → α → List Json → Prop
  | _, .nil, _, items => items = []
  | _, .field first rest, value, [] => first.short = some value.1 ∧ rest.RepresentsItems value.2 []
  | _, .field first rest, value, item :: items =>
      first.codec.Represents value.1 item ∧ rest.RepresentsItems value.2 items

theorem readItems_iff {layout : Layout α} {index : Nat} {items : List Json} {value : α} :
    layout.readItems index items = .ok value ↔ layout.RepresentsItems value items := by
  induction layout generalizing index items with
  | nil =>
      cases items with
      | nil => exact ⟨fun _ => rfl, fun _ => rfl⟩
      | cons item items => simp [readItems, RepresentsItems]
  | field first rest ih =>
      cases items with
      | nil =>
          simp only [readItems, RepresentsItems]
          constructor
          · intro read
            split at read
            · rename_i short
              obtain ⟨others, remaining, same⟩ := Except.bind_eq_ok.mp read
              cases same
              exact ⟨short, ih.mp remaining⟩
            · cases read
          · rintro ⟨short, others⟩
            rw [short]
            exact Except.bind_eq_ok.mpr ⟨_, ih.mpr others, rfl⟩
      | cons item items =>
          simp only [readItems, RepresentsItems, Except.bind_eq_ok]
          constructor
          · rintro ⟨own, read, others, rest', same⟩
            cases same
            exact ⟨(first.codec.decode_iff _ _).mp read, ih.mp rest'⟩
          · rintro ⟨own, others⟩
            exact ⟨_, (first.codec.decode_iff _ _).mpr own, _, ih.mpr others, rfl⟩

theorem RepresentsItems.valid {layout : Layout α} {items : List Json} {value : α}
    (represents : layout.RepresentsItems value items) : layout.Valid value := by
  induction layout generalizing items with
  | nil => trivial
  | field first rest ih =>
      cases items with
      | nil => exact ⟨first.valid_short _ represents.1, ih represents.2⟩
      | cons item items =>
          exact ⟨first.codec.valid_of_represents _ _ represents.1, ih represents.2⟩

/-! ### Both -/

/-- `deserialize_struct`. -/
def read (layout : Layout α) : Json → Except DecodeError α
  | .object fields => layout.readFields fields
  | .array items => layout.readItems 0 items
  | _ => .error (.invalidType "a record")

inductive Represents (layout : Layout α) (value : α) : Json → Prop
  | object {fields : Json.Fields} (represents : layout.RepresentsFields value (under fields)) :
      Represents layout value (.object fields)
  | array {items : List Json} (represents : layout.RepresentsItems value items) :
      Represents layout value (.array items)

/-- What is read of a record is what represents it. -/
theorem read_iff {layout : Layout α} (distinct : layout.names.Nodup) {value : α} {json : Json} :
    layout.read json = .ok value ↔ layout.Represents value json := by
  constructor
  · intro decoded
    cases json with
    | object fields => exact .object ((readFields_iff distinct).mp decoded)
    | array items => exact .array (readItems_iff.mp decoded)
    | _ => cases decoded
  · intro represents
    cases represents with
    | object represents => exact (readFields_iff distinct).mpr represents
    | array represents => exact readItems_iff.mpr represents

/-! ### Writing -/

/-- The entries of the fields that are not left out. -/
def entries : {α : Type} → Layout α → α → List (String × Json)
  | _, .nil, _ => []
  | _, .field first rest, value =>
      ((first.entry value.1).map fun json => (first.name, json)).toList ++ rest.entries value.2

/-- `serialize_struct`. -/
def write (layout : Layout α) (value : α) : Json :=
  Json.ofEntries (layout.entries value)

theorem entries_names {layout : Layout α} {value : α} {entry : String × Json}
    (member : entry ∈ layout.entries value) : entry.1 ∈ layout.names := by
  induction layout with
  | nil => cases member
  | field first rest ih =>
      rcases List.mem_append.mp member with own | later
      · obtain ⟨json, -, rfl⟩ := Option.map_eq_some_iff.mp (Option.mem_toList.mp own)
        exact List.mem_cons_self
      · exact List.mem_cons_of_mem _ (ih later)

theorem under_eq_nil {fields : Json.Fields} {name : String}
    (absent : ∀ entry ∈ fields, entry.1 ≠ name) : under fields name = [] := by
  rw [under, List.filter_eq_nil_iff.mpr, List.map_nil]
  intro entry member
  simpa using absent entry member

/-- Where the names are distinct, their order does not matter. -/
theorem under_perm {fields fields' : Json.Fields} (perm : fields.Perm fields')
    (distinct : (fields.map Prod.fst).Nodup) (name : String) :
    under fields name = under fields' name := by
  have named : ∀ entry ∈ fields.filter fun entry => entry.1 = name, entry.1 = name := by
    intro entry member
    simpa using List.of_mem_filter member
  have once : ((fields.filter fun entry => entry.1 = name).map Prod.fst).Nodup :=
    (List.filter_sublist.map Prod.fst).nodup distinct
  have kept := perm.filter fun entry => entry.1 = name
  rw [under, under]
  generalize fields.filter (fun entry => entry.1 = name) = found at named once kept
  match found with
  | [] => rw [List.nil_perm.mp kept]
  | [entry] => rw [List.singleton_perm.mp kept]
  | first :: second :: _ =>
      have same : first.1 = second.1 := (named first (by simp)).trans (named second (by simp)).symm
      simp [same] at once

theorem RepresentsFields.congr {layout : Layout α} {value : α} {entries entries' : String → List Json}
    (represents : layout.RepresentsFields value entries)
    (same : ∀ name ∈ layout.names, entries' name = entries name) :
    layout.RepresentsFields value entries' := by
  induction layout with
  | nil => trivial
  | field first rest ih =>
      refine ⟨?_, ih represents.2 fun name member => same name (List.mem_cons_of_mem _ member)⟩
      rw [same first.name List.mem_cons_self]
      exact represents.1

theorem representsFields_entries {layout : Layout α} (distinct : layout.names.Nodup) {value : α}
    (valid : layout.Valid value) : layout.RepresentsFields value (under (layout.entries value)) := by
  induction layout with
  | nil => trivial
  | field first rest ih =>
      obtain ⟨fresh, distinct⟩ := List.nodup_cons.mp distinct
      have later : under (rest.entries value.2) first.name = [] := by
        apply under_eq_nil
        intro entry member same
        exact fresh (same ▸ entries_names member)
      refine ⟨?_, (ih distinct valid.2).congr fun name member => ?_⟩
      · have own : under (((first.entry value.1).map fun json => (first.name, json)).toList ++
            rest.entries value.2) first.name = (first.entry value.1).toList := by
          rw [under, List.filter_append, List.map_append]
          refine (congrArg (_ ++ ·) later).trans ?_
          cases first.entry value.1 <;> simp
        rw [entries, own]
        exact Field.represents_entry valid.1
      · have differs : first.name ≠ name := fun same => fresh (same ▸ member)
        rw [entries, under, List.filter_append, List.map_append]
        cases first.entry value.1 <;> simp [differs, under]

theorem entries_nodup {layout : Layout α} (distinct : layout.names.Nodup) {value : α} :
    ((layout.entries value).map Prod.fst).Nodup := by
  induction layout with
  | nil => exact List.nodup_nil
  | field first rest ih =>
      obtain ⟨fresh, distinct⟩ := List.nodup_cons.mp distinct
      rw [entries]
      cases first.entry value.1 with
      | none => exact ih distinct
      | some json =>
          refine List.nodup_cons.mpr ⟨fun member => ?_, ih distinct⟩
          obtain ⟨entry, inside, same⟩ := List.mem_map.mp member
          have named : entry.1 = first.name := same
          exact fresh (named ▸ entries_names inside)

theorem write_eq (layout : Layout α) (value : α) :
    layout.write value = .object (Entries.ofList (layout.entries value)) := by
  simp only [write, Json.ofEntries, Entries.fields_insert, Entries.ofList]

/-- What is written represents the record. -/
theorem represents_write {layout : Layout α} (distinct : layout.names.Nodup) {value : α}
    (valid : layout.Valid value) : layout.Represents value (layout.write value) := by
  have nodup : ((layout.entries value).map Prod.fst).Nodup := entries_nodup distinct
  have kept := Entries.ofList_perm nodup
  rw [write_eq]
  refine .object ((representsFields_entries distinct valid).congr fun name _ => ?_)
  exact (under_perm kept.symm nodup name).symm

/-- The codec of a record whose fields have distinct names. -/
def codec (layout : Layout α) (distinct : layout.names.Nodup) : Codec α where
  encode := layout.write
  decode := layout.read
  Valid := layout.Valid
  Represents := layout.Represents
  decode_iff _ _ := read_iff distinct
  represents_encode _ := represents_write distinct
  valid_of_represents _ _ represents := by
    cases represents with
    | object represents => exact represents.valid
    | array represents => exact represents.valid

end Layout

end SakalaAgent
