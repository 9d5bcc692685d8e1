/-
Module: SakalaAgent.Protocol.Codec
Layer: Protocol (library)
Purpose: Values written as JSON and read back, the way derived serializers and deserializers do it. A
  codec says which JSON represents a value, and carries the proofs that exactly that is read as the
  value, and that what is written represents it. Codecs of options, lists and maps are put together
  from those of their parts.
Trusted boundary: the texts of the errors are left out.
Main exports: DecodeError, Codec, Codec.variants, Codec.option, Codec.list, Codec.map
-/
import SakalaAgent.Protocol.Json
import Mathlib.Data.List.Forall2
import Mathlib.Data.List.Nodup
import Mathlib.Data.List.Induction
import Mathlib.Data.String.Basic
import Mathlib.Logic.Equiv.Defs

namespace SakalaAgent

/-- Why a value cannot be read. -/
inductive DecodeError where
  | invalidType (expected : String)
  | invalidValue (expected : String)
  | invalidLength (length : Nat)
  | unknownVariant (variant : String)
  | missingField (field : String)
  | duplicateField (field : String)
  | custom (message : String)
deriving DecidableEq, Repr

section Except

variable {ε α β : Type}

theorem Except.bind_eq_ok {outcome : Except ε α} {next : α → Except ε β} {result : β} :
    (outcome >>= next) = .ok result ↔ ∃ value, outcome = .ok value ∧ next value = .ok result := by
  cases outcome with
  | error error =>
      constructor
      · intro failed
        cases failed
      · rintro ⟨_, failed, _⟩
        cases failed
  | ok value =>
      constructor
      · intro same
        exact ⟨value, rfl, same⟩
      · rintro ⟨_, same, ended⟩
        cases same
        exact ended

theorem Except.map_eq_ok {outcome : Except ε α} {f : α → β} {result : β} :
    outcome.map f = .ok result ↔ ∃ value, outcome = .ok value ∧ f value = result := by
  cases outcome with
  | error error => simp [Except.map]
  | ok value => simp [Except.map]

end Except

/-! ### Ordered maps -/

namespace Entries

variable {β : Type} {entries : List (String × β)} {key other : String} {value : β}

/-- The keys stand in order, each of them once. -/
def Sorted (entries : List (String × β)) : Prop :=
  entries.Pairwise fun first second => first.1 < second.1

instance (entries : List (String × β)) : Decidable (Sorted entries) :=
  inferInstanceAs (Decidable (List.Pairwise _ _))

/-- Set a key, in its place. -/
def insert (key : String) (value : β) : List (String × β) → List (String × β)
  | [] => [(key, value)]
  | (other, old) :: rest =>
      if key = other then (key, value) :: rest
      else if key < other then (key, value) :: (other, old) :: rest
      else (other, old) :: insert key value rest

def ofList (entries : List (String × β)) : List (String × β) :=
  entries.foldl (fun entries entry => insert entry.1 entry.2 entries) []

/-- The fields of a JSON object are such a map. -/
theorem fields_insert (fields : Json.Fields) (key : String) (value : Json) :
    Json.Fields.insert fields key value = insert key value fields := by
  induction fields with
  | nil => rfl
  | cons entry rest ih =>
      rw [Json.Fields.insert, insert, ih]

theorem mem_insert {entry : String × β} (member : entry ∈ insert key value entries) :
    entry = (key, value) ∨ entry ∈ entries := by
  induction entries with
  | nil => exact .inl (List.mem_singleton.mp member)
  | cons first rest ih =>
      rw [insert] at member
      split at member
      · exact (List.mem_cons.mp member).imp_right (List.mem_cons_of_mem _)
      · split at member
        · exact List.mem_cons.mp member
        · rcases List.mem_cons.mp member with same | later
          · exact .inr (same ▸ List.mem_cons_self)
          · exact (ih later).imp_right (List.mem_cons_of_mem _)

theorem Sorted.insert (sorted : Sorted entries) : Sorted (insert key value entries) := by
  induction entries with
  | nil => exact List.pairwise_singleton _ _
  | cons first rest ih =>
      obtain ⟨before, later⟩ := List.pairwise_cons.mp sorted
      rw [Entries.insert]
      split
      · rename_i same
        exact List.pairwise_cons.mpr ⟨fun entry member => same ▸ before entry member, later⟩
      · rename_i differs
        split
        · rename_i less
          refine List.pairwise_cons.mpr ⟨fun entry member => ?_, sorted⟩
          rcases List.mem_cons.mp member with rfl | inside
          · exact less
          · exact String.lt_trans less (before entry inside)
        · rename_i notLess
          refine List.pairwise_cons.mpr ⟨fun entry member => ?_, ih later⟩
          rcases mem_insert member with rfl | inside
          · exact (lt_or_gt_of_ne differs).resolve_left notLess
          · exact before entry inside

/-- A key behind all others is set at the end. -/
theorem insert_of_behind (behind : ∀ entry ∈ entries, entry.1 < key) :
    insert key value entries = entries ++ [(key, value)] := by
  induction entries with
  | nil => rfl
  | cons first rest ih =>
      have before := behind first List.mem_cons_self
      rw [insert, if_neg (String.ne_of_lt before).symm, if_neg (String.lt_asymm before),
        ih fun entry member => behind entry (List.mem_cons_of_mem _ member)]
      rfl

theorem sorted_ofList (entries : List (String × β)) : Sorted (ofList entries) := by
  induction entries using List.reverseRecOn with
  | nil => exact List.Pairwise.nil
  | append_singleton entries entry ih =>
      rw [ofList, List.foldl_concat]
      exact Sorted.insert ih

theorem ofList_of_sorted (sorted : Sorted entries) : ofList entries = entries := by
  induction entries using List.reverseRecOn with
  | nil => rfl
  | append_singleton entries entry ih =>
      obtain ⟨before, -, behind⟩ := List.pairwise_append.mp sorted
      have same : entries.foldl (fun entries entry => insert entry.1 entry.2 entries) [] = entries :=
        ih before
      rw [ofList, List.foldl_concat, same, insert_of_behind]
      intro other member
      exact behind other member entry (List.mem_singleton_self entry)

/-- A new key is one more entry. -/
theorem insert_perm (fresh : ∀ entry ∈ entries, entry.1 ≠ key) :
    (insert key value entries).Perm ((key, value) :: entries) := by
  induction entries with
  | nil => exact List.Perm.refl _
  | cons first rest ih =>
      rw [insert, if_neg (fresh first List.mem_cons_self).symm]
      split
      · exact List.Perm.refl _
      · have later := ih fun entry member => fresh entry (List.mem_cons_of_mem _ member)
        exact (later.cons _).trans (List.Perm.swap ..)

theorem ofList_perm (distinct : (entries.map Prod.fst).Nodup) : (ofList entries).Perm entries := by
  induction entries using List.reverseRecOn with
  | nil => exact List.Perm.refl _
  | append_singleton entries entry ih =>
      rw [List.map_append, List.nodup_append] at distinct
      obtain ⟨before, -, apart⟩ := distinct
      have set : (ofList entries).Perm entries := ih before
      rw [ofList, List.foldl_concat]
      refine (insert_perm fun other member same => ?_).trans
        ((set.cons entry).trans (List.perm_append_singleton entry entries).symm)
      exact apart _ (List.mem_map_of_mem (set.mem_iff.mp member)) _
        (List.mem_map_of_mem (List.mem_singleton_self entry)) same

theorem mem_of_mem_ofList {entry : String × β} (member : entry ∈ ofList entries) :
    entry ∈ entries := by
  induction entries using List.reverseRecOn with
  | nil => exact member
  | append_singleton entries last ih =>
      rw [ofList, List.foldl_concat] at member
      rcases mem_insert member with rfl | before
      · exact List.mem_append_right _ (List.mem_singleton_self _)
      · exact List.mem_append_left _ (ih before)

end Entries

/-! ### Codecs -/

/-- How the values of a type are written and read. Only some values of the type may be ones that the
code can have: what is read is valid, and what is valid is represented by what is written. -/
structure Codec (α : Type) where
  encode : α → Json
  decode : Json → Except DecodeError α
  Valid : α → Prop
  Represents : α → Json → Prop
  decode_iff : ∀ value json, decode json = .ok value ↔ Represents value json
  represents_encode : ∀ value, Valid value → Represents value (encode value)
  valid_of_represents : ∀ value json, Represents value json → Valid value

namespace Codec

variable {α β : Type}

/-- What has been written is read as what it was. -/
theorem decode_encode (codec : Codec α) {value : α} (valid : codec.Valid value) :
    codec.decode (codec.encode value) = .ok value :=
  (codec.decode_iff _ _).mpr (codec.represents_encode value valid)

/-- JSON represents one value at most. -/
theorem Represents.unique {codec : Codec α} {value other : α} {json : Json}
    (first : codec.Represents value json) (second : codec.Represents other json) : value = other := by
  have read := (codec.decode_iff _ _).mpr first
  rw [(codec.decode_iff _ _).mpr second] at read
  exact (Except.ok.inj read).symm

/-! ### Single values -/

/-- The value is JSON itself. -/
def value : Codec Json where
  encode json := json
  decode json := .ok json
  Valid _ := True
  Represents value json := json = value
  decode_iff _ _ := ⟨Except.ok.inj, congrArg _⟩
  represents_encode _ _ := rfl
  valid_of_represents _ _ _ := trivial

/-- Values that are all written in one form of JSON, and read in no other. -/
def form (write : α → Json) (read : Json → Except DecodeError α)
    (read_iff : ∀ value json, read json = .ok value ↔ json = write value) : Codec α where
  encode := write
  decode := read
  Valid _ := True
  Represents value json := json = write value
  decode_iff := read_iff
  represents_encode _ _ := rfl
  valid_of_represents _ _ _ := trivial

def readBool : Json → Except DecodeError Bool
  | .bool value => .ok value
  | _ => .error (.invalidType "a boolean")

def bool : Codec Bool :=
  form .bool readBool fun value json => by
    cases json <;> simp [readBool, eq_comm]

def readString : Json → Except DecodeError String
  | .string value => .ok value
  | _ => .error (.invalidType "a string")

def string : Codec String :=
  form .string readString fun value json => by
    cases json <;> simp [readString, eq_comm]

/-- A number, within the range of its type. -/
def readNatural (expected : String) (bound : Nat) : Json → Except DecodeError Nat
  | .number (.unsigned value) =>
      if value.toNat < bound then .ok value.toNat else .error (.invalidValue expected)
  | .number (.negative _) => .error (.invalidValue expected)
  | _ => .error (.invalidType expected)

/-- What a number is written as. -/
def number (value : Nat) : Json :=
  .number (.unsigned (UInt64.ofNat value))

theorem readNatural_iff {expected : String} {bound value : Nat} (small : bound ≤ 2 ^ 64)
    {json : Json} : readNatural expected bound json = .ok value ↔
      value < bound ∧ json = number value := by
  cases json with
  | number number =>
      cases number with
      | unsigned read =>
          simp only [readNatural, number, Json.number.injEq, JsonNumber.unsigned.injEq]
          constructor
          · intro decoded
            split at decoded
            · cases decoded
              exact ⟨by assumption, UInt64.ofNat_toNat.symm⟩
            · cases decoded
          · rintro ⟨below, rfl⟩
            have same : (UInt64.ofNat value).toNat = value :=
              UInt64.toNat_ofNat_of_lt' (Nat.lt_of_lt_of_le below small)
            rw [same, if_pos below]
      | negative _ => simp [readNatural, number]
      | float _ => simp [readNatural, number]
  | _ => simp [readNatural, number]

/-- The numbers of a fixed-width type. -/
def natural (expected : String) (bound : Nat) (toNat : α → Nat) (ofNat : Nat → α)
    (small : bound ≤ 2 ^ 64) (bounded : ∀ value, toNat value < bound)
    (ofNat_toNat : ∀ value, ofNat (toNat value) = value)
    (toNat_ofNat : ∀ number, number < bound → toNat (ofNat number) = number) : Codec α :=
  form (fun value => number (toNat value))
    (fun json => (readNatural expected bound json).map ofNat) fun value json => by
      rw [Except.map_eq_ok]
      constructor
      · rintro ⟨number, read, rfl⟩
        obtain ⟨below, rfl⟩ := (readNatural_iff small).mp read
        rw [toNat_ofNat number below]
      · rintro rfl
        exact ⟨toNat value, (readNatural_iff small).mpr ⟨bounded value, rfl⟩, ofNat_toNat value⟩

def u16 : Codec UInt16 :=
  natural "u16" (2 ^ 16) UInt16.toNat UInt16.ofNat (by decide) UInt16.toNat_lt
    (fun _ => UInt16.ofNat_toNat) fun _ => UInt16.toNat_ofNat_of_lt'

def u32 : Codec UInt32 :=
  natural "u32" (2 ^ 32) UInt32.toNat UInt32.ofNat (by decide) UInt32.toNat_lt
    (fun _ => UInt32.ofNat_toNat) fun _ => UInt32.toNat_ofNat_of_lt'

def u64 : Codec UInt64 :=
  natural "u64" (2 ^ 64) UInt64.toNat UInt64.ofNat (by decide) UInt64.toNat_lt
    (fun _ => UInt64.ofNat_toNat) fun _ => UInt64.toNat_ofNat_of_lt'

/-! ### Enumerations -/

/-- The variants of an enumeration, by their names. -/
structure Variants (α : Type) where
  all : List α
  name : α → String
  complete : ∀ value, value ∈ all
  distinct : (all.map name).Nodup

namespace Variants

def find (variants : Variants α) (name : String) : Except DecodeError α :=
  match variants.all.find? fun value => variants.name value = name with
  | some value => .ok value
  | none => .error (.unknownVariant name)

theorem find_iff {variants : Variants α} {name : String} {value : α} :
    variants.find name = .ok value ↔ name = variants.name value := by
  rw [find]
  constructor
  · intro read
    split at read
    · rename_i found
      cases read
      simpa [eq_comm] using List.find?_some found
    · cases read
  · rintro rfl
    cases found : variants.all.find? (fun other => variants.name other = variants.name value) with
    | none =>
        have absent := List.find?_eq_none.mp found value (variants.complete value)
        simp at absent
    | some other =>
        have same : variants.name other = variants.name value := by
          simpa using List.find?_some found
        have own : other = value := List.inj_on_of_nodup_map variants.distinct
          (variants.complete other) (variants.complete value) same
        rw [own]

/-- A variant is a string, or the only key of an object, with nothing but null behind it. -/
def read (variants : Variants α) : Json → Except DecodeError α
  | .string name => variants.find name
  | .object [(name, .null)] => variants.find name
  | .object [(name, _)] => do
      let _ ← variants.find name
      throw (.invalidType "unit")
  | .object _ => .error (.invalidValue "map with a single key")
  | _ => .error (.invalidType "string or map")

theorem read_iff {variants : Variants α} {value : α} {json : Json} :
    variants.read json = .ok value ↔
      json = .string (variants.name value) ∨ json = .object [(variants.name value, .null)] := by
  constructor
  · intro decoded
    unfold read at decoded
    split at decoded
    · rw [find_iff.mp decoded]
      exact .inl rfl
    · rw [find_iff.mp decoded]
      exact .inr rfl
    · obtain ⟨_, _, failed⟩ := Except.bind_eq_ok.mp decoded
      cases failed
    · cases decoded
    · cases decoded
  · rintro (rfl | rfl)
    · exact find_iff.mpr rfl
    · exact find_iff.mpr rfl

end Variants

def variants (variants : Variants α) : Codec α where
  encode value := .string (variants.name value)
  decode := variants.read
  Valid _ := True
  Represents value json :=
    json = .string (variants.name value) ∨ json = .object [(variants.name value, .null)]
  decode_iff _ _ := Variants.read_iff
  represents_encode _ _ := .inl rfl
  valid_of_represents _ _ _ := trivial

/-! ### Optional values, lists and maps -/

/-- Null is not read as a value. -/
def Solid (codec : Codec α) : Prop :=
  ∀ value, ¬codec.Represents value .null

theorem solid_form {write : α → Json} {read : Json → Except DecodeError α}
    {read_iff : ∀ value json, read json = .ok value ↔ json = write value}
    (solid : ∀ value, write value ≠ .null) : (form write read read_iff).Solid :=
  fun value same => solid value same.symm

theorem solid_u32 : u32.Solid :=
  solid_form fun value same => by cases same

theorem solid_u64 : u64.Solid :=
  solid_form fun value same => by cases same

theorem solid_variants {names : Variants α} : (variants names).Solid := by
  rintro value (same | same)
  · cases same
  · cases same

/-- `deserialize_option`: null is none. -/
def readOption (read : Json → Except DecodeError α) : Json → Except DecodeError (Option α)
  | .null => .ok none
  | json => (read json).map some

theorem readOption_of_ne {read : Json → Except DecodeError α} {json : Json} (present : json ≠ .null) :
    readOption read json = (read json).map some := by
  cases json with
  | null => exact absurd rfl present
  | _ => rfl

inductive OptionRepresents (codec : Codec α) : Option α → Json → Prop
  | none : OptionRepresents codec none .null
  | some {value : α} {json : Json} (represents : codec.Represents value json) :
      OptionRepresents codec (some value) json

def option (codec : Codec α) (solid : codec.Solid) : Codec (Option α) where
  encode value := (value.map codec.encode).getD .null
  decode := readOption codec.decode
  Valid value := ∀ inner, value = some inner → codec.Valid inner
  Represents := OptionRepresents codec
  decode_iff value json := by
    by_cases null : json = .null
    · subst null
      constructor
      · intro read
        cases read
        exact .none
      · intro represents
        cases represents with
        | none => rfl
        | some represents => exact (solid _ represents).elim
    · rw [readOption_of_ne null, Except.map_eq_ok]
      constructor
      · rintro ⟨inner, read, rfl⟩
        exact .some ((codec.decode_iff _ _).mp read)
      · intro represents
        cases represents with
        | none => exact absurd rfl null
        | some represents => exact ⟨_, (codec.decode_iff _ _).mpr represents, rfl⟩
  represents_encode value valid := by
    cases value with
    | none => exact .none
    | some inner => exact .some (codec.represents_encode inner (valid inner rfl))
  valid_of_represents value json represents inner same := by
    cases represents with
    | none => cases same
    | some represents =>
        cases same
        exact codec.valid_of_represents _ _ represents

/-- `deserialize_seq`: the items one after the other, until one cannot be read. -/
def readList (read : Json → Except DecodeError α) : Json → Except DecodeError (List α)
  | .array items => items.mapM read
  | _ => .error (.invalidType "a sequence")

theorem mapM_iff {ε γ : Type} {read : γ → Except ε α} {items : List γ} {values : List α} :
    items.mapM read = .ok values ↔ List.Forall₂ (fun value item => read item = .ok value) values items := by
  induction items generalizing values with
  | nil =>
      constructor
      · intro same
        cases same
        exact .nil
      · intro same
        cases same
        rfl
  | cons item items ih =>
      rw [List.mapM_cons]
      simp only [Except.bind_eq_ok]
      constructor
      · rintro ⟨value, first, rest, others, same⟩
        cases same
        exact .cons first (ih.mp others)
      · intro same
        cases same with
        | cons first others => exact ⟨_, first, _, ih.mpr others, rfl⟩

/-- A list is an array of its items. -/
def ListRepresents (codec : Codec α) (values : List α) (json : Json) : Prop :=
  ∃ items, json = .array items ∧ List.Forall₂ codec.Represents values items

def list (codec : Codec α) : Codec (List α) where
  encode values := .array (values.map codec.encode)
  decode := readList codec.decode
  Valid values := ∀ value ∈ values, codec.Valid value
  Represents := ListRepresents codec
  decode_iff values json := by
    cases json with
    | array items =>
        simp only [readList, mapM_iff, codec.decode_iff, ListRepresents, Json.array.injEq,
          exists_eq_left']
    | _ => simp [readList, ListRepresents]
  represents_encode values valid := by
    refine ⟨_, rfl, ?_⟩
    rw [List.forall₂_map_right_iff, List.forall₂_same]
    intro value member
    exact codec.represents_encode value (valid value member)
  valid_of_represents values json represents := by
    obtain ⟨items, -, represents⟩ := represents
    induction represents with
    | nil =>
        intro value member
        cases member
    | cons first _ ih =>
        intro value member
        rcases List.mem_cons.mp member with rfl | later
        · exact codec.valid_of_represents _ _ first
        · exact ih value later

/-- `deserialize_map` of an ordered map: the entries are set one after the other. -/
def readMap (read : Json → Except DecodeError α) :
    Json → Except DecodeError (List (String × α))
  | .object fields => do
      let entries ← fields.mapM fun field => (read field.2).map fun value => (field.1, value)
      return Entries.ofList entries
  | _ => .error (.invalidType "a map")

/-- A key of a map with its value, as an entry of an object. -/
structure EntryRepresents (codec : Codec α) (entry : String × α) (field : String × Json) : Prop where
  key : entry.1 = field.1
  value : codec.Represents entry.2 field.2

theorem readEntry_iff {codec : Codec α} {entry : String × α} {field : String × Json} :
    ((codec.decode field.2).map fun value => (field.1, value)) = .ok entry ↔
      EntryRepresents codec entry field := by
  rw [Except.map_eq_ok]
  constructor
  · rintro ⟨value, read, rfl⟩
    exact ⟨rfl, (codec.decode_iff _ _).mp read⟩
  · rintro ⟨key, represents⟩
    exact ⟨entry.2, (codec.decode_iff _ _).mpr represents, by rw [← key]⟩

/-- A map is an object with an entry for each of its keys. -/
def MapRepresents (codec : Codec α) (values : List (String × α)) (json : Json) : Prop :=
  ∃ fields entries, json = .object fields ∧ List.Forall₂ (EntryRepresents codec) entries fields ∧
    values = Entries.ofList entries

def map (codec : Codec α) : Codec (List (String × α)) where
  encode values := .object (values.map fun entry => (entry.1, codec.encode entry.2))
  decode := readMap codec.decode
  Valid values := Entries.Sorted values ∧ ∀ entry ∈ values, codec.Valid entry.2
  Represents := MapRepresents codec
  decode_iff values json := by
    cases json with
    | object fields =>
        simp only [readMap, MapRepresents, Except.bind_eq_ok, mapM_iff, readEntry_iff]
        constructor
        · rintro ⟨entries, read, same⟩
          cases same
          exact ⟨fields, entries, rfl, read, rfl⟩
        · rintro ⟨_, entries, same, read, rfl⟩
          cases same
          exact ⟨entries, read, rfl⟩
    | _ => simp [readMap, MapRepresents]
  represents_encode values valid := by
    refine ⟨_, values, rfl, ?_, (Entries.ofList_of_sorted valid.1).symm⟩
    rw [List.forall₂_map_right_iff, List.forall₂_same]
    intro entry member
    exact ⟨rfl, codec.represents_encode entry.2 (valid.2 entry member)⟩
  valid_of_represents values json represents := by
    obtain ⟨fields, entries, -, represents, rfl⟩ := represents
    refine ⟨Entries.sorted_ofList entries, fun entry member => ?_⟩
    have own : ∀ other ∈ entries, codec.Valid other.2 := by
      clear member
      induction represents with
      | nil =>
          intro other inside
          cases inside
      | cons first _ ih =>
          intro other inside
          rcases List.mem_cons.mp inside with rfl | later
          · exact codec.valid_of_represents _ _ first.value
          · exact ih other later
    exact own entry (Entries.mem_of_mem_ofList member)

/-! ### A codec under another type -/

/-- The codec of a type that is another one by another name. -/
def ofEquiv (codec : Codec β) (equiv : α ≃ β) : Codec α where
  encode value := codec.encode (equiv value)
  decode json := (codec.decode json).map equiv.symm
  Valid value := codec.Valid (equiv value)
  Represents value := codec.Represents (equiv value)
  decode_iff value json := by
    rw [Except.map_eq_ok]
    constructor
    · rintro ⟨other, read, rfl⟩
      rw [equiv.apply_symm_apply]
      exact (codec.decode_iff _ _).mp read
    · intro represents
      exact ⟨equiv value, (codec.decode_iff _ _).mpr represents, equiv.symm_apply_apply value⟩
  represents_encode value := codec.represents_encode (equiv value)
  valid_of_represents value := codec.valid_of_represents (equiv value)

end Codec

end SakalaAgent
