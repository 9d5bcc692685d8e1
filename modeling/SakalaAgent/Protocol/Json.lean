/-
Module: SakalaAgent.Protocol.Json
Layer: Protocol
Purpose: JSON values as the code handles them. The keys of an object are kept in order, one entry a
  key, as the map behind an object keeps them.
Trusted boundary: none
Main exports: Json, Json.object, Fields.insert, Fields.get
-/

namespace SakalaAgent

/-- A JSON number: unsigned, negative, or a float by its bits. -/
inductive JsonNumber where
  | unsigned (value : UInt64)
  | negative (value : Int64)
  | float (bits : UInt64)
deriving DecidableEq, Repr

inductive Json where
  | null
  | bool (value : Bool)
  | number (value : JsonNumber)
  | string (value : String)
  | array (items : List Json)
  | object (fields : List (String × Json))

instance : Inhabited Json := ⟨.null⟩

namespace Json

/-- The entries of an object. -/
abbrev Fields : Type := List (String × Json)

/-- Set a key, in the place the order of the keys gives it. -/
def Fields.insert (fields : Fields) (key : String) (value : Json) : Fields :=
  match fields with
  | [] => [(key, value)]
  | (other, old) :: rest =>
      if key = other then (key, value) :: rest
      else if key < other then (key, value) :: (other, old) :: rest
      else (other, old) :: insert rest key value

/-- The value under a key. -/
def Fields.get (fields : Fields) (key : String) : Option Json :=
  match fields with
  | [] => none
  | (other, value) :: rest => if key = other then some value else get rest key

/-- A literal object: its entries set one after the other. -/
def ofEntries (entries : List (String × Json)) : Json :=
  .object (entries.foldl (fun fields entry => Fields.insert fields entry.1 entry.2) [])

/-- The value under a key of an object; other values have no keys. -/
def get (value : Json) (key : String) : Option Json :=
  match value with
  | .object fields => Fields.get fields key
  | _ => none

@[simp] theorem Fields.get_insert_self (fields : Fields) (key : String) (value : Json) :
    Fields.get (Fields.insert fields key value) key = some value := by
  induction fields with
  | nil => simp [insert, get]
  | cons entry rest ih =>
      obtain ⟨other, old⟩ := entry
      by_cases same : key = other
      · simp [insert, get, same]
      · by_cases before : key < other
        · simp [insert, get, same, before]
        · simp [insert, get, same, before, ih]

theorem Fields.get_insert_of_ne (fields : Fields) {key other : String} (value : Json)
    (ne : other ≠ key) : Fields.get (Fields.insert fields key value) other = Fields.get fields other := by
  induction fields with
  | nil => simp [insert, get, ne]
  | cons entry rest ih =>
      obtain ⟨first, old⟩ := entry
      by_cases same : key = first
      · subst same
        simp [insert, get, ne]
      · by_cases before : key < first
        · simp [insert, get, same, before, ne]
        · by_cases found : other = first
          · simp [insert, get, same, before, found]
          · simp [insert, get, same, before, found, ih]

end Json

end SakalaAgent
