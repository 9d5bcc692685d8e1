/-
Module: SakalaAgent.Text.EnvFile
Layer: Text (library)
Purpose: Environment files: one variable a line, nothing escaped. A file that is written from names
  and values that fit on their lines is read back as it was written.
Trusted boundary: the reading of a file is the one `docker run --env-file` documents.
Main exports: EnvFile.write, EnvFile.read, EnvFile.Writable, EnvFile.read_write
-/
import SakalaAgent.Text.Chars

namespace EnvFile

/-- One variable on its line. -/
def line (entry : Text × Text) : Text :=
  entry.1 ++ '=' :: entry.2

def write (entries : List (Text × Text)) : Text :=
  entries.flatMap fun entry => line entry ++ ['\n']

/-- A line without its carriage return and the white space before it: blank lines and comments hold
nothing, others a name and, behind the first equals sign, a value. -/
def readLine (line : Text) : Option (Text × Option Text) :=
  let line := Text.trimStart (Text.dropCarriageReturn line)
  if line = [] ∨ line.head? = some '#' then none
  else
    let name := line.takeWhile fun character => character ≠ '='
    match line.drop name.length with
    | [] => some (name, none)
    | _ :: value => some (name, some value)

def read (content : Text) : List (Text × Option Text) :=
  (Text.splitOn '\n' content).filterMap readLine

/-- A name and a value that fit on a line. -/
structure Writable (entry : Text × Text) : Prop where
  starts : ∃ first rest, entry.1 = first :: rest ∧ Text.isWhiteSpace first = false ∧ first ≠ '#'
  name : '=' ∉ entry.1 ∧ '\n' ∉ entry.1
  value : '\n' ∉ entry.2 ∧ '\r' ∉ entry.2

variable {entry : Text × Text} {entries : List (Text × Text)}

theorem Writable.not_mem_line (writable : Writable entry) : '\n' ∉ line entry := by
  have name := writable.name.2
  have value := writable.value.1
  simp [line, name, value]

/-- The carriage return that could be at the end of the line would be one of the value. -/
theorem Writable.dropCarriageReturn_line (writable : Writable entry) :
    Text.dropCarriageReturn (line entry) = line entry := by
  apply if_neg
  intro last
  have behind : (line entry).getLast? = ('=' :: entry.2).getLast? := by
    rw [line, List.getLast?_append]
    cases value : ('=' :: entry.2).getLast? with
    | none => cases List.getLast?_eq_none_iff.mp value
    | some last => rfl
  rw [behind] at last
  rcases List.mem_cons.mp (List.mem_of_getLast? last) with equals | inValue
  · cases equals
  · exact writable.value.2 inValue

theorem Writable.trimStart_line (writable : Writable entry) :
    Text.trimStart (line entry) = line entry := by
  obtain ⟨first, rest, same, solid, _⟩ := writable.starts
  rw [line, same, List.cons_append, Text.trimStart, List.dropWhile_cons_of_neg]
  simp [solid]

/-- The name ends at the first equals sign. -/
theorem takeWhile_line (noEquals : '=' ∉ entry.1) :
    (line entry).takeWhile (fun character => character ≠ '=') = entry.1 := by
  have all : ∀ character ∈ entry.1, decide (character ≠ '=') = true := by
    intro character member
    exact decide_eq_true (ne_of_mem_of_not_mem member noEquals)
  rw [line, List.takeWhile_append_of_pos all]
  simp

theorem Writable.readLine_line (writable : Writable entry) :
    readLine (line entry) = some (entry.1, some entry.2) := by
  obtain ⟨first, rest, same, _, noComment⟩ := writable.starts
  have goesOn : ¬(line entry = [] ∨ (line entry).head? = some '#') := by
    rw [line, same]
    simpa using noComment
  have behind : (line entry).drop entry.1.length = '=' :: entry.2 := List.drop_left
  simp only [readLine, writable.dropCarriageReturn_line, writable.trimStart_line, if_neg goesOn,
    takeWhile_line writable.name.1, behind]

/-- What is written is read back. -/
theorem read_write (writable : ∀ entry ∈ entries, Writable entry) :
    read (write entries) = entries.map fun entry => (entry.1, some entry.2) := by
  have rows : write entries = (entries.map line).flatMap fun row => row ++ ['\n'] := by
    rw [write, List.flatMap_map]
  have noFeed : ∀ row ∈ entries.map line, '\n' ∉ row := by
    intro row member
    obtain ⟨entry, inside, rfl⟩ := List.mem_map.mp member
    exact (writable entry inside).not_mem_line
  have last : readLine [] = none := rfl
  rw [read, rows, Text.splitOn_flatMap noFeed, List.filterMap_append, List.filterMap_cons_none last,
    List.filterMap_nil, List.append_nil, List.filterMap_map]
  clear rows noFeed
  induction entries with
  | nil => rfl
  | cons entry entries ih =>
      have first : (readLine ∘ line) entry = some (entry.1, some entry.2) :=
        (writable entry List.mem_cons_self).readLine_line
      have rest := ih fun other member => writable other (List.mem_cons_of_mem _ member)
      rw [List.filterMap_cons_some first, rest, List.map_cons]

end EnvFile
