/-
Module: SakalaAgent.Proofs.Listings
Layer: Proofs
Purpose: What the agent reads of a listing of containers: a listing that fits into the captured
  output is read row by row as Docker printed it, and a row column by column.
Trusted boundary: none
Main exports: captured_eq, activeProjects_captured, contentLines_captured, splitOn_intercalate
-/
import SakalaAgent.Runtime.Containers

namespace SakalaAgent

/-! ### Captured output -/

/-- What is captured stays what the output begins with. -/
theorem foldl_extends (lines : List Text) (output : Text) :
    ∃ more, lines.foldl appendBounded output = output ++ more := by
  induction lines generalizing output with
  | nil => exact ⟨[], by simp⟩
  | cons line lines ih =>
      obtain ⟨first, appended⟩ : ∃ first, appendBounded output line = output ++ first := by
        unfold appendBounded
        dsimp only
        split
        · exact ⟨[], by simp⟩
        · split
          · exact ⟨_, List.append_assoc ..⟩
          · exact ⟨_, rfl⟩
      obtain ⟨more, rest⟩ := ih (output ++ first)
      exact ⟨first ++ more, by rw [List.foldl_cons, appended, rest, List.append_assoc]⟩

/-- Lines that fit are captured as they are. -/
theorem foldl_appendBounded {lines : List Text} {output : Text}
    (fits : Text.byteLength output + Text.byteLength (lines.flatMap fun line => line ++ ['\n']) ≤
      maxCaptureBytes) :
    lines.foldl appendBounded output = output ++ lines.flatMap fun line => line ++ ['\n'] := by
  induction lines generalizing output with
  | nil => simp
  | cons line lines ih =>
      have feed : Char.utf8Size '\n' = 1 := rfl
      simp only [List.flatMap_cons, Text.byteLength_append, Text.byteLength_cons,
        Text.byteLength_nil, feed] at fits
      have room : ¬maxCaptureBytes ≤ Text.byteLength output := by omega
      have whole : Text.takeBytes (maxCaptureBytes - Text.byteLength output) line = line :=
        Text.takeBytes_of_le (by omega)
      have ended : Text.byteLength (output ++ line) < maxCaptureBytes := by
        rw [Text.byteLength_append]
        omega
      have appended : appendBounded output line = output ++ line ++ ['\n'] := by
        simp only [appendBounded, if_neg room, whole, if_pos ended]
      rw [List.foldl_cons, appended, ih]
      · simp
      · simp only [Text.byteLength_append, Text.byteLength_cons, Text.byteLength_nil, feed]
        omega

theorem captured_eq {lines : List Text}
    (fits : Text.byteLength (lines.flatMap fun line => line ++ ['\n']) ≤ maxCaptureBytes) :
    captured lines = lines.flatMap fun line => line ++ ['\n'] := by
  apply (foldl_appendBounded (by simpa using fits)).trans
  rfl

/-- What fits is kept of what begins with it. -/
theorem takeBytes_append {maximum : Nat} {start : Text} (fits : Text.byteLength start ≤ maximum)
    (rest : Text) : ∃ more, Text.takeBytes maximum (start ++ rest) = start ++ more := by
  induction start generalizing maximum with
  | nil => exact ⟨_, rfl⟩
  | cons character start ih =>
      rw [Text.byteLength_cons] at fits
      have first : character.utf8Size ≤ maximum := by omega
      obtain ⟨more, same⟩ := @ih (maximum - character.utf8Size) (by omega)
      exact ⟨more, by rw [List.cons_append, Text.takeBytes, if_pos first, same, List.cons_append]⟩

/-- What is captured begins as the first line does. -/
theorem captured_begins {start line : Text} (fits : Text.byteLength start ≤ maxCaptureBytes)
    (begins : start <+: line) (lines : List Text) :
    ∃ more, captured (line :: lines) = start ++ more := by
  obtain ⟨rest, rfl⟩ := begins
  have room : ¬maxCaptureBytes ≤ Text.byteLength [] := by decide
  obtain ⟨kept, cut⟩ := @takeBytes_append (maxCaptureBytes - Text.byteLength []) start fits rest
  obtain ⟨more, first⟩ : ∃ more, appendBounded [] (start ++ rest) = start ++ more := by
    simp only [appendBounded, if_neg room, List.nil_append, cut]
    split
    · exact ⟨_, List.append_assoc ..⟩
    · exact ⟨_, rfl⟩
  obtain ⟨further, whole⟩ := foldl_extends lines (start ++ more)
  exact ⟨more ++ further, by rw [captured, List.foldl_cons, first, whole, List.append_assoc]⟩

/-! ### Rows and columns -/

/-- The rows of a listing are read one by one. -/
theorem contentLines_captured {rows : List Text} (noFeed : ∀ row ∈ rows, '\n' ∉ row)
    (noReturn : ∀ row ∈ rows, '\r' ∉ row) (solid : ∀ row ∈ rows, Text.isBlank row = false)
    (fits : Text.byteLength (rows.flatMap fun row => row ++ ['\n']) ≤ maxCaptureBytes) :
    contentLines (captured rows) = rows := by
  rw [contentLines, captured_eq fits, Text.lines_flatMap noFeed noReturn]
  apply List.filter_eq_self.mpr
  intro row member
  rw [solid row member]
  rfl

/-- The columns of a row are read one by one. -/
theorem splitOn_intercalate {separator : Char} {column : Text} {columns : List Text}
    (absent : ∀ text ∈ column :: columns, separator ∉ text) :
    Text.splitOn separator (List.intercalate [separator] (column :: columns)) =
      column :: columns := by
  induction columns generalizing column with
  | nil => simpa using Text.splitOn_of_not_mem (absent column List.mem_cons_self)
  | cons next columns ih =>
      have first := absent column List.mem_cons_self
      have rest := ih fun text member => absent text (List.mem_cons_of_mem _ member)
      rw [List.intercalate_cons_cons, List.append_assoc, List.singleton_append,
        Text.splitOn_append _ first, rest]

/-! ### Ids in a listing -/

theorem isWhiteSpace_hexDigit (digit : Fin 16) :
    Text.isWhiteSpace (Uuid.hexDigit digit) = false := by
  revert digit
  decide

theorem isWhiteSpace_of_mem_toText {uuid : Uuid} {character : Char}
    (member : character ∈ uuid.toText) : Text.isWhiteSpace character = false := by
  rcases Uuid.mem_toText member with rfl | ⟨digit, rfl⟩
  · rfl
  · exact isWhiteSpace_hexDigit digit

theorem not_mem_toText {uuid : Uuid} {character : Char}
    (space : Text.isWhiteSpace character = true) : character ∉ uuid.toText := by
  intro member
  rw [isWhiteSpace_of_mem_toText member] at space
  cases space

theorem trim_toText (uuid : Uuid) : Text.trim uuid.toText = uuid.toText :=
  Text.trim_of_forall fun _ member => isWhiteSpace_of_mem_toText member

theorem toText_ne_nil (uuid : Uuid) : uuid.toText ≠ [] := by
  intro empty
  have read := Uuid.parseText_toText uuid
  rw [empty] at read
  cases read

theorem toText_length (projectId : Uuid) : projectId.toText.length = 36 := by
  have complete : (projectId.digits.map Uuid.hexDigit).length = 32 := by simp [projectId.complete]
  exact Uuid.hyphenated_length complete

/-- A column of ids is read as it was printed. -/
theorem activeProjects_captured {ids : List Uuid}
    (fits : Text.byteLength ((ids.map Uuid.toText).flatMap fun row => row ++ ['\n']) ≤
      maxCaptureBytes) :
    activeProjects (captured (ids.map Uuid.toText)) = ids.map Uuid.toText := by
  have noSpace : ∀ character, Text.isWhiteSpace character = true →
      ∀ row ∈ ids.map Uuid.toText, character ∉ row := by
    intro character space row member
    obtain ⟨id, _, rfl⟩ := List.mem_map.mp member
    exact not_mem_toText space
  have trimmed : (ids.map Uuid.toText).map Text.trim = ids.map Uuid.toText := by
    rw [List.map_map]
    exact List.map_congr_left fun id _ => trim_toText id
  rw [activeProjects, captured_eq fits, Text.lines_flatMap (noSpace _ rfl) (noSpace _ rfl), trimmed]
  apply List.filter_eq_self.mpr
  intro row member
  obtain ⟨id, _, rfl⟩ := List.mem_map.mp member
  simp [toText_ne_nil]

end SakalaAgent
