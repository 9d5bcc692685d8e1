/-
Module: SakalaAgent.Proofs.CapturedOutput
Layer: Proofs
Purpose: What is captured of the lines of a process, of any lengths and characters. It never gets over
  its bound and is cut between characters. It is the beginning of what was printed unless the bound
  falls inside a character: the line is then cut before that character, and a line feed and parts of
  later lines are put into the few bytes that are left.
Trusted boundary: none
Main exports: appendBoundedBytes, utf8_captured, Capture, capture_foldl, BoundedPrefix,
  bounded_prefix_iff
-/
import SakalaAgent.Proofs.Listings
import SakalaAgent.Text.Utf8

namespace SakalaAgent

/-- The lines as they were printed, each of them followed by a line feed. -/
def printed (lines : List Text) : Text :=
  lines.flatMap fun line => line ++ ['\n']

@[simp] theorem printed_nil : printed [] = [] := rfl

@[simp] theorem printed_cons (line : Text) (lines : List Text) :
    printed (line :: lines) = line ++ '\n' :: printed lines := by
  simp [printed]

/-! ### One line more -/

/-- `append_bounded` on the bytes of its strings. -/
def appendBoundedBytes (output line : Bytes) : Bytes :=
  if maxCaptureBytes ≤ output.length then output
  else
    let remaining := maxCaptureBytes - output.length
    let line := if line.length ≤ remaining then line else line.take (Text.boundaryBefore line remaining)
    let output := output ++ line
    if output.length < maxCaptureBytes then output ++ Text.utf8 ['\n'] else output

/-- The longest beginning that fits is what the search for a boundary keeps. -/
theorem utf8_appendBounded (output line : Text) :
    Text.utf8 (appendBounded output line) = appendBoundedBytes (Text.utf8 output) (Text.utf8 line) := by
  have kept : ∀ remaining, Text.utf8 (Text.takeBytes remaining line) =
      if Text.byteLength line ≤ remaining then Text.utf8 line
      else (Text.utf8 line).take (Text.boundaryBefore (Text.utf8 line) remaining) := by
    intro remaining
    split
    · rename_i fits
      rw [Text.takeBytes_of_le fits]
    · rename_i tooLong
      exact Text.utf8_takeBytes (Nat.lt_of_not_le tooLong)
  simp only [appendBounded, appendBoundedBytes, Text.length_utf8, ← kept]
  by_cases full : maxCaptureBytes ≤ Text.byteLength output
  · rw [if_pos full, if_pos full]
  · rw [if_neg full, if_neg full, ← Text.utf8_append, Text.length_utf8]
    split
    · rw [Text.utf8_append]
    · rfl

theorem utf8_captured (lines : List Text) :
    Text.utf8 (captured lines) = (lines.map Text.utf8).foldl appendBoundedBytes [] := by
  have fold : ∀ (lines : List Text) (output : Text), Text.utf8 (lines.foldl appendBounded output) =
      (lines.map Text.utf8).foldl appendBoundedBytes (Text.utf8 output) := by
    intro lines
    induction lines with
    | nil => exact fun output => rfl
    | cons line lines ih =>
        intro output
        rw [List.foldl_cons, ih, utf8_appendBounded]
        rfl
  exact fold lines []

/-- What is full stays as it is. -/
theorem appendBounded_full {output : Text} (full : maxCaptureBytes ≤ Text.byteLength output)
    (line : Text) : appendBounded output line = output :=
  if_pos full

theorem foldl_full {output : Text} (full : maxCaptureBytes ≤ Text.byteLength output)
    (lines : List Text) : lines.foldl appendBounded output = output := by
  induction lines with
  | nil => rfl
  | cons line lines ih => rw [List.foldl_cons, appendBounded_full full, ih]

/-- What is left of a line, and the line feed if there is room for it. -/
theorem appendBounded_room {output : Text} (room : Text.byteLength output < maxCaptureBytes)
    (line : Text) : appendBounded output line =
      output ++ Text.takeBytes (maxCaptureBytes - Text.byteLength output) line ++
        if Text.byteLength (output ++ Text.takeBytes (maxCaptureBytes - Text.byteLength output) line) <
          maxCaptureBytes then ['\n'] else [] := by
  rw [appendBounded, if_neg (Nat.not_le.mpr room)]
  dsimp only
  split
  · rfl
  · rw [List.append_nil]

theorem byteLength_appendBounded {output : Text}
    (within : Text.byteLength output ≤ maxCaptureBytes) (line : Text) :
    Text.byteLength (appendBounded output line) ≤ maxCaptureBytes := by
  by_cases full : maxCaptureBytes ≤ Text.byteLength output
  · rw [appendBounded_full full]
    exact within
  · rw [appendBounded_room (Nat.lt_of_not_le full)]
    have cut := Text.byteLength_takeBytes (maxCaptureBytes - Text.byteLength output) line
    have feed : Char.utf8Size '\n' = 1 := rfl
    split
    · rename_i room
      rw [Text.byteLength_append, Text.byteLength_cons, Text.byteLength_nil, feed]
      exact room
    · rw [List.append_nil, Text.byteLength_append]
      omega

theorem byteLength_foldl {output : Text} (within : Text.byteLength output ≤ maxCaptureBytes)
    (lines : List Text) :
    Text.byteLength (lines.foldl appendBounded output) ≤ maxCaptureBytes := by
  induction lines generalizing output with
  | nil => exact within
  | cons line lines ih =>
      rw [List.foldl_cons]
      exact ih (byteLength_appendBounded within line)

theorem empty_within : Text.byteLength [] ≤ maxCaptureBytes :=
  Nat.zero_le _

/-- The bytes of a line are cut between two of its characters. -/
def CutsLine (output line : Text) : Prop :=
  ∃ cut feed, Text.isCharBoundary (Text.utf8 line) cut = true ∧ (feed = [] ∨ feed = ['\n']) ∧
    Text.utf8 (appendBounded output line) =
      Text.utf8 output ++ (Text.utf8 line).take cut ++ Text.utf8 feed

theorem cutsLine (output line : Text) : CutsLine output line := by
  by_cases full : maxCaptureBytes ≤ Text.byteLength output
  · refine ⟨0, [], rfl, .inl rfl, ?_⟩
    rw [appendBounded_full full, List.take_zero, Text.utf8_nil, List.append_nil, List.append_nil]
  · obtain ⟨rest, same⟩ :=
      Text.takeBytes_isPrefix (maxCaptureBytes - Text.byteLength output) line
    have boundary := Text.isCharBoundary_byteLength
      (Text.takeBytes (maxCaptureBytes - Text.byteLength output) line) rest
    have taken := Text.take_utf8
      (Text.takeBytes (maxCaptureBytes - Text.byteLength output) line) rest
    rw [same] at boundary taken
    rw [CutsLine, appendBounded_room (Nat.lt_of_not_le full)]
    split
    · refine ⟨_, ['\n'], boundary, .inr rfl, ?_⟩
      rw [taken, Text.utf8_append, Text.utf8_append]
    · refine ⟨_, [], boundary, .inl rfl, ?_⟩
      rw [taken, Text.utf8_append, Text.utf8_append]

/-! ### All lines -/

/-- The bound is met at the end of what was printed or between two of its characters, or it falls
inside a character. There the bytes that are left go to a line feed. -/
inductive Capture (output folded rest : Text) : Prop where
  | between (kept : Text) (begins : kept <+: rest) (appended : folded = output ++ kept)
      (ends : kept = rest ∨ Text.byteLength (output ++ kept) = maxCaptureBytes)
  | inside (kept more : Text) (character : Char) (behind : Text)
      (appended : folded = output ++ kept ++ '\n' :: more) (split : rest = kept ++ character :: behind)
      (short : Text.byteLength (output ++ kept) < maxCaptureBytes)
      (past : maxCaptureBytes < Text.byteLength (output ++ kept) + character.utf8Size)

/-- What is captured behind a whole line. -/
theorem Capture.behind_line {output line folded rest : Text}
    (capture : Capture (output ++ line ++ ['\n']) folded rest) :
    Capture output folded (line ++ '\n' :: rest) := by
  have longer (kept : Text) : output ++ line ++ ['\n'] ++ kept = output ++ (line ++ '\n' :: kept) := by
    simp
  cases capture with
  | between kept begins appended ends =>
      rw [longer] at appended ends
      refine .between _ ?_ appended (ends.imp_left fun all => by rw [all])
      exact (List.prefix_append_right_inj line).mpr (List.cons_prefix_cons.mpr ⟨rfl, begins⟩)
  | inside kept more character behind appended split short past =>
      rw [longer] at appended short past
      refine .inside _ more character behind appended ?_ short past
      rw [split, List.append_assoc, List.cons_append]

/-- A line that does not fit is the last one of which something is captured. -/
theorem capture_cut {output line : Text} (room : Text.byteLength output < maxCaptureBytes)
    (tooLong : maxCaptureBytes - Text.byteLength output < Text.byteLength line) (lines : List Text) :
    Capture output (lines.foldl appendBounded (appendBounded output line))
      (line ++ '\n' :: printed lines) := by
  obtain ⟨character, behind, same, past⟩ := Text.exists_next_of_lt tooLong
  have cut := Text.byteLength_takeBytes (maxCaptureBytes - Text.byteLength output) line
  rw [appendBounded_room room]
  generalize Text.takeBytes (maxCaptureBytes - Text.byteLength output) line = kept
    at same past cut ⊢
  have whole : line ++ '\n' :: printed lines =
      kept ++ character :: (behind ++ '\n' :: printed lines) := by
    rw [same, List.append_assoc, List.cons_append]
  split
  · rename_i short
    obtain ⟨more, rest⟩ := foldl_extends lines (output ++ kept ++ ['\n'])
    refine .inside kept more character _ ?_ whole short ?_
    · rw [rest, List.append_assoc, List.singleton_append]
    · rw [Text.byteLength_append]
      omega
  · rename_i noRoom
    have exactly : Text.byteLength (output ++ kept) = maxCaptureBytes := by
      rw [Text.byteLength_append] at noRoom ⊢
      omega
    refine .between kept ⟨_, whole.symm⟩ ?_ (.inr exactly)
    rw [List.append_nil, foldl_full exactly.ge]

theorem capture_foldl (lines : List Text) {output : Text}
    (within : Text.byteLength output ≤ maxCaptureBytes) :
    Capture output (lines.foldl appendBounded output) (printed lines) := by
  have feed : Char.utf8Size '\n' = 1 := rfl
  induction lines generalizing output with
  | nil => exact .between [] List.nil_prefix (List.append_nil _).symm (.inl rfl)
  | cons line lines ih =>
      rw [List.foldl_cons, printed_cons]
      by_cases full : maxCaptureBytes ≤ Text.byteLength output
      · rw [appendBounded_full full, foldl_full full]
        refine .between [] List.nil_prefix (List.append_nil _).symm (.inr ?_)
        rw [List.append_nil]
        exact Nat.le_antisymm within full
      have room := Nat.lt_of_not_le full
      by_cases fits : Text.byteLength line ≤ maxCaptureBytes - Text.byteLength output
      · rw [appendBounded_room room, Text.takeBytes_of_le fits]
        split
        · rename_i feeds
          apply Capture.behind_line
          apply ih
          rw [Text.byteLength_append, Text.byteLength_cons, Text.byteLength_nil, feed]
          exact feeds
        · rename_i noRoom
          have exactly : Text.byteLength (output ++ line) = maxCaptureBytes := by
            rw [Text.byteLength_append] at noRoom ⊢
            omega
          refine .between line (List.prefix_append _ _) ?_ (.inr exactly)
          rw [List.append_nil, foldl_full exactly.ge]
      · exact capture_cut room (Nat.lt_of_not_le fits) lines

/-! ### The beginning of what was printed -/

/-- What was printed fits, or the bound falls between two of its characters. -/
def FallsBetween (lines : List Text) : Prop :=
  Text.byteLength (printed lines) ≤ maxCaptureBytes ∨
    Text.isCharBoundary (Text.utf8 (printed lines)) maxCaptureBytes = true

/-- A line feed where a character was cut off is not what was printed there. -/
theorem begins_iff (lines : List Text) : captured lines <+: printed lines ↔ FallsBetween lines := by
  have feed : Char.utf8Size '\n' = 1 := rfl
  cases capture_foldl lines empty_within with
  | between kept begins folded ends =>
      rw [List.nil_append] at folded ends
      constructor
      · intro _
        rcases ends with rfl | exactly
        · left
          rw [← folded]
          exact byteLength_foldl empty_within lines
        · right
          obtain ⟨rest, same⟩ := begins
          have boundary := Text.isCharBoundary_byteLength kept rest
          rwa [same, exactly] at boundary
      · intro _
        rw [captured, folded]
        exact begins
  | inside kept more character behind folded split short past =>
      rw [List.nil_append] at folded short past
      constructor
      · intro begins
        exfalso
        rw [captured, folded, split] at begins
        obtain ⟨same, _⟩ :=
          List.cons_prefix_cons.mp ((List.prefix_append_right_inj kept).mp begins)
        rw [← same, feed] at past
        omega
      · intro falls
        exfalso
        rcases falls with fits | boundary
        · rw [split, Text.byteLength_append, Text.byteLength_cons] at fits
          omega
        · rw [split, Text.isCharBoundary_inside short past] at boundary
          cases boundary

/-- What is captured of the lines that a process printed: at most the bound, each line cut between two
of its characters, the beginning of what was printed, and so only the last of its lines can differ
from the line that was printed. -/
structure BoundedPrefix (lines : List Text) : Prop where
  bounded : Text.byteLength (captured lines) ≤ maxCaptureBytes
  boundary : ∀ before line after, lines = before ++ line :: after → CutsLine (captured before) line
  begins : captured lines <+: printed lines
  lastOnly : (∀ line ∈ lines, '\n' ∉ line) →
    (Text.splitOn '\n' (captured lines)).dropLast <+: lines

/-- Captured output is a bounded prefix exactly when the bound falls inside no character of what was
printed. -/
theorem bounded_prefix_iff (lines : List Text) : BoundedPrefix lines ↔ FallsBetween lines := by
  constructor
  · intro holds
    exact (begins_iff lines).mp holds.begins
  · intro falls
    have begins := (begins_iff lines).mpr falls
    refine ⟨byteLength_foldl empty_within lines, fun before line _ _ => cutsLine _ line, begins, ?_⟩
    intro noFeed
    obtain ⟨rest, same⟩ := begins
    have pieces := Text.dropLast_splitOn_isPrefix '\n' (captured lines) rest
    rw [same, printed, Text.splitOn_flatMap noFeed, List.dropLast_concat] at pieces
    exact pieces

/-- A line of one-byte characters up to the last byte of the bound, and a character of two bytes. -/
def cutLine : Text :=
  List.replicate (maxCaptureBytes - 1) 'a' ++ ['é']

/-- The line is cut before its last character, and a line feed takes the byte that is left. -/
theorem captured_not_a_prefix : ¬BoundedPrefix [cutLine] := by
  have size : Text.byteLength (List.replicate (maxCaptureBytes - 1) 'a') = maxCaptureBytes - 1 := by
    simp [Text.byteLength, List.map_replicate, show Char.utf8Size 'a' = 1 from rfl]
  have wide : Char.utf8Size 'é' = 2 := rfl
  have positive : 0 < maxCaptureBytes := by decide
  have split : printed [cutLine] = List.replicate (maxCaptureBytes - 1) 'a' ++ 'é' :: ['\n'] := by
    rw [printed_cons, printed_nil, cutLine, List.append_assoc, List.singleton_append]
  intro holds
  rcases (begins_iff _).mp holds.begins with fits | boundary
  · rw [split, Text.byteLength_append, Text.byteLength_cons, size, wide] at fits
    omega
  · rw [split, Text.isCharBoundary_inside (by omega) (by omega)] at boundary
    cases boundary

end SakalaAgent
