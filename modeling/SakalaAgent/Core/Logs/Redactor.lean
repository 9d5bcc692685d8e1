/-
Module: SakalaAgent.Core.Logs.Redactor
Layer: Core
Purpose: The redactor of log lines. A line is its bytes, as the code indexes them; each pass is a loop
  over the line as it stands and the place from which the next key or token is searched for.
Trusted boundary: none
Main exports: redactLine, redactAssignment, redactBearerTokens, redactPrefixedTokens, Pass, Search
-/
import SakalaAgent.Text.Utf8
import SakalaAgent.Transition.Loops

namespace SakalaAgent

namespace Redactor

open Transition

def sensitiveKeys : List Text :=
  ["token", "password", "secret", "app_key", "database_url", "authorization", "api_key",
    "access_token", "refresh_token", "client_secret"].map String.toList

def tokenPrefixes : List Text :=
  ["ghp_", "gho_", "ghs_", "github_pat_"].map String.toList

def redacted : Text :=
  "[REDACTED]".toList

def bearer : Text :=
  "bearer ".toList

/-! ### Bytes -/

def isAsciiWhitespace (byte : UInt8) : Bool :=
  byte.toNat = ' '.toNat || byte.toNat = '\t'.toNat || byte.toNat = '\n'.toNat ||
    byte.toNat = '\x0c'.toNat || byte.toNat = '\r'.toNat

/-- An ASCII letter, a digit or an underscore. -/
def isWordByte (byte : UInt8) : Bool :=
  ('0'.toNat ≤ byte.toNat && byte.toNat ≤ '9'.toNat) ||
    ('A'.toNat ≤ byte.toNat && byte.toNat ≤ 'Z'.toNat) ||
    ('a'.toNat ≤ byte.toNat && byte.toNat ≤ 'z'.toNat) || byte.toNat = '_'.toNat

def isQuote (byte : UInt8) : Bool :=
  byte.toNat = '\''.toNat || byte.toNat = '"'.toNat

def isSeparator (byte : UInt8) : Bool :=
  byte.toNat = '='.toNat || byte.toNat = ':'.toNat

/-- What ends a value without quotes. -/
def endsValue (byte : UInt8) : Bool :=
  isAsciiWhitespace byte || byte.toNat = ','.toNat || byte.toNat = ';'.toNat

/-- What ends a token. -/
def endsToken (byte : UInt8) : Bool :=
  endsValue byte || byte.toNat = '"'.toNat

/-- A slice of the bytes from an index behind their end panics. -/
def sliceFrom (value : Bytes) (start : Nat) : Option Bytes :=
  if start ≤ value.length then some (value.drop start) else none

def findAsciiCaseInsensitive (value needle : Bytes) (searchFrom : Nat) : Option (Option Nat) :=
  (sliceFrom value searchFrom).map fun rest =>
    (Text.positionOf needle rest).map fun relative => searchFrom + relative

/-- The first byte from the index on that passes the test, or the end. -/
def firstFrom (value : Bytes) (start : Nat) (test : UInt8 → Bool) : Option Nat :=
  (sliceFrom value start).map fun rest =>
    match rest.findIdx? test with
    | some relative => start + relative
    | none => value.length

/-- The cursor behind the bytes that pass the test. -/
def skipWhile (value : Bytes) (cursor : Nat) (test : UInt8 → Bool) : Nat :=
  cursor + ((value.drop cursor).takeWhile test).length

/-- A range that does not begin and end between two characters panics. -/
def replaceRange (value : Bytes) (start stop : Nat) (text : Bytes) : Option Bytes :=
  if start ≤ stop ∧ stop ≤ value.length ∧ Text.isCharBoundary value start = true ∧
      Text.isCharBoundary value stop = true then
    some (value.take start ++ text ++ value.drop stop)
  else none

/-! ### The passes -/

/-- A line that is being redacted and the place from which a pass goes on to search it. -/
structure Search where
  value : Bytes
  searchFrom : Nat
deriving DecidableEq, Repr

/-- Where the value of an assignment ends that begins at the cursor. -/
def valueEnd (key value : Bytes) (cursor : Nat) (quote : Option UInt8) : Option Nat :=
  (sliceFrom value cursor).bind fun rest =>
    if key = Text.utf8 "authorization".toList ∧
        Text.bytesStartIgnoringCase rest (Text.utf8 bearer) = true then
      firstFrom value (cursor + (Text.utf8 bearer).length) endsToken
    else
      firstFrom value cursor fun byte =>
        match quote with
        | some quote => byte == quote
        | none => endsValue byte

/-- One round of the loop over the assignments to a key, from the place at which the key was
found. -/
def assignmentAt (key value : Bytes) (start : Nat) : Option Search :=
  let glued := if start > 0 then value[start - 1]?.map isWordByte else some false
  glued.bind fun glued =>
    if glued then some ⟨value, start + key.length⟩
    else
      let cursor := skipWhile value (start + key.length) fun byte =>
        isAsciiWhitespace byte || isQuote byte
      if value[cursor]?.any isSeparator then
        let cursor := skipWhile value (cursor + 1) isAsciiWhitespace
        let quote := value[cursor]?.filter isQuote
        let cursor := if quote.isSome then cursor + 1 else cursor
        (valueEnd key value cursor quote).bind fun stop =>
          if stop > cursor then
            (replaceRange value cursor stop (Text.utf8 redacted)).map fun value =>
              ⟨value, cursor + (Text.utf8 redacted).length⟩
          else some ⟨value, cursor⟩
      else some ⟨value, start + key.length⟩

/-- One round of the loop over the bearer tokens. -/
def bearerAt (value : Bytes) (start : Nat) : Option Search :=
  let tokenStart := start + (Text.utf8 bearer).length
  (firstFrom value tokenStart endsToken).bind fun tokenEnd =>
    let replaced :=
      if tokenEnd > tokenStart then replaceRange value tokenStart tokenEnd (Text.utf8 redacted)
      else some value
    replaced.map fun value => ⟨value, tokenStart + (Text.utf8 redacted).length⟩

/-- One round of the loop over the tokens with a prefix. -/
def prefixedAt (value : Bytes) (start : Nat) : Option Search :=
  (firstFrom value start endsToken).bind fun stop =>
    (replaceRange value start stop (Text.utf8 redacted)).map fun value =>
      ⟨value, start + (Text.utf8 redacted).length⟩

/-- The loops of the redactor, each over the line as the ones before have left it. -/
inductive Pass where
  | assignment (key : Text)
  | bearer
  | prefixed ( tokenPrefix : Text)
deriving DecidableEq, Repr

/-- What the pass searches for. -/
def Pass.needle : Pass → Text
  | .assignment key => key
  | .bearer => Redactor.bearer
  | .prefixed tokenPrefix => tokenPrefix

/-- What the pass does where it has found something. -/
def Pass.found : Pass → Bytes → Nat → Option Search
  | .assignment key => assignmentAt (Text.utf8 key)
  | .bearer => bearerAt
  | .prefixed _ => prefixedAt

/-- A round of a pass: it ends the pass if there is nothing left to find. -/
def Pass.round (pass : Pass) (search : Search) : Option (Option Search) :=
  (findAsciiCaseInsensitive search.value (Text.utf8 pass.needle) search.searchFrom).bind
    fun start =>
      match start with
      | none => some none
      | some start => (pass.found search.value start).map some

/-- A bound on the rounds of a pass over the value. -/
def rounds (value : Bytes) : Nat :=
  value.length + 1

/-- The pass over a value, from its beginning. -/
def Pass.run (pass : Pass) (value : Bytes) : Completion Bytes :=
  runPass Pass.round (fun value => ⟨value, 0⟩) Search.value rounds pass value

def runAll (passes : List Pass) (value : Bytes) : Completion Bytes :=
  runPasses Pass.round (fun value => ⟨value, 0⟩) Search.value rounds passes value

def redactAssignment (value : Bytes) (key : Text) : Completion Bytes :=
  (Pass.assignment key).run value

def redactBearerTokens (value : Bytes) : Completion Bytes :=
  Pass.bearer.run value

def redactPrefixedTokens (value : Bytes) : Completion Bytes :=
  runAll (tokenPrefixes.map Pass.prefixed) value

def redactLine (line : Bytes) : Completion Bytes :=
  (runAll (sensitiveKeys.map Pass.assignment) line).andThen fun value =>
    (redactBearerTokens value).andThen redactPrefixedTokens

end Redactor

end SakalaAgent
