/-
Module: SakalaAgent.Text.Url
Layer: Text (library)
Purpose: Addresses of the web as the URL standard parses them, for the special schemes that have an
  authority and without a base: what is stripped and removed in front, scheme, authority, path,
  query and fragment. A text that is spelled plainly up to its path is read as it is written.
Trusted boundary: the host parser, with its tables of Unicode, is a parameter.
Main exports: WebUrl.Host, WebUrl.Record, WebUrl.parse, WebUrl.LowersAscii, WebUrl.Plain,
  WebUrl.Plain.read
-/
import SakalaAgent.Text.Decimal
import SakalaAgent.Text.Utf8

namespace WebUrl

/-! ### Characters -/

/-- Controls and blanks, which are stripped at both ends. -/
def isStripped (character : Char) : Bool :=
  character.toNat ≤ 0x20

/-- Tabs and line ends, which are removed wherever they stand. -/
def isRemoved (character : Char) : Bool :=
  character = '\t' || character = '\n' || character = '\r'

/-- A special scheme takes both for a slash. -/
def isSlash (character : Char) : Bool :=
  character = '/' || character = '\\'

def isSchemeCharacter (character : Char) : Bool :=
  character.isAlphanum || character = '+' || character = '-' || character = '.'

def endsPath (character : Char) : Bool :=
  character = '?' || character = '#'

def endsAuthority (character : Char) : Bool :=
  isSlash character || endsPath character

/-! ### Percent encoding -/

def hexDigit (value : Nat) : Char :=
  Char.ofNat (if value < 10 then 48 + value else 55 + value)

def percentByte (byte : UInt8) : Text :=
  ['%', hexDigit (byte.toNat / 16), hexDigit (byte.toNat % 16)]

def percentEncode (encoded : Char → Bool) (text : Text) : Text :=
  text.flatMap fun character =>
    if encoded character then (Text.utf8 [character]).flatMap percentByte else [character]

def isControl (character : Char) : Bool :=
  character.toNat ≤ 0x1F || 0x7E < character.toNat

def fragmentSet (character : Char) : Bool :=
  isControl character || [' ', '\x22', '<', '>', '\x60'].contains character

def querySet (character : Char) : Bool :=
  isControl character || [' ', '\x22', '#', '<', '>', '\x27'].contains character

def pathSet (character : Char) : Bool :=
  isControl character ||
    [' ', '\x22', '#', '<', '>', '?', '^', '\x60', '\x7b', '\x7d'].contains character

def userinfoSet (character : Char) : Bool :=
  pathSet character || ['/', ':', ';', '=', '@', '[', '\\', ']', '|'].contains character

/-! ### Hosts -/

inductive Host where
  | domain (name : Text)
  | ipv4 (address : Nat)
  /-- What stands between the brackets. -/
  | ipv6 (pieces : Text)
deriving DecidableEq, Repr

/-- The bytes of an address, each in decimal digits. -/
def dotted (address : Nat) : Text :=
  List.intercalate ['.'] ([2 ^ 24, 2 ^ 16, 2 ^ 8, 1].map fun weight =>
    Nat.toDigits 10 (address / weight % 256))

def Host.serialize : Host → Text
  | .domain name => name
  | .ipv4 address => dotted address
  | .ipv6 pieces => '[' :: (pieces ++ [']'])

theorem dotted_begins (address : Nat) :
    ∃ digit rest, dotted address = digit :: rest ∧ digit.isDigit = true := by
  have isDigit {digit : Char} (member : digit ∈ Nat.toDigits 10 (address / 2 ^ 24 % 256)) :=
    Text.isDigit_of_mem_toDigits member
  cases first : Nat.toDigits 10 (address / 2 ^ 24 % 256) with
  | nil => exact absurd first Nat.toDigits_ne_nil
  | cons digit digits =>
      rw [dotted, List.map_cons, first]
      exact ⟨digit, _, rfl, isDigit (first ▸ List.mem_cons_self)⟩

/-- Addresses begin with a digit or with a bracket. -/
theorem Host.domain_of_serialize {host : Host} {first : Char} {rest : Text}
    (serialized : host.serialize = first :: rest) (noDigit : first.isDigit = false)
    (noBracket : first ≠ '[') : host = .domain (first :: rest) := by
  cases host with
  | domain name => exact congrArg Host.domain serialized
  | ipv4 address =>
      obtain ⟨digit, digits, isDotted, isDigit⟩ := dotted_begins address
      obtain ⟨rfl, _⟩ := List.cons.inj (isDotted.symm.trans serialized)
      exact absurd isDigit (by simp [noDigit])
  | ipv6 pieces =>
      obtain ⟨rfl, _⟩ := List.cons.inj serialized
      exact absurd rfl noBracket

/-! ### Records -/

structure Record where
  scheme : Text
  username : Text
  password : Option Text
  host : Host
  /-- Missing for the default port of the scheme. -/
  port : Option Nat
  path : List Text
  query : Option Text
  fragment : Option Text
deriving DecidableEq, Repr

/-- The special schemes with an authority, and their default ports. -/
def defaultPorts : List (Text × Nat) :=
  [("http".toList, 80), ("https".toList, 443), ("ws".toList, 80), ("wss".toList, 443),
    ("ftp".toList, 21)]

def clean (text : Text) : Text :=
  ((text.dropWhile isStripped).rdropWhile isStripped).filter fun character => !isRemoved character

def parseScheme (text : Text) : Option (Text × Text) :=
  let scheme := text.takeWhile isSchemeCharacter
  match text.dropWhile isSchemeCharacter with
  | ':' :: rest =>
      if scheme.head?.any Char.isAlpha then some (Text.lowerAscii scheme, rest) else none
  | _ => none

/-! #### The authority -/

/-- What stands before the last at sign, and what stands behind it. -/
def splitUserinfo (authority : Text) : Option Text × Text :=
  let hostPort := authority.rtakeWhile fun character => character ≠ '@'
  if '@' ∈ authority then
    (some ((authority.rdropWhile fun character => character ≠ '@').dropLast), hostPort)
  else (none, authority)

/-- What stands before the first colon outside brackets, and what stands behind it. -/
def splitPort (insideBrackets : Bool) : Text → Text × Option Text
  | [] => ([], none)
  | character :: rest =>
      if character = ':' ∧ insideBrackets = false then ([], some rest)
      else
        let (host, port) :=
          splitPort (character = '[' || (insideBrackets && character ≠ ']')) rest
        (character :: host, port)

/-- The host of a special scheme is not empty. -/
def requireHost (parseHost : Text → Option Host) (text : Text) : Option Host :=
  if text.isEmpty then none else parseHost text

def parsePort (default : Nat) (text : Text) : Option (Option Nat) :=
  if text.isEmpty then some none
  else if text.all Char.isDigit then
    (Text.parseNat (2 ^ 16) text).map fun port => if port = default then none else some port
  else none

def username (userinfo : Text) : Text :=
  percentEncode userinfoSet (userinfo.takeWhile fun character => character ≠ ':')

/-- An empty password is none. -/
def password (userinfo : Text) : Option Text :=
  match userinfo.dropWhile fun character => character ≠ ':' with
  | _ :: character :: rest => some (percentEncode userinfoSet (character :: rest))
  | _ => none

/-! #### The path -/

def isSingleDot (segment : Text) : Bool :=
  [".", "%2e"].any fun dot => Text.lowerAscii segment = dot.toList

def isDoubleDot (segment : Text) : Bool :=
  ["..", ".%2e", "%2e.", "%2e%2e"].any fun dots => Text.lowerAscii segment = dots.toList

/-- A segment behind those before it; dots in the last place leave an empty one. -/
def addSegment (path : List Text) (segment : Text) (last : Bool) : List Text :=
  let ending : List Text := if last then [[]] else []
  if isDoubleDot segment then path.dropLast ++ ending
  else if isSingleDot segment then path ++ ending
  else path ++ [percentEncode pathSet segment]

def addSegments (path : List Text) : List Text → List Text
  | [] => path
  | [segment] => addSegment path segment true
  | segment :: rest => addSegments (addSegment path segment false) rest

/-- Both slashes separate segments; one in front of the first is left out. -/
def parsePath (text : Text) : List Text :=
  let slashed := text.map fun character => if isSlash character then '/' else character
  addSegments [] (Text.splitOn '/' (if slashed.head? = some '/' then slashed.tail else slashed))

def parseQuery (text : Text) : Option Text :=
  match text with
  | '?' :: rest => some (percentEncode querySet (rest.takeWhile fun character => character ≠ '#'))
  | _ => none

def parseFragment (text : Text) : Option Text :=
  match text.dropWhile fun character => character ≠ '#' with
  | _ :: rest => some (percentEncode fragmentSet rest)
  | [] => none

/-! #### The parser -/

def parse (parseHost : Text → Option Host) (text : Text) : Option Record := do
  let front ← parseScheme (clean text)
  let defaultPort ← defaultPorts.lookup front.1
  let rest := front.2.dropWhile isSlash
  let authority := splitUserinfo (rest.takeWhile fun character => !endsAuthority character)
  let rest := rest.dropWhile fun character => !endsAuthority character
  let hostPort := splitPort false authority.2
  let host ← requireHost parseHost hostPort.1
  let port ← parsePort defaultPort (hostPort.2.getD [])
  let behindPath := rest.dropWhile fun character => !endsPath character
  return {
    scheme := front.1
    username := username (authority.1.getD [])
    password := password (authority.1.getD [])
    host
    port
    path := parsePath (rest.takeWhile fun character => !endsPath character)
    query := parseQuery behindPath
    fragment := parseFragment behindPath }

/-! ### Plain texts -/

section Parts

variable (text : Text)

def schemeText : Text :=
  text.takeWhile fun character => character ≠ ':'

def behindScheme : Text :=
  (text.dropWhile fun character => character ≠ ':').tail

def slashes : Text :=
  (behindScheme text).takeWhile isSlash

def behindSlashes : Text :=
  (behindScheme text).dropWhile isSlash

def authorityText : Text :=
  (behindSlashes text).takeWhile fun character => !endsAuthority character

def behindAuthority : Text :=
  (behindSlashes text).dropWhile fun character => !endsAuthority character

/-- A text with two slashes, up to its path. -/
def frontText : Text :=
  schemeText text ++ ':' :: '/' :: '/' :: authorityText text

end Parts

/-- A character of an authority that consists of nothing but a host, and that no host parser
changes. -/
def isPlain (character : Char) : Bool :=
  character.toNat < 128 && !character.isUpper && !isRemoved character && character ≠ '%' &&
    character ≠ '@' && character ≠ ':'

/-- No label of a host is in Punycode. -/
def NoPunycode (host : Text) : Prop :=
  ∀ label ∈ Text.splitOn '.' host, Text.startsWith (Text.lowerAscii label) "xn--".toList = false

/-- A host that is in ASCII as it stands, without Punycode, is a domain in lower case, if it is one
at all. -/
def LowersAscii (parseHost : Text → Option Host) : Prop :=
  ∀ host name, (∀ character ∈ host, character.toNat < 128 ∧ character ≠ '%') → NoPunycode host →
    parseHost host = some (.domain name) → name = Text.lowerAscii host

/-- Up to its path a text is spelled as a parser prints it: nothing is stripped in front, the scheme
and the host are in lower case, with nothing in them that is removed or decoded, two slashes stand
between them, the authority has no user and no port, and a slash follows it. -/
structure Plain (text : Text) : Prop where
  begins : ∀ character ∈ text.head?, isStripped character = false
  scheme : ∀ character ∈ schemeText text, isRemoved character = false ∧ character.isUpper = false
  slashes : slashes text = ['/', '/']
  authority : ∀ character ∈ authorityText text, isPlain character = true
  labels : NoPunycode (authorityText text)
  path : (behindAuthority text).head? = some '/'

/-! ### A plain text is read as it is written -/

theorem rdropWhile_append_cons {test : Char → Bool} (front rest : Text) {stop : Char}
    (stops : test stop = false) :
    ∃ rest', (front ++ stop :: rest).rdropWhile test = front ++ stop :: rest' := by
  induction rest using List.reverseRecOn with
  | nil => exact ⟨[], List.rdropWhile_concat_neg _ _ _ (by simp [stops])⟩
  | append_singleton rest last ih =>
      rw [← List.cons_append, ← List.append_assoc]
      by_cases dropped : test last = true
      · rw [List.rdropWhile_concat_pos _ _ _ dropped]
        exact ih
      · rw [List.rdropWhile_concat_neg _ _ _ dropped, List.append_assoc]
        exact ⟨_, rfl⟩

/-- What is cleaned of a text whose front needs no cleaning stands behind that front. -/
theorem clean_append {front rest : Text} {stop : Char}
    (begins : ∀ character ∈ (front ++ stop :: rest).head?, isStripped character = false)
    (kept : ∀ character ∈ front ++ [stop], isRemoved character = false)
    (stops : isStripped stop = false) :
    ∃ rest', clean (front ++ stop :: rest) = front ++ stop :: rest' := by
  obtain ⟨stripped, isRest⟩ := rdropWhile_append_cons front rest stops
  have keeps : (front ++ [stop]).filter (fun character => !isRemoved character) = front ++ [stop] :=
    List.filter_eq_self.mpr fun character member => by simp [kept character member]
  refine ⟨stripped.filter fun character => !isRemoved character, ?_⟩
  rw [clean, Text.dropWhile_of_head? begins, isRest, List.append_cons, List.filter_append, keeps,
    ← List.append_cons]

theorem parseScheme_eq_some {text : Text} {front : Text × Text}
    (parsed : parseScheme text = some front) :
    ∃ scheme, text = scheme ++ ':' :: front.2 ∧ ':' ∉ scheme ∧ front.1 = Text.lowerAscii scheme := by
  have whole := List.takeWhile_append_dropWhile (p := isSchemeCharacter) (l := text)
  unfold parseScheme at parsed
  cases behind : text.dropWhile isSchemeCharacter with
  | nil =>
      rw [behind] at parsed
      cases parsed
  | cons separator rest =>
      rw [behind] at parsed whole
      dsimp only at parsed
      split at parsed
      · rename_i same
        obtain ⟨_, isFront⟩ := Option.ite_none_right_eq_some.mp parsed
        cases isFront
        cases same
        refine ⟨_, whole.symm, fun member => ?_, rfl⟩
        have isScheme := List.mem_takeWhile_imp member
        cases isScheme
      · cases parsed

theorem splitUserinfo_of_not_mem {authority : Text} (noUser : '@' ∉ authority) :
    splitUserinfo authority = (none, authority) := by
  have whole : authority.rtakeWhile (fun character => character ≠ '@') = authority := by
    refine List.rtakeWhile_eq_self_iff.mpr fun character member => ?_
    exact decide_eq_true (ne_of_mem_of_not_mem member noUser)
  rw [splitUserinfo, whole, if_neg noUser]

theorem splitPort_of_not_mem {host : Text} (noPort : ':' ∉ host) (insideBrackets : Bool) :
    splitPort insideBrackets host = (host, none) := by
  induction host generalizing insideBrackets with
  | nil => rfl
  | cons character host ih =>
      have ne : character ≠ ':' := fun same => noPort (same ▸ List.mem_cons_self)
      rw [splitPort, if_neg (fun colon => ne colon.1),
        ih fun member => noPort (List.mem_cons_of_mem _ member)]

theorem parse_eq_some {parseHost : Text → Option Host} {text : Text} {record : Record}
    (parsed : parse parseHost text = some record) :
    ∃ front, parseScheme (clean text) = some front ∧ record.scheme = front.1 ∧
      parseHost (splitPort false (splitUserinfo ((front.2.dropWhile isSlash).takeWhile
        fun character => !endsAuthority character)).2).1 = some record.host := by
  obtain ⟨front, isFront, parsed⟩ := Option.bind_eq_some_iff.mp parsed
  obtain ⟨defaultPort, _, parsed⟩ := Option.bind_eq_some_iff.mp parsed
  obtain ⟨host, isHost, parsed⟩ := Option.bind_eq_some_iff.mp parsed
  obtain ⟨port, _, parsed⟩ := Option.bind_eq_some_iff.mp parsed
  cases parsed
  exact ⟨front, isFront, rfl, (Option.ite_none_left_eq_some.mp isHost).2⟩

namespace Plain

variable {text : Text}

theorem behindScheme_eq (plain : Plain text) :
    behindScheme text = '/' :: '/' :: behindSlashes text := by
  have parts := List.takeWhile_append_dropWhile (p := isSlash) (l := behindScheme text)
  have two : (behindScheme text).takeWhile isSlash = ['/', '/'] := plain.slashes
  rw [two] at parts
  exact parts.symm

theorem behindSlashes_eq (plain : Plain text) :
    ∃ rest, behindSlashes text = authorityText text ++ '/' :: rest := by
  obtain ⟨rest, isPath⟩ := List.head?_eq_some_iff.mp plain.path
  exact ⟨rest, by rw [← isPath, authorityText, behindAuthority, List.takeWhile_append_dropWhile]⟩

/-- The parts of a text, up to its path. -/
theorem spelled (plain : Plain text) : ∃ rest, text = frontText text ++ '/' :: rest := by
  obtain ⟨rest, isRest⟩ := plain.behindSlashes_eq
  have behind := plain.behindScheme_eq
  have parts := List.takeWhile_append_dropWhile (p := fun character => character ≠ ':') (l := text)
  have stops := List.head?_dropWhile_not (fun character => decide (character ≠ ':')) text
  unfold behindScheme at behind
  cases colon : text.dropWhile fun character => character ≠ ':' with
  | nil =>
      rw [colon] at behind
      cases behind
  | cons separator tail =>
      rw [colon] at behind parts stops
      have isColon : separator = ':' := by simpa using stops
      rw [List.tail_cons, isRest] at behind
      rw [isColon, behind] at parts
      refine ⟨rest, parts.symm.trans ?_⟩
      rw [frontText, List.append_assoc]
      rfl

/-- The authority is not empty: a third slash would be one of those in front of it. -/
theorem authority_stops (plain : Plain text) (rest : Text) :
    ∀ character ∈ (authorityText text ++ rest).head?, isSlash character = false := by
  cases isAuthority : authorityText text with
  | nil =>
      obtain ⟨behind, isBehind⟩ := plain.behindSlashes_eq
      rw [isAuthority] at isBehind
      have stops := List.head?_dropWhile_not isSlash (behindScheme text)
      change (behindScheme text).dropWhile isSlash = _ at isBehind
      rw [isBehind] at stops
      cases stops
  | cons first others =>
      have member : first ∈ authorityText text := isAuthority ▸ List.mem_cons_self
      have inside := List.mem_takeWhile_imp member
      simp only [endsAuthority, Bool.not_eq_true', Bool.or_eq_false_iff] at inside
      rintro _ ⟨⟩
      exact inside.1

theorem not_removed (plain : Plain text) :
    ∀ character ∈ frontText text ++ ['/'], isRemoved character = false := by
  intro character member
  simp only [frontText, List.mem_append, List.mem_cons, List.not_mem_nil, or_false] at member
  rcases member with (inScheme | rfl | rfl | rfl | inAuthority) | rfl
  · exact (plain.scheme character inScheme).1
  · rfl
  · rfl
  · rfl
  · have host := plain.authority character inAuthority
    simp only [isPlain, Bool.and_eq_true, Bool.not_eq_true'] at host
    exact host.1.1.1.2
  · rfl

theorem not_mem_authority (plain : Plain text) {character : Char}
    (special : isPlain character = false) : character ∉ authorityText text :=
  fun member => Bool.false_ne_true (special.symm.trans (plain.authority character member))

/-- Cleaning changes nothing up to the path. -/
theorem cleaned (plain : Plain text) : ∃ rest, clean text = frontText text ++ '/' :: rest := by
  obtain ⟨rest, isText⟩ := plain.spelled
  have begins : ∀ character ∈ (frontText text ++ '/' :: rest).head?,
      isStripped character = false := by
    rw [← isText]
    exact plain.begins
  obtain ⟨rest', cleaned⟩ := clean_append begins plain.not_removed rfl
  rw [← isText] at cleaned
  exact ⟨rest', cleaned⟩

/-- The authority is found behind the slashes. -/
theorem authority_read (plain : Plain text) (rest : Text) :
    (('/' :: '/' :: (authorityText text ++ '/' :: rest)).dropWhile isSlash).takeWhile
      (fun character => !endsAuthority character) = authorityText text := by
  have inside : ∀ character ∈ authorityText text, (!endsAuthority character) = true :=
    fun _ => List.mem_takeWhile_imp (p := fun character => !endsAuthority character)
  rw [List.dropWhile_cons_of_pos rfl, List.dropWhile_cons_of_pos rfl,
    Text.dropWhile_of_head? (plain.authority_stops _), List.takeWhile_append_of_pos inside]
  exact List.append_nil _

/-- A domain that is read is the authority as it stands. -/
theorem domain_eq (plain : Plain text) {parseHost : Text → Option Host}
    (lowers : LowersAscii parseHost) {name : Text}
    (isDomain : parseHost (authorityText text) = some (.domain name)) :
    name = authorityText text := by
  have inAscii : ∀ character ∈ authorityText text, character.toNat < 128 ∧ character ≠ '%' := by
    intro character member
    have host := plain.authority character member
    simp only [isPlain, Bool.and_eq_true, decide_eq_true_eq] at host
    exact ⟨host.1.1.1.1.1, host.1.1.2⟩
  have notUpper : ∀ character ∈ authorityText text, character.isUpper = false := by
    intro character member
    have host := plain.authority character member
    simp only [isPlain, Bool.and_eq_true, Bool.not_eq_true'] at host
    exact host.1.1.1.1.2
  exact (lowers _ name inAscii plain.labels isDomain).trans (Text.lowerAscii_of_not_upper notUpper)

/-- What a parser finds in a plain text is what stands there. -/
theorem read (plain : Plain text) {parseHost : Text → Option Host} {record : Record}
    (parsed : parse parseHost text = some record) :
    (∃ rest, text =
      record.scheme ++ ':' :: '/' :: '/' :: (authorityText text ++ '/' :: rest)) ∧
    parseHost (authorityText text) = some record.host := by
  obtain ⟨rest, isText⟩ := plain.spelled
  obtain ⟨rest', cleaned⟩ := plain.cleaned
  obtain ⟨front, isFront, isScheme, isHost⟩ := parse_eq_some parsed
  obtain ⟨scheme, whole, noColon, lowered⟩ := parseScheme_eq_some isFront
  have noColon' : ':' ∉ schemeText text := fun member => by
    simpa using List.mem_takeWhile_imp member
  have same : schemeText text ++ ':' :: '/' :: '/' :: (authorityText text ++ '/' :: rest') =
      scheme ++ ':' :: front.2 := by
    rw [← whole, cleaned, frontText, List.append_assoc]
    rfl
  obtain ⟨sameScheme, sameRest⟩ := Text.append_cons_unique same noColon' noColon
  have schemeRead : record.scheme = schemeText text := by
    rw [isScheme, lowered, ← sameScheme]
    exact Text.lowerAscii_of_not_upper fun character member => (plain.scheme character member).2
  rw [← sameRest, plain.authority_read, splitUserinfo_of_not_mem (plain.not_mem_authority rfl),
    splitPort_of_not_mem (plain.not_mem_authority rfl)] at isHost
  refine ⟨⟨rest, ?_⟩, isHost⟩
  rw [schemeRead]
  refine isText.trans ?_
  rw [frontText, List.append_assoc]
  rfl

end Plain

end WebUrl
