import StatusDashboard.Static.Url

namespace StatusDashboard.Static

open Storage

/-!
# Origin responses

What the proxy makes of one response of an origin: the headers it forwards, how
long the response may be kept, and the entry built from it.
-/

def maxObjectBytes : Nat := 8 * 2 ^ 20

/-- Seconds are counted in nanoseconds, in 64 bits. -/
def seconds (count : Int) : Int := Int.bmod (count * 1000000000) (2 ^ 64)

section Texts

/-- The encodings of the characters that count as white space. -/
def spaces : List Text :=
  [[9], [10], [11], [12], [13], [32], [0xC2, 0x85], [0xC2, 0xA0], [0xE1, 0x9A, 0x80],
    [0xE2, 0x80, 0x80], [0xE2, 0x80, 0x81], [0xE2, 0x80, 0x82], [0xE2, 0x80, 0x83],
    [0xE2, 0x80, 0x84], [0xE2, 0x80, 0x85], [0xE2, 0x80, 0x86], [0xE2, 0x80, 0x87],
    [0xE2, 0x80, 0x88], [0xE2, 0x80, 0x89], [0xE2, 0x80, 0x8A], [0xE2, 0x80, 0xA8],
    [0xE2, 0x80, 0xA9], [0xE2, 0x80, 0xAF], [0xE2, 0x81, 0x9F], [0xE3, 0x80, 0x80]]

/-- Strip leading occurrences of the marks; each turn strips one of them. -/
def stripLeft (marks : List Text) : Nat → Text → Text
  | 0, value => value
  | turns + 1, value =>
    match marks.find? (fun mark => mark.isPrefixOf value) with
    | none => value
    | some mark => stripLeft marks turns (value.drop mark.length)

def trimMarks (marks : List Text) (value : Text) : Text :=
  let left := stripLeft marks value.length value
  (stripLeft (marks.map List.reverse) left.length left.reverse).reverse

def trimSpace (value : Text) : Text := trimMarks spaces value

/-- Without the quotation marks around it. -/
def trimQuotes (value : Text) : Text := trimMarks [text "\""] value

def splitAt (separator : UInt8) : Text → List Text
  | [] => [[]]
  | byte :: rest =>
    if byte = separator then [] :: splitAt separator rest
    else
      match splitAt separator rest with
      | [] => [[byte]]
      | part :: parts => (byte :: part) :: parts

/-- The text before the first equals sign and the text after it. -/
def cutEquals (value : Text) : Text × Text :=
  (value.takeWhile (fun byte => decide (byte ≠ 61)),
    (value.dropWhile (fun byte => decide (byte ≠ 61))).drop 1)

def toLower (value : Text) : Text :=
  value.map (fun byte => if 65 ≤ byte && byte ≤ 90 then byte + 32 else byte)

def digits (value : Text) : Option Nat :=
  if value ≠ [] ∧ value.all isDigit then
    some (value.foldl (fun number byte => number * 10 + (byte - 48).toNat) 0)
  else none

/-- The decimal number a text denotes, within 64 bits. -/
def atoi (value : Text) : Option Int :=
  let number : Option Int :=
    match value with
    | 45 :: rest => (digits rest).map (fun count => -(count : Int))
    | 43 :: rest => (digits rest).map (fun count => (count : Int))
    | _ => (digits value).map (fun count => (count : Int))
  number.filter (fun number => decide (-(2 ^ 63) ≤ number ∧ number < 2 ^ 63))

end Texts

section Headers

/-- The bytes a header name may consist of. -/
def tokenByte (byte : UInt8) : Bool :=
  isLetter byte || isDigit byte || (text "!#$%&'*+-.^_|~").contains byte || byte == 96

/-- Upper case at the start and behind each dash, lower case elsewhere. -/
def capitalize : Bool → Text → Text
  | _, [] => []
  | upper, byte :: rest =>
    let spelled :=
      if upper && 97 ≤ byte && byte ≤ 122 then byte - 32
      else if !upper && 65 ≤ byte && byte ≤ 90 then byte + 32
      else byte
    spelled :: capitalize (byte == 45) rest

def canonicalHeaderKey (name : Text) : Text :=
  if name.all tokenByte then capitalize true name else name

def Header.values (header : Header) (name : String) : List Text :=
  (header.find? (fun field => decide (field.1 = text name))).elim [] Prod.snd

def passThroughHeader (name : Text) : Bool :=
  [text "Content-Type", text "Content-Length", text "Cache-Control", text "Etag",
    text "Last-Modified", text "Content-Encoding"].contains (canonicalHeaderKey name)

def responseHeaders (source : Header) : Header :=
  (source.filter (fun field => passThroughHeader field.1)).map
    (fun field => (canonicalHeaderKey field.1, field.2))

structure CacheDirectives where
  noStore : Bool
  noCache : Bool
  maxAge : Int
  sMaxAge : Int
deriving DecidableEq, Repr

def parseSeconds (value : Text) (current : Int) : Int :=
  match atoi value with
  | none => current
  | some count => if count < 0 then current else count

def applyDirective (directives : CacheDirectives) (part : Text) : CacheDirectives :=
  let (name, raw) := cutEquals (trimSpace part)
  let argument := trimQuotes raw
  if toLower name = text "no-store" then { directives with noStore := true }
  else if toLower name = text "no-cache" then { directives with noCache := true }
  else if toLower name = text "max-age" then
    { directives with maxAge := parseSeconds argument directives.maxAge }
  else if toLower name = text "s-maxage" then
    { directives with sMaxAge := parseSeconds argument directives.sMaxAge }
  else directives

def parseCacheControl (header : Header) : CacheDirectives :=
  ((Header.values header "Cache-Control").flatMap (splitAt 44)).foldl applyDirective
    ⟨false, false, -1, -1⟩

/-- The lifetime of a response; `none` where it may not be stored. -/
def cacheTTL (header : Header) (fallback : Int) : Option Int :=
  let directives := parseCacheControl header
  if directives.noStore then none
  else if directives.noCache then some 0
  else if 0 ≤ directives.sMaxAge then some (seconds directives.sMaxAge)
  else if 0 ≤ directives.maxAge then some (seconds directives.maxAge)
  else some fallback

end Headers

/-- What an origin sends: the body up to where it ends or breaks off. -/
structure Reply where
  status : Nat
  header : Header
  contentLength : Int
  body : List UInt8
  broken : Bool
  closeFails : Bool
deriving DecidableEq, Repr

def failedStatus (status : Nat) : Bool := status == 502 || status == 504

inductive FetchError where
  | objectTooLarge
  | unreadable
  | originUnavailable
deriving DecidableEq, Repr

/-- Read at most one byte more than an object may have. -/
def Reply.readAll (reply : Reply) : Option (List UInt8) :=
  if reply.broken && reply.body.length ≤ maxObjectBytes then none
  else some (reply.body.take (maxObjectBytes + 1))

def buffer (ttl : Int) (now : Time) (reply : Reply) : Except FetchError Entry :=
  if (maxObjectBytes : Int) < reply.contentLength then .error .objectTooLarge
  else
    match reply.readAll with
    | none => .error .unreadable
    | some body =>
      if reply.closeFails then .error .unreadable
      else if maxObjectBytes < body.length then .error .objectTooLarge
      else
        let entry : Entry := ⟨reply.status, responseHeaders reply.header, body, zeroTime, false⟩
        if reply.status = 200 then
          match cacheTTL reply.header ttl with
          | none => .ok entry
          | some lifetime => .ok { entry with storable := true, expires := now + lifetime }
        else .ok entry

theorem readAll_complete {reply : Reply} {body : List UInt8} (read : reply.readAll = some body)
    (small : ¬ maxObjectBytes < body.length) :
    body = reply.body ∧ reply.body.length ≤ maxObjectBytes := by
  unfold Reply.readAll at read
  split_ifs at read with broken
  obtain rfl := Option.some.inj read
  rw [List.length_take] at small
  have short : reply.body.length ≤ maxObjectBytes := by omega
  exact ⟨List.take_of_length_le (Nat.le_succ_of_le short), short⟩

/-- Everything the buffering of a response can come to. -/
theorem buffer_cases (ttl : Int) (now : Time) (reply : Reply) :
    buffer ttl now reply = .error .objectTooLarge
      ∨ (buffer ttl now reply = .error .unreadable
          ∧ (reply.readAll = none ∨ reply.closeFails = true))
      ∨ ∃ entry, buffer ttl now reply = .ok entry
          ∧ entry.status = reply.status ∧ entry.header = responseHeaders reply.header
          ∧ entry.body = reply.body ∧ reply.body.length ≤ maxObjectBytes
          ∧ (entry.storable = true →
              reply.status = 200 ∧ (parseCacheControl reply.header).noStore = false) := by
  unfold buffer
  by_cases announced : (maxObjectBytes : Int) < reply.contentLength
  · exact Or.inl (if_pos announced)
  rw [if_neg announced]
  cases read : reply.readAll with
  | none => exact Or.inr (Or.inl ⟨rfl, Or.inl rfl⟩)
  | some body =>
    simp only
    by_cases closing : reply.closeFails = true
    · exact Or.inr (Or.inl ⟨if_pos closing, Or.inr closing⟩)
    rw [if_neg closing]
    by_cases large : maxObjectBytes < body.length
    · exact Or.inl (if_pos large)
    rw [if_neg large]
    obtain ⟨rfl, short⟩ := readAll_complete read large
    by_cases ok : reply.status = 200
    · rw [if_pos ok]
      cases lifetime : cacheTTL reply.header ttl with
      | none => exact Or.inr (Or.inr ⟨_, rfl, rfl, rfl, rfl, short, by simp⟩)
      | some =>
        refine Or.inr (Or.inr ⟨_, rfl, rfl, rfl, rfl, short, fun _ => ⟨ok, ?_⟩⟩)
        cases marked : (parseCacheControl reply.header).noStore with
        | false => rfl
        | true => simp [cacheTTL, marked] at lifetime
    · rw [if_neg ok]
      exact Or.inr (Or.inr ⟨_, rfl, rfl, rfl, rfl, short, by simp⟩)

/-- An entry that may be stored is the response of an origin, complete and within the limit. -/
theorem buffer_storable {ttl : Int} {now : Time} {reply : Reply} {entry : Entry}
    (buffered : buffer ttl now reply = .ok entry) (storable : entry.storable = true) :
    entry.status = 200 ∧ entry.body = reply.body
      ∧ entry.header = responseHeaders reply.header
      ∧ (parseCacheControl reply.header).noStore = false
      ∧ reply.body.length ≤ maxObjectBytes := by
  rcases buffer_cases ttl now reply with large | ⟨unreadable, _⟩ |
    ⟨built, same, status, header, body, short, kept⟩
  · rw [large] at buffered
    cases buffered
  · rw [unreadable] at buffered
    cases buffered
  · rw [same] at buffered
    cases buffered
    obtain ⟨ok, marked⟩ := kept storable
    exact ⟨status.trans ok, body, header, marked, short⟩

end StatusDashboard.Static
