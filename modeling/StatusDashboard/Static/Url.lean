import StatusDashboard.Static.Cache

namespace StatusDashboard.Static

/-!
# Request targets

A request reaches the proxy as the server parsed it: the host, and the target
split into a decoded path, the raw path where it is not the standard escaping of
the decoded one, and the raw query.  The target asked of an origin is built from
these parts again.  Both directions follow the URL package of the language.
-/

def slash : UInt8 := 47
def question : UInt8 := 63
def percent : UInt8 := 37
def colon : UInt8 := 58

def isHex (byte : UInt8) : Bool :=
  (48 ≤ byte && byte ≤ 57) || (97 ≤ byte && byte ≤ 102) || (65 ≤ byte && byte ≤ 70)

def unhex (byte : UInt8) : UInt8 :=
  if 48 ≤ byte && byte ≤ 57 then byte - 48
  else if 97 ≤ byte && byte ≤ 102 then byte - 97 + 10
  else byte - 65 + 10

def upperHex (digit : UInt8) : UInt8 :=
  if digit < 10 then digit + 48 else digit - 10 + 65

def isLetter (byte : UInt8) : Bool :=
  (97 ≤ byte && byte ≤ 122) || (65 ≤ byte && byte ≤ 90)

def isDigit (byte : UInt8) : Bool := 48 ≤ byte && byte ≤ 57

/-- Whether a byte of a path has to be escaped. -/
def shouldEscape (byte : UInt8) : Bool :=
  if isLetter byte || isDigit byte then false
  else if (text "-_.~").contains byte then false
  else if (text "$&+,/:;=?@").contains byte then byte == question
  else true

def escape (path : Text) : Text :=
  path.flatMap (fun byte =>
    if shouldEscape byte then [percent, upperHex (byte / 16), upperHex (byte % 16)] else [byte])

/-- Decode the escapes of a path; a percent sign without two digits is an error. -/
def unescape : Text → Option Text
  | [] => some []
  | byte :: rest =>
    if byte = percent then
      match rest with
      | high :: low :: others =>
        if isHex high && isHex low then
          (unescape others).map (fun decoded => (unhex high * 16 + unhex low) :: decoded)
        else none
      | _ => none
    else (unescape rest).map (fun decoded => byte :: decoded)

def validEncoded (path : Text) : Bool :=
  path.all (fun byte =>
    (text "!$&'()*+,;=:@[]%").contains byte || !shouldEscape byte)

structure URL where
  scheme : Text
  opaquePart : Text
  path : Text
  rawPath : Text
  forceQuery : Bool
  rawQuery : Text
deriving DecidableEq, Repr

namespace URL

def setPath (url : URL) (raw : Text) : Option URL :=
  (unescape raw).map (fun path =>
    { url with path := path, rawPath := if raw = escape path then [] else raw })

def escapedPath (url : URL) : Text :=
  if url.rawPath ≠ [] ∧ validEncoded url.rawPath ∧ unescape url.rawPath = some url.path then
    url.rawPath
  else if url.path = text "*" then text "*"
  else escape url.path

/-- The part of the request target in front of the query. -/
def target (url : URL) : Text :=
  if url.opaquePart = [] then
    if url.escapedPath = [] then [slash] else url.escapedPath
  else if [slash, slash] <+: url.opaquePart then url.scheme ++ [colon] ++ url.opaquePart
  else url.opaquePart

def requestURI (url : URL) : Text :=
  if url.forceQuery || url.rawQuery ≠ [] then url.target ++ [question] ++ url.rawQuery
  else url.target

end URL

/-- The scheme in front of a target, and what follows; `none` where it is missing. -/
def getScheme (raw : Text) : Option (Text × Text) :=
  let name := raw.takeWhile (fun byte =>
    isLetter byte || isDigit byte || (text "+-.").contains byte)
  match name, raw.drop name.length with
  | [], byte :: _ => if byte = colon then none else some ([], raw)
  | first :: _, byte :: rest =>
    if byte = colon && isLetter first then some (name, rest) else some ([], raw)
  | _, [] => some ([], raw)

/-- The text in front of the first question mark, and the text after it. -/
def cutQuery (rest : Text) : Text × Text :=
  (rest.takeWhile (fun byte => decide (byte ≠ question)),
    (rest.dropWhile (fun byte => decide (byte ≠ question))).drop 1)

/-- What follows the authority, which a scheme and two slashes announce. -/
def afterAuthority (scheme rest : Text) : Text :=
  if scheme ≠ [] ∧ [slash, slash] <+: rest then
    (rest.drop 2).dropWhile (fun byte => decide (byte ≠ slash))
  else rest

/-- Parse a request target.  The authority of an absolute one becomes the host of the request. -/
def parseTarget (raw : Text) : Option URL :=
  if raw.any (fun byte => byte < 32 || byte == 127) || raw = [] then none
  else if raw = text "*" then some ⟨[], [], raw, [], false, []⟩
  else
    match getScheme raw with
    | none => none
    | some (scheme, rest) =>
      let forced := decide (rest.getLast? = some question ∧ rest.count question = 1)
      let front := if forced then rest.dropLast else (cutQuery rest).1
      let query := if forced then [] else (cutQuery rest).2
      if [slash] <+: front then
        URL.setPath ⟨scheme, [], [], [], forced, query⟩ (afterAuthority scheme front)
      else if scheme ≠ [] then some ⟨scheme, front, [], [], forced, query⟩
      else none

inductive Method where
  | get
  | head
  | other
deriving DecidableEq, Repr

/-- A request as the server hands it over: a checked host and a parsed target. -/
structure Request where
  method : Method
  host : Text
  url : URL
  plainHost : slash ∉ host ∧ question ∉ host
  parsed : ∃ raw, parseTarget raw = some url

/-- The request for a target the server can parse. -/
def Request.of (method : Method) (host raw : Text) (plain : slash ∉ host ∧ question ∉ host)
    (parses : (parseTarget raw).isSome) : Request :=
  ⟨method, host, (parseTarget raw).get parses, plain, raw, by simp⟩

theorem plainHost : slash ∉ text "status" ∧ question ∉ text "status" := by
  decide +kernel

def cacheKey (request : Request) : Text :=
  request.host ++ request.url.path ++ [question] ++ request.url.rawQuery

end StatusDashboard.Static
