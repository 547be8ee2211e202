import StatusDashboard.Process.Automaton
import StatusDashboard.Static.Response

namespace StatusDashboard.Static

open Storage

/-!
# The static proxy

Each request is served by a handler of its own, on a context object that the
router takes from a pool and returns to it when the handler is done.  A handler
that misses the cache shares a fetch with the others that wait for the same
key.  The fetch runs on its own, starts at any later time, and reads the request
from the context object of the handler that began it, whoever holds that object
by then.

The moves of all handlers and fetches are interleaved as the labels say, which
also choose what the origins answer.  A log records what happened, newest first.
-/

structure Options where
  origins : List Text
  ttl : Int
  maxBytes : Nat
deriving DecidableEq, Repr

/-- One walk over the origins: that of a shared fetch, or a handler's own. -/
inductive Walk where
  | fetch (flight : Nat)
  | stream (handler : Nat)
deriving DecidableEq, Repr

/-- The values of the cache header, and the plain error. -/
inductive CacheStatus where
  | hit
  | miss
  | stale
  | badGateway
deriving DecidableEq, Repr

structure Response where
  handler : Nat
  request : Request
  served : CacheStatus
  status : Nat
  header : Header
  body : List UInt8
  /-- The clock when the cache was asked. -/
  asked : Time

inductive Record where
  | joined (handler flight : Nat)
  | streams (handler : Nat)
  | cancelled (handler : Nat)
  | gave (walk : Walk) (origin : Text) (request : Request) (reply : Option Reply) (time : Time)
  | answered (response : Response)

inductive FlightState where
  | pending
  | walking (request : Request) (remaining : List Text)
  | fetched (entry : Entry)
  /-- The closure has returned. -/
  | returned (result : Except FetchError Entry)
  /-- The result is with the waiting handlers. -/
  | finished (result : Except FetchError Entry)

structure Flight where
  key : Text
  /-- The context object the closure refers to. -/
  context : Nat
  state : FlightState

inductive Phase where
  | started
  | missed
  | waiting (flight : Nat)
  | streaming (remaining : List Text)
  | unavailable
  | expired
  | done
deriving DecidableEq, Repr

structure Handler where
  context : Nat
  request : Request
  phase : Phase

structure Proxy where
  cache : Cache
  /-- The request each context object holds, also after its handler has returned. -/
  contexts : Nat → Option Request
  /-- The context objects of handlers that have not returned. -/
  busy : Nat → Bool
  handlers : Nat → Option Handler
  arrived : Nat
  flights : Nat → Option Flight
  begun : Nat
  /-- The fetch in progress for a key. -/
  group : Text → Option Nat
  log : List Record

def newProxy (options : Options) : Proxy :=
  { cache := newCache options.maxBytes
    contexts := fun _ => none
    busy := fun _ => false
    handlers := fun _ => none
    arrived := 0
    flights := fun _ => none
    begun := 0
    group := fun _ => none
    log := [] }

namespace Proxy

def setPhase (proxy : Proxy) (id : Nat) (handler : Handler) (phase : Phase) : Proxy :=
  { proxy with handlers := Function.update proxy.handlers id (some { handler with phase }) }

def setFlight (proxy : Proxy) (id : Nat) (flight : Flight) (state : FlightState) : Proxy :=
  { proxy with flights := Function.update proxy.flights id (some { flight with state }) }

def record (proxy : Proxy) (entry : Record) : Proxy :=
  { proxy with log := entry :: proxy.log }

/-- The handler returns, and its context object goes back to the pool. -/
def finishHandler (proxy : Proxy) (id : Nat) (handler : Handler) : Proxy :=
  { proxy.setPhase id handler .done with
    busy := Function.update proxy.busy handler.context false }

/-- Send a response and return. -/
def answer (proxy : Proxy) (id : Nat) (handler : Handler) (served : CacheStatus) (status : Nat)
    (header : Header) (body : List UInt8) (asked : Time) : Proxy :=
  (proxy.record (.answered ⟨id, handler.request, served, status, header, body, asked⟩)).finishHandler
    id handler

/-- A buffered response is sent without its body to a `HEAD` request. -/
def writeEntry (proxy : Proxy) (id : Nat) (handler : Handler) (entry : Entry) (served : CacheStatus)
    (asked : Time) : Proxy :=
  proxy.answer id handler served entry.status entry.header
    (if handler.request.method = .head then [] else entry.body) asked

/-- A handler begins to copy a response through, or has no origin to ask. -/
def serveStream (options : Options) (proxy : Proxy) (id : Nat) (handler : Handler) : Proxy :=
  (proxy.record (.streams id)).setPhase id handler
    (if options.origins = [] then .unavailable else .streaming options.origins)

end Proxy

/-- The moves of the router, the handlers, the fetches and the origins. -/
inductive Move where
  /-- A request arrives on a context object from the pool. -/
  | arrive (context : Nat) (request : Request)
  /-- A handler asks the cache. -/
  | lookup (handler : Nat) (now : Time)
  /-- A handler that missed joins the fetch of its key, or begins one. -/
  | share (handler : Nat)
  /-- The goroutine of a fetch starts. -/
  | start (flight : Nat)
  /-- The next origin answers a fetch, or does not. -/
  | fetch (flight : Nat) (reply : Option Reply) (now : Time)
  /-- A fetch stores what it got, where that may be stored. -/
  | store (flight : Nat)
  /-- The result of a fetch goes to the waiting handlers, and its key is free again. -/
  | finish (flight : Nat)
  /-- A waiting handler receives the result. -/
  | receive (handler : Nat)
  /-- The caller of a waiting handler is gone. -/
  | cancel (handler : Nat)
  /-- The next origin answers a handler that copies through, or does not. -/
  | relay (handler : Nat) (reply : Option Reply) (now : Time)
  /-- A handler no origin could serve asks the cache again. -/
  | fallBack (handler : Nat) (now : Time)
  /-- And once more, regardless of the expiry. -/
  | fallBackStale (handler : Nat)

/-- What the walk of a fetch does with the answer of an origin. -/
def fetchState (options : Options) (request : Request) (others : List Text)
    (reply : Option Reply) (now : Time) : FlightState :=
  let onward : FlightState :=
    if others = [] then .returned (.error .originUnavailable) else .walking request others
  match reply with
  | none => onward
  | some reply =>
    if failedStatus reply.status then onward
    else
      match buffer options.ttl now reply with
      | .ok entry => .fetched entry
      | .error .objectTooLarge => .returned (.error .objectTooLarge)
      | .error _ => onward

def step (options : Options) (proxy : Proxy) : Move → Option Proxy
  | .arrive context request =>
    if proxy.busy context then none
    else some { proxy with
      contexts := Function.update proxy.contexts context (some request)
      busy := Function.update proxy.busy context true
      handlers := Function.update proxy.handlers proxy.arrived
        (some ⟨context, request, .started⟩)
      arrived := proxy.arrived + 1 }
  | .lookup id now =>
    match proxy.handlers id with
    | some handler =>
      if handler.phase = .started then
        match handler.request.method with
        | .other => some (proxy.finishHandler id handler)
        | method =>
          let (touched, found) := proxy.cache.get (cacheKey handler.request) now
          let asked := { proxy with cache := touched }
          match found with
          | some entry => some (asked.writeEntry id handler entry .hit now)
          | none =>
            if method = .get then some (asked.setPhase id handler .missed)
            else some (asked.serveStream options id handler)
      else none
    | none => none
  | .share id =>
    match proxy.handlers id with
    | some handler =>
      if handler.phase = .missed then
        let key := cacheKey handler.request
        match proxy.group key with
        | some flight =>
          some ((proxy.record (.joined id flight)).setPhase id handler (.waiting flight))
        | none =>
          let begun := { proxy with
            flights := Function.update proxy.flights proxy.begun
              (some ⟨key, handler.context, .pending⟩)
            begun := proxy.begun + 1
            group := Function.update proxy.group key (some proxy.begun) }
          some ((begun.record (.joined id proxy.begun)).setPhase id handler
            (.waiting proxy.begun))
      else none
    | none => none
  | .start id =>
    match proxy.flights id with
    | some flight =>
      match flight.state, proxy.contexts flight.context with
      | .pending, some request =>
        some (proxy.setFlight id flight
          (if options.origins = [] then .returned (.error .originUnavailable)
            else .walking request options.origins))
      | _, _ => none
    | none => none
  | .fetch id reply now =>
    match proxy.flights id with
    | some flight =>
      match flight.state with
      | .walking request (origin :: others) =>
        some ((proxy.record (.gave (.fetch id) origin request reply now)).setFlight id flight
          (fetchState options request others reply now))
      | _ => none
    | none => none
  | .store id =>
    match proxy.flights id with
    | some flight =>
      match flight.state with
      | .fetched entry =>
        let stored :=
          if entry.storable then { proxy with cache := proxy.cache.put flight.key entry }
          else proxy
        some (stored.setFlight id flight (.returned (.ok entry)))
      | _ => none
    | none => none
  | .finish id =>
    match proxy.flights id with
    | some flight =>
      match flight.state with
      | .returned result =>
        some ({ proxy with group := Function.update proxy.group flight.key none }.setFlight
          id flight (.finished result))
      | _ => none
    | none => none
  | .receive id =>
    match proxy.handlers id with
    | some handler =>
      match handler.phase with
      | .waiting awaited =>
        match proxy.flights awaited with
        | some flight =>
          match flight.state with
          | .finished (.ok entry) =>
            some (proxy.writeEntry id handler entry .miss zeroTime)
          | .finished (.error .objectTooLarge) =>
            some (proxy.serveStream options id handler)
          | .finished (.error _) => some (proxy.setPhase id handler .unavailable)
          | _ => none
        | none => none
      | _ => none
    | none => none
  | .cancel id =>
    match proxy.handlers id with
    | some handler =>
      match handler.phase with
      | .waiting _ =>
        some ((proxy.record (.cancelled id)).setPhase id handler .unavailable)
      | _ => none
    | none => none
  | .relay id reply now =>
    match proxy.handlers id with
    | some handler =>
      match handler.phase with
      | .streaming (origin :: others) =>
        let given := proxy.record (.gave (.stream id) origin handler.request reply now)
        let onward := given.setPhase id handler
          (if others = [] then .unavailable else .streaming others)
        match reply with
        | none => some onward
        | some reply =>
          if failedStatus reply.status then some onward
          else some (given.answer id handler .miss reply.status
            (responseHeaders reply.header) reply.body zeroTime)
      | _ => none
    | none => none
  | .fallBack id now =>
    match proxy.handlers id with
    | some handler =>
      if handler.phase = .unavailable then
        if cacheKey handler.request ≠ [] then
          let (touched, found) := proxy.cache.get (cacheKey handler.request) now
          let asked := { proxy with cache := touched }
          match found with
          | some entry => some (asked.writeEntry id handler entry .hit now)
          | none => some (asked.setPhase id handler .expired)
        else some (proxy.answer id handler .badGateway 502 []
          (text "static origin unavailable") now)
      else none
    | none => none
  | .fallBackStale id =>
    match proxy.handlers id with
    | some handler =>
      if handler.phase = .expired then
        let (touched, found) := proxy.cache.getStale (cacheKey handler.request)
        let asked := { proxy with cache := touched }
        match found with
        | some entry => some (asked.writeEntry id handler entry .stale zeroTime)
        | none => some (asked.answer id handler .badGateway 502 []
            (text "static origin unavailable") zeroTime)
      else none
    | none => none

end StatusDashboard.Static
