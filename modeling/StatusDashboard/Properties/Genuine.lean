import StatusDashboard.Properties.Caching
import StatusDashboard.Static.Proxy

namespace StatusDashboard.Properties

open Storage Tables Static Process

/-!
# Where the answers of the proxy come from

An answer from the cache repeats a response that an origin gave to a request
with the same key, as long as every fetch asks for what its key names.  A fetch
that starts after its caller has left may find another request in the context
object it reads, and then stores the answer to that one under the old key.
-/

section Log

/-- What the origins answered on one walk, in order. -/
def replies (walk : Walk) : List Record → List (Text × Option Reply)
  | [] => []
  | .gave other origin _ reply _ :: log =>
    if other = walk then replies walk log ++ [(origin, reply)] else replies walk log
  | _ :: log => replies walk log

/-- The last walk made for a handler. -/
def lastWalk (handler : Nat) : List Record → Option Static.Walk
  | [] => none
  | .joined other flight :: log =>
    if other = handler then some (.fetch flight) else lastWalk handler log
  | .streams other :: log =>
    if other = handler then some (.stream other) else lastWalk handler log
  | _ :: log => lastWalk handler log

/-- The origin did not answer, failed, or sent what could not be read. -/
def Unusable : Option Reply → Prop
  | none => True
  | some reply => failedStatus reply.status = true ∨ reply.readAll = none ∨ reply.closeFails = true

/-- A walk asked every origin in order, and none was of use. -/
structure Exhausted (options : Options) (walk : Static.Walk) (log : List Record) : Prop where
  asked : (replies walk log).map Prod.fst = options.origins
  unusable : ∀ answer ∈ replies walk log, Unusable answer.2

/-- A walk is on its way: the origins asked so far were of no use. -/
structure Underway (options : Options) (walk : Static.Walk) (remaining : List Text)
    (log : List Record) : Prop where
  asked : (replies walk log).map Prod.fst ++ remaining = options.origins
  unusable : ∀ answer ∈ replies walk log, Unusable answer.2

/-- The caller is gone, or the last walk made for the handler was of no use. -/
def Excused (options : Options) (handler : Nat) (log : List Record) : Prop :=
  Record.cancelled handler ∈ log
    ∨ ∃ walk, lastWalk handler log = some walk ∧ Exhausted options walk log

/-- An entry was made from what an origin gave to a request with this key, and may be stored. -/
def Obtained (options : Options) (key : Text) (entry : Entry) (log : List Record) : Prop :=
  ∃ walk origin request reply time,
    Record.gave walk origin request (some reply) time ∈ log
      ∧ request.method = .get ∧ cacheKey request = key
      ∧ buffer options.ttl time reply = .ok entry ∧ entry.storable = true

/-- The answer repeats a response an origin gave earlier to a request with the same key. -/
def Genuine (options : Options) (earlier : List Record) (response : Response) : Prop :=
  ∃ walk origin request reply time entry,
    Record.gave walk origin request (some reply) time ∈ earlier
      ∧ request.method = .get ∧ cacheKey request = cacheKey response.request
      ∧ buffer options.ttl time reply = .ok entry
      ∧ response.status = 200
      ∧ response.header = responseHeaders reply.header
      ∧ response.body = (if response.request.method = .head then [] else reply.body)
      ∧ (parseCacheControl reply.header).noStore = false
      ∧ reply.body.length ≤ maxObjectBytes
      ∧ (response.served = .hit → response.asked < entry.expires)

/-- What is promised about one answer, from what was recorded before it. -/
structure Justified (options : Options) (earlier : List Record) (response : Response) : Prop where
  genuine : response.served = .hit ∨ response.served = .stale →
    Genuine options earlier response
  excused : response.served = .stale ∨ response.served = .badGateway →
    Excused options response.handler earlier

/-- Every answer of the log is justified by the part before it. -/
def AllJustified (options : Options) : List Record → Prop
  | [] => True
  | record :: earlier =>
    (∀ response, record = .answered response → Justified options earlier response)
      ∧ AllJustified options earlier

end Log

section Growth

/-- The walk a record belongs to. -/
def Record.walk? : Record → Option Static.Walk
  | .gave walk _ _ _ _ => some walk
  | _ => none

/-- The handler a record begins a walk for. -/
def Record.walker? : Record → Option Nat
  | .joined handler _ => some handler
  | .streams handler => some handler
  | _ => none

variable {options : Options} {log : List Record} {record : Record}

variable {walk : Static.Walk}

theorem replies_cons_other (other : Record.walk? record ≠ some walk) :
    replies walk (record :: log) = replies walk log := by
  cases record with
  | gave given =>
    have different : ¬ given = walk := fun same => other (congrArg some same)
    rw [replies, if_neg different]
  | _ => rfl

theorem replies_cons_gave (walk : Static.Walk) (origin : Text) (request : Request)
    (reply : Option Reply) (time : Time) :
    replies walk (.gave walk origin request reply time :: log)
      = replies walk log ++ [(origin, reply)] := by
  rw [replies, if_pos rfl]

theorem lastWalk_cons_other {handler : Nat} (other : Record.walker? record ≠ some handler) :
    lastWalk handler (record :: log) = lastWalk handler log := by
  cases record with
  | joined joining =>
    have different : ¬ joining = handler := fun same => other (congrArg some same)
    rw [lastWalk, if_neg different]
  | streams streaming =>
    have different : ¬ streaming = handler := fun same => other (congrArg some same)
    rw [lastWalk, if_neg different]
  | _ => rfl

theorem Exhausted.grow (exhausted : Exhausted options walk log)
    (other : Record.walk? record ≠ some walk) : Exhausted options walk (record :: log) := by
  have same : replies walk (record :: log) = replies walk log := replies_cons_other other
  exact ⟨same ▸ exhausted.asked, same ▸ exhausted.unusable⟩

theorem Underway.grow {remaining : List Text} (underway : Underway options walk remaining log)
    (other : Record.walk? record ≠ some walk) :
    Underway options walk remaining (record :: log) := by
  have same : replies walk (record :: log) = replies walk log := replies_cons_other other
  exact ⟨same ▸ underway.asked, same ▸ underway.unusable⟩

/-- One more origin of no use brings the walk further. -/
theorem Underway.next {origin : Text} {others : List Text}
    (underway : Underway options walk (origin :: others) log) (request : Request)
    {reply : Option Reply} (time : Time) (unusable : Unusable reply) :
    Underway options walk others (.gave walk origin request reply time :: log) := by
  refine ⟨?_, ?_⟩
  · rw [replies_cons_gave, List.map_append, List.append_assoc]
    exact underway.asked
  · rw [replies_cons_gave]
    exact List.forall_mem_append.mpr ⟨underway.unusable, List.forall_mem_singleton.mpr unusable⟩

theorem Underway.exhausted (underway : Underway options walk [] log) :
    Exhausted options walk log :=
  ⟨by simpa using underway.asked, underway.unusable⟩

/-- A walk with origins left to ask is not exhausted. -/
theorem Underway.not_exhausted {origin : Text} {others : List Text}
    (underway : Underway options walk (origin :: others) log) :
    ¬ Exhausted options walk log := by
  intro exhausted
  have whole := underway.asked
  rw [exhausted.asked] at whole
  simp at whole

theorem underway_start (unasked : replies walk log = []) :
    Underway options walk options.origins log :=
  ⟨by rw [unasked]; rfl, by rw [unasked]; intro answer member; cases member⟩

theorem Excused.grow {handler : Nat} (excused : Excused options handler log)
    (walker : Record.walker? record ≠ some handler)
    (walk : ∀ walk, Record.walk? record = some walk → ¬ Exhausted options walk log) :
    Excused options handler (record :: log) := by
  rcases excused with gone | ⟨last, made, exhausted⟩
  · exact Or.inl (List.mem_cons_of_mem _ gone)
  · refine Or.inr ⟨last, (lastWalk_cons_other walker).trans made, exhausted.grow ?_⟩
    intro same
    exact walk last same exhausted

theorem Obtained.grow {key : Text} {entry : Entry} (obtained : Obtained options key entry log) :
    Obtained options key entry (record :: log) := by
  obtain ⟨walk, origin, request, reply, time, given, facts⟩ := obtained
  exact ⟨walk, origin, request, reply, time, List.mem_cons_of_mem _ given, facts⟩

end Growth

section Invariant

/-- A fetch fails for good only when every origin was of no use. -/
def ResultHolds (options : Options) (log : List Record) (id : Nat) :
    Except FetchError Entry → Prop
  | .error .originUnavailable => Exhausted options (.fetch id) log
  | .error .unreadable => False
  | .error .objectTooLarge => True
  | .ok _ => True

/-- What holds of a fetch, by how far it is. -/
def FlightHolds (options : Options) (log : List Record) (id : Nat) (flight : Flight) : Prop :=
  match flight.state with
  | .pending => replies (.fetch id) log = []
  | .walking request remaining =>
    request.method = .get ∧ cacheKey request = flight.key
      ∧ Underway options (.fetch id) remaining log
  | .fetched entry => entry.storable = true → Obtained options flight.key entry log
  | .returned result => ResultHolds options log id result
  | .finished result => ResultHolds options log id result

/-- What holds of a handler, by how far it is. -/
def HandlerHolds (options : Options) (log : List Record) (id : Nat) (handler : Handler) : Prop :=
  match handler.phase with
  | .started => replies (.stream id) log = []
  | .missed => replies (.stream id) log = []
  | .waiting flight =>
    replies (.stream id) log = [] ∧ lastWalk id log = some (.fetch flight)
  | .streaming remaining =>
    lastWalk id log = some (.stream id) ∧ Underway options (.stream id) remaining log
  | .unavailable => Excused options id log
  | .expired => Excused options id log
  | .done => True

variable {options : Options} {log : List Record} {record : Record} {id : Nat}

theorem ResultHolds.grow {result : Except FetchError Entry}
    (holds : ResultHolds options log id result) (walk : Record.walk? record ≠ some (.fetch id)) :
    ResultHolds options (record :: log) id result := by
  cases result with
  | ok => trivial
  | error failure =>
    cases failure with
    | originUnavailable => exact Exhausted.grow holds walk
    | unreadable => exact holds
    | objectTooLarge => trivial

theorem FlightHolds.grow {flight : Flight} (holds : FlightHolds options log id flight)
    (walk : Record.walk? record ≠ some (.fetch id)) :
    FlightHolds options (record :: log) id flight := by
  unfold FlightHolds at holds ⊢
  cases state : flight.state with
  | pending => rw [state] at holds; exact (replies_cons_other walk).trans holds
  | walking =>
    rw [state] at holds
    exact ⟨holds.1, holds.2.1, holds.2.2.grow walk⟩
  | fetched => rw [state] at holds; exact fun storable => (holds storable).grow
  | _ => rw [state] at holds; exact ResultHolds.grow holds walk

theorem HandlerHolds.grow {handler : Handler} (holds : HandlerHolds options log id handler)
    (stream : Record.walk? record ≠ some (.stream id))
    (walker : Record.walker? record ≠ some id)
    (walk : ∀ walk, Record.walk? record = some walk → ¬ Exhausted options walk log) :
    HandlerHolds options (record :: log) id handler := by
  have same : replies (.stream id) (record :: log) = replies (.stream id) log :=
    replies_cons_other stream
  have last : lastWalk id (record :: log) = lastWalk id log := lastWalk_cons_other walker
  unfold HandlerHolds at holds ⊢
  cases phase : handler.phase with
  | started | missed => rw [phase] at holds; exact same.trans holds
  | waiting => rw [phase] at holds; exact ⟨same.trans holds.1, last.trans holds.2⟩
  | streaming =>
    rw [phase] at holds
    exact ⟨last.trans holds.1, holds.2.grow stream⟩
  | done => trivial
  | _ => rw [phase] at holds; exact Excused.grow holds walker walk

/-- The cache holds only what origins gave to requests with the same key. -/
def CacheHolds (options : Options) (log : List Record) (cache : Cache) : Prop :=
  ∃ list : Recency Text Entry Entry.size options.maxBytes,
    Represents cache list
      ∧ ∀ key entry, (key, entry) ∈ list.entries → Obtained options key entry log

structure ProxyHolds (options : Options) (proxy : Proxy) : Prop where
  cache : CacheHolds options proxy.log proxy.cache
  flights : ∀ id flight, proxy.flights id = some flight →
    FlightHolds options proxy.log id flight
  handlers : ∀ id handler, proxy.handlers id = some handler →
    HandlerHolds options proxy.log id handler
  unbegun : ∀ id, proxy.begun ≤ id →
    proxy.flights id = none ∧ replies (.fetch id) proxy.log = []
  unarrived : ∀ id, proxy.arrived ≤ id →
    proxy.handlers id = none ∧ replies (.stream id) proxy.log = []
  answers : AllJustified options proxy.log

/-- The log grows by records of one party: on its own walk, while that is not exhausted. -/
inductive Grows (options : Options) (own : Static.Walk) (mover : Option Nat) (log : List Record) :
    List Record → Prop where
  | same : Grows options own mover log log
  | add {later : List Record} (record : Record) (grown : Grows options own mover log later)
      (walk : ∀ walk, Record.walk? record = some walk → walk = own ∧ ¬ Exhausted options own later)
      (walker : ∀ handler, Record.walker? record = some handler → mover = some handler) :
      Grows options own mover log (record :: later)

section Grown

variable {own : Static.Walk} {mover : Option Nat} {later : List Record}

theorem Grows.replies (grown : Grows options own mover log later) {walk : Static.Walk}
    (other : walk ≠ own) : replies walk later = replies walk log := by
  induction grown with
  | same => rfl
  | add record grown walk walker ih =>
    exact (replies_cons_other (fun same => other (walk _ same).1)).trans ih

theorem Grows.flight (grown : Grows options own mover log later) {flight : Flight}
    (other : Static.Walk.fetch id ≠ own) (holds : FlightHolds options log id flight) :
    FlightHolds options later id flight := by
  induction grown with
  | same => exact holds
  | add record grown walk walker ih =>
    exact ih.grow (fun same => other (walk _ same).1)

theorem Grows.handler (grown : Grows options own mover log later) {handler : Handler}
    (other : Static.Walk.stream id ≠ own) (idle : mover ≠ some id)
    (holds : HandlerHolds options log id handler) : HandlerHolds options later id handler := by
  induction grown with
  | same => exact holds
  | add record grown walk walker ih =>
    refine ih.grow (fun same => other (walk _ same).1) (fun same => idle (walker _ same)) ?_
    intro made same
    obtain ⟨rfl, unexhausted⟩ := walk made same
    exact unexhausted

theorem Grows.obtained (grown : Grows options own mover log later) {key : Text} {entry : Entry}
    (obtained : Obtained options key entry log) : Obtained options key entry later := by
  induction grown with
  | same => exact obtained
  | add record grown walk walker ih => exact ih.grow

theorem Grows.cache (grown : Grows options own mover log later) {cache : Cache}
    (holds : CacheHolds options log cache) : CacheHolds options later cache := by
  obtain ⟨list, represents, obtained⟩ := holds
  exact ⟨list, represents, fun key entry member => grown.obtained (obtained key entry member)⟩

/-- A record that neither reports an origin nor begins a walk may always be added. -/
theorem Grows.note (grown : Grows options own mover log later) (record : Record)
    (silent : Record.walk? record = none) (idle : Record.walker? record = none) :
    Grows options own mover log (record :: later) := by
  refine Grows.add record grown ?_ ?_
  · intro walk same
    rw [silent] at same
    cases same
  · intro handler same
    rw [idle] at same
    cases same

end Grown

section Reading

variable {cache : Cache}

theorem CacheHolds.get (holds : CacheHolds options log cache) (key : Text) (now : Time) :
    CacheHolds options log (cache.get key now).1
      ∧ ∀ entry, (cache.get key now).2 = some entry →
          Obtained options key entry log ∧ now < entry.expires := by
  obtain ⟨list, represents, obtained⟩ := holds
  have called := represents.call (.get key now)
  refine ⟨⟨list.touch key, called.1, ?_⟩, ?_⟩
  · intro stored entry member
    exact obtained stored entry (Recency.mem_touch.mp member)
  · intro entry found
    have read : (list.find key).filter (fun entry => decide (now < entry.expires)) = some entry :=
      called.2.symm.trans found
    obtain ⟨present, fresh⟩ := Option.filter_eq_some_iff.mp read
    exact ⟨obtained key entry (Recency.find_eq_some.mp present), by simpa using fresh⟩

theorem CacheHolds.getStale (holds : CacheHolds options log cache) (key : Text) :
    CacheHolds options log (cache.getStale key).1
      ∧ ∀ entry, (cache.getStale key).2 = some entry → Obtained options key entry log := by
  obtain ⟨list, represents, obtained⟩ := holds
  have called := represents.call (.getStale key)
  refine ⟨⟨list.touch key, called.1, ?_⟩, ?_⟩
  · intro stored entry member
    exact obtained stored entry (Recency.mem_touch.mp member)
  · intro entry found
    exact obtained key entry (Recency.find_eq_some.mp (called.2.symm.trans found))

theorem CacheHolds.put (holds : CacheHolds options log cache) {key : Text} {entry : Entry}
    (fetched : Obtained options key entry log) :
    CacheHolds options log (cache.put key entry) := by
  obtain ⟨list, represents, obtained⟩ := holds
  refine ⟨list.put key entry, represents.put key entry, ?_⟩
  intro stored value member
  by_cases room : entry.size ≤ options.maxBytes
  · rcases List.mem_cons.mp ((Recency.put_longest room).initial.subset member) with same | others
    · obtain ⟨rfl, rfl⟩ := Prod.mk.inj same
      exact fetched
    · exact obtained stored value (mem_without.mp others).1
  · rw [Recency.put_large (Nat.lt_of_not_le room)] at member
    exact obtained stored value member

end Reading

section Moves

variable {proxy next : Proxy}

variable {handler : Handler} {served : CacheStatus} {header : Header} {body : List UInt8}
variable {asked now : Time} {request : Request}

/-- A move of one handler keeps the facts of all other parties. -/
theorem ProxyHolds.moveHandler (holds : ProxyHolds options proxy) {moved : Handler}
    (present : proxy.handlers id = some handler)
    (grown : Grows options (.stream id) (some id) proxy.log next.log)
    (handlers : next.handlers = Function.update proxy.handlers id (some moved))
    (flights : next.flights = proxy.flights) (begun : next.begun = proxy.begun)
    (arrived : next.arrived = proxy.arrived) (kept : HandlerHolds options next.log id moved)
    (cache : CacheHolds options next.log next.cache) (answers : AllJustified options next.log) :
    ProxyHolds options next := by
  refine ⟨cache, ?_, ?_, ?_, ?_, answers⟩
  · intro other flight found
    rw [flights] at found
    exact grown.flight (by simp) (holds.flights other flight found)
  · intro other found stored
    rw [handlers] at stored
    by_cases same : other = id
    · subst same
      rw [Function.update_self] at stored
      exact Option.some.inj stored ▸ kept
    · rw [Function.update_of_ne same] at stored
      refine grown.handler (by simpa using same) ?_ (holds.handlers other found stored)
      simpa using fun equal => same equal.symm
  · intro other later
    rw [begun] at later
    rw [flights, grown.replies (by simp)]
    exact holds.unbegun other later
  · intro other later
    rw [arrived] at later
    have absent := holds.unarrived other later
    have different : other ≠ id := by
      rintro rfl
      rw [present] at absent
      cases absent.1
    rw [handlers, Function.update_of_ne different, grown.replies (by simpa using different)]
    exact absent

/-- A move of one fetch keeps the facts of all other parties. -/
theorem ProxyHolds.moveFlight (holds : ProxyHolds options proxy) {flight moved : Flight}
    (present : proxy.flights id = some flight)
    (grown : Grows options (.fetch id) none proxy.log next.log)
    (flights : next.flights = Function.update proxy.flights id (some moved))
    (handlers : next.handlers = proxy.handlers) (begun : next.begun = proxy.begun)
    (arrived : next.arrived = proxy.arrived)
    (kept : FlightHolds options next.log id moved)
    (cache : CacheHolds options next.log next.cache)
    (answers : AllJustified options next.log) : ProxyHolds options next := by
  refine ⟨cache, ?_, ?_, ?_, ?_, answers⟩
  · intro other found stored
    rw [flights] at stored
    by_cases same : other = id
    · subst same
      rw [Function.update_self] at stored
      exact Option.some.inj stored ▸ kept
    · rw [Function.update_of_ne same] at stored
      exact grown.flight (by simpa using same) (holds.flights other found stored)
  · intro other found stored
    rw [handlers] at stored
    exact grown.handler (by simp) (by simp) (holds.handlers other found stored)
  · intro other later
    rw [begun] at later
    have absent := holds.unbegun other later
    have different : other ≠ id := by
      rintro rfl
      rw [present] at absent
      cases absent.1
    rw [flights, Function.update_of_ne different, grown.replies (by simpa using different)]
    exact absent
  · intro other later
    rw [arrived] at later
    rw [handlers, grown.replies (by simp)]
    exact holds.unarrived other later

theorem AllJustified.note (justified : AllJustified options log)
    (silent : ∀ response, record ≠ .answered response) : AllJustified options (record :: log) :=
  ⟨fun response same => absurd same (silent response), justified⟩

/-- A handler answers and returns. -/
theorem ProxyHolds.answered (holds : ProxyHolds options proxy)
    (present : proxy.handlers id = some handler) {middle : Proxy}
    (grown : Grows options (.stream id) (some id) proxy.log middle.log)
    (handlers : middle.handlers = proxy.handlers) (flights : middle.flights = proxy.flights)
    (begun : middle.begun = proxy.begun) (arrived : middle.arrived = proxy.arrived)
    (cache : CacheHolds options middle.log middle.cache) (answers : AllJustified options middle.log)
    {status : Nat} (justified : Justified options middle.log
      ⟨id, handler.request, served, status, header, body, asked⟩) :
    ProxyHolds options (middle.answer id handler served status header body asked) := by
  have noted : Grows options (.stream id) (some id) proxy.log
      (.answered ⟨id, handler.request, served, status, header, body, asked⟩ :: middle.log) :=
    grown.note _ rfl rfl
  have updated : (middle.answer id handler served status header body asked).handlers
      = Function.update proxy.handlers id (some { handler with phase := .done }) := by
    rw [← handlers]
    rfl
  refine holds.moveHandler present noted updated flights begun arrived trivial ?_ ⟨?_, answers⟩
  · obtain ⟨list, represents, obtained⟩ := cache
    exact ⟨list, represents, fun key entry member => (obtained key entry member).grow⟩
  · rintro response same
    cases same
    exact justified

/-- An entry that was obtained for the key of the request answers it genuinely. -/
theorem Obtained.genuine {entry : Entry} (obtained : Obtained options (cacheKey request) entry log)
    (fresh : served = .hit → asked < entry.expires) :
    Genuine options log ⟨id, request, served, entry.status, entry.header,
      if request.method = .head then [] else entry.body, asked⟩ := by
  obtain ⟨walk, origin, given, reply, time, member, method, key, buffered, storable⟩ := obtained
  obtain ⟨status, body, header, marked, small⟩ := buffer_storable buffered storable
  refine ⟨walk, origin, given, reply, time, entry, member, method, key, buffered, status, header,
    ?_, marked, small, fresh⟩
  rw [body]

theorem ProxyHolds.withCache (holds : ProxyHolds options proxy) {cache : Cache}
    (kept : CacheHolds options proxy.log cache) :
    ProxyHolds options { proxy with cache } :=
  ⟨kept, holds.flights, holds.handlers, holds.unbegun, holds.unarrived, holds.answers⟩

/-- A handler answers with an entry from the cache. -/
theorem ProxyHolds.writeCached (holds : ProxyHolds options proxy)
    (present : proxy.handlers id = some handler) {entry : Entry}
    (obtained : Obtained options (cacheKey handler.request) entry proxy.log)
    (fresh : served = .hit → asked < entry.expires)
    (excused : served ≠ .hit → Excused options id proxy.log) :
    ProxyHolds options (proxy.writeEntry id handler entry served asked) := by
  refine holds.answered present Grows.same rfl rfl rfl rfl holds.cache holds.answers
    ⟨fun _ => obtained.genuine fresh, ?_⟩
  rintro (stale | failed)
  · exact excused (by rw [show served = .stale from stale]; decide)
  · exact excused (by rw [show served = .badGateway from failed]; decide)

/-- An answer taken from an origin promises nothing. -/
theorem justified_miss {handler : Nat} {status : Nat} :
    Justified options log ⟨handler, request, .miss, status, header, body, asked⟩ := by
  refine ⟨?_, ?_⟩
  · rintro (same | same) <;> cases same
  · rintro (same | same) <;> cases same

theorem ProxyHolds.serveStream (holds : ProxyHolds options proxy)
    (present : proxy.handlers id = some handler) (unasked : replies (.stream id) proxy.log = []) :
    ProxyHolds options (proxy.serveStream options id handler) := by
  have grown : Grows options (.stream id) (some id) proxy.log (.streams id :: proxy.log) := by
    refine Grows.add _ Grows.same ?_ ?_
    · intro walk same
      cases same
    · intro other same
      exact same
  have last : lastWalk id (.streams id :: proxy.log) = some (.stream id) := by
    rw [lastWalk, if_pos rfl]
  have start : Underway options (.stream id) options.origins (.streams id :: proxy.log) :=
    underway_start ((replies_cons_other (by simp [Record.walk?])).trans unasked)
  refine holds.moveHandler present grown rfl rfl rfl rfl ?_ (grown.cache holds.cache)
    (holds.answers.note (by simp))
  by_cases none : options.origins = []
  · rw [if_pos none]
    rw [none] at start
    exact Or.inr ⟨_, last, start.exhausted⟩
  · rw [if_neg none]
    exact ⟨last, start⟩

/-- When a fetch starts, the context object it reads holds a request with the key of the fetch. -/
def AsksOwnKey (proxy : Proxy) : Move → Prop
  | .start id =>
    ∀ flight ∈ proxy.flights id, ∀ request ∈ proxy.contexts flight.context,
      request.method = .get ∧ cacheKey request = flight.key
  | _ => True

instance (proxy : Proxy) (move : Move) : Decidable (AsksOwnKey proxy move) := by
  cases move <;> unfold AsksOwnKey <;> infer_instance

theorem lookup_holds (holds : ProxyHolds options proxy)
    (taken : step options proxy (.lookup id now) = some next) : ProxyHolds options next := by
  cases present : proxy.handlers id with
  | none => simp [step, present] at taken
  | some handler =>
    by_cases started : handler.phase = .started
    · have facts := holds.handlers id handler present
      simp only [HandlerHolds, started] at facts
      obtain ⟨kept, found⟩ := holds.cache.get (cacheKey handler.request) now
      have asked := holds.withCache kept
      simp only [step, present, if_pos started] at taken
      cases method : handler.request.method with
      | other =>
        rw [method] at taken
        cases taken
        exact holds.moveHandler present Grows.same rfl rfl rfl rfl trivial holds.cache
          holds.answers
      | get =>
        rw [method] at taken
        cases answer : (proxy.cache.get (cacheKey handler.request) now).2 with
        | some entry =>
          simp only [answer] at taken
          cases taken
          exact asked.writeCached present (found entry answer).1
            (fun _ => (found entry answer).2) (fun different => absurd rfl different)
        | none =>
          simp only [answer, if_true] at taken
          cases taken
          exact asked.moveHandler present Grows.same rfl rfl rfl rfl facts kept holds.answers
      | head =>
        rw [method] at taken
        cases answer : (proxy.cache.get (cacheKey handler.request) now).2 with
        | some entry =>
          simp only [answer] at taken
          cases taken
          exact asked.writeCached present (found entry answer).1
            (fun _ => (found entry answer).2) (fun different => absurd rfl different)
        | none =>
          simp only [answer, reduceCtorEq, if_false] at taken
          cases taken
          exact asked.serveStream present facts
    · simp [step, present, started] at taken

theorem share_holds (holds : ProxyHolds options proxy)
    (taken : step options proxy (.share id) = some next) : ProxyHolds options next := by
  cases present : proxy.handlers id with
  | none => simp [step, present] at taken
  | some handler =>
    by_cases missed : handler.phase = .missed
    · have facts := holds.handlers id handler present
      simp only [HandlerHolds, missed] at facts
      simp only [step, present, if_pos missed] at taken
      have grown (flight : Nat) : Grows options (.stream id) (some id) proxy.log
          (.joined id flight :: proxy.log) := by
        refine Grows.add _ Grows.same ?_ ?_
        · intro walk same
          cases same
        · intro other same
          exact same
      have waits (flight : Nat) : HandlerHolds options (.joined id flight :: proxy.log) id
          { handler with phase := .waiting flight } := by
        refine ⟨(replies_cons_other (by simp [Record.walk?])).trans facts, ?_⟩
        rw [lastWalk, if_pos rfl]
      cases shared : proxy.group (cacheKey handler.request) with
      | some flight =>
        simp only [shared] at taken
        cases taken
        exact holds.moveHandler present (grown flight) rfl rfl rfl rfl (waits flight)
          ((grown flight).cache holds.cache) (holds.answers.note (by simp))
      | none =>
        simp only [shared] at taken
        cases taken
        -- The new fetch has asked no origin yet; then the handler waits for it.
        have begun : ProxyHolds options { proxy with
            flights := Function.update proxy.flights proxy.begun
              (some ⟨cacheKey handler.request, handler.context, .pending⟩)
            begun := proxy.begun + 1
            group := Function.update proxy.group (cacheKey handler.request)
              (some proxy.begun) } := by
          have new := holds.unbegun proxy.begun (Nat.le_refl _)
          refine ⟨holds.cache, ?_, holds.handlers, ?_, holds.unarrived, holds.answers⟩
          · intro other flight found
            by_cases same : other = proxy.begun
            · subst same
              simp only [Function.update_self] at found
              exact Option.some.inj found ▸ new.2
            · simp only [Function.update_of_ne same] at found
              exact holds.flights other flight found
          · intro other later
            have after : proxy.begun + 1 ≤ other := later
            have different : other ≠ proxy.begun := by omega
            simp only [Function.update_of_ne different]
            exact holds.unbegun other (by omega)
        exact begun.moveHandler present (grown proxy.begun) rfl rfl rfl rfl
          (waits proxy.begun) ((grown proxy.begun).cache holds.cache)
          (holds.answers.note (by simp))
    · simp [step, present, missed] at taken

theorem arrive_holds (holds : ProxyHolds options proxy) {context : Nat}
    (taken : step options proxy (.arrive context request) = some next) :
    ProxyHolds options next := by
  by_cases busy : proxy.busy context = true
  · simp [step, busy] at taken
  · simp only [step, if_neg busy] at taken
    cases taken
    have new := holds.unarrived proxy.arrived (Nat.le_refl _)
    refine ⟨holds.cache, holds.flights, ?_, holds.unbegun, ?_, holds.answers⟩
    · intro other handler found
      by_cases same : other = proxy.arrived
      · subst same
        simp only [Function.update_self] at found
        exact Option.some.inj found ▸ new.2
      · simp only [Function.update_of_ne same] at found
        exact holds.handlers other handler found
    · intro other later
      have after : proxy.arrived + 1 ≤ other := later
      have different : other ≠ proxy.arrived := by omega
      simp only [Function.update_of_ne different]
      exact holds.unarrived other (by omega)

theorem start_holds (holds : ProxyHolds options proxy)
    (asks : AsksOwnKey proxy (.start id))
    (taken : step options proxy (.start id) = some next) : ProxyHolds options next := by
  cases present : proxy.flights id with
  | none => simp [step, present] at taken
  | some flight =>
    have facts := holds.flights id flight present
    simp only [step, present] at taken
    cases state : flight.state with
    | pending =>
      simp only [FlightHolds, state] at facts
      have begin : Underway options (.fetch id) options.origins proxy.log :=
        underway_start facts
      cases held : proxy.contexts flight.context with
      | none => simp [state, held] at taken
      | some request =>
        simp only [state, held] at taken
        cases taken
        obtain ⟨method, key⟩ := asks flight present request held
        refine holds.moveFlight present Grows.same rfl rfl rfl rfl ?_ holds.cache holds.answers
        by_cases none : options.origins = []
        · rw [if_pos none]
          rw [none] at begin
          exact begin.exhausted
        · rw [if_neg none]
          exact ⟨method, key, begin⟩
    | _ => simp [state] at taken

/-- What a fetch does with an answer agrees with what was recorded of it. -/
theorem fetchState_holds {flight : Flight} {origin : Text} {others : List Text}
    (method : request.method = .get) (key : cacheKey request = flight.key)
    (underway : Underway options (.fetch id) (origin :: others) log) (reply : Option Reply)
    (now : Time) :
    FlightHolds options (.gave (.fetch id) origin request reply now :: log) id
      { flight with state := fetchState options request others reply now } := by
  have onward (unusable : Unusable reply) :
      FlightHolds options (.gave (.fetch id) origin request reply now :: log) id
        { flight with
          state :=
            if others = [] then .returned (.error .originUnavailable)
            else .walking request others } := by
    have further := underway.next request now unusable
    by_cases last : others = []
    · rw [if_pos last]
      rw [last] at further
      exact further.exhausted
    · rw [if_neg last]
      exact ⟨method, key, further⟩
  cases reply with
  | none => exact onward trivial
  | some reply =>
    by_cases failed : failedStatus reply.status = true
    · have same : fetchState options request others (some reply) now
          = if others = [] then .returned (.error .originUnavailable)
            else .walking request others := by
        simp [fetchState, failed]
      rw [same]
      exact onward (Or.inl failed)
    · rcases buffer_cases options.ttl now reply with large | ⟨unreadable, unread⟩ |
        ⟨entry, buffered, _⟩
      · have same : fetchState options request others (some reply) now
            = .returned (.error .objectTooLarge) := by
          simp [fetchState, failed, large]
        rw [same]
        trivial
      · have same : fetchState options request others (some reply) now
            = if others = [] then .returned (.error .originUnavailable)
              else .walking request others := by
          simp [fetchState, failed, unreadable]
        rw [same]
        exact onward (Or.inr unread)
      · have same : fetchState options request others (some reply) now = .fetched entry := by
          simp [fetchState, failed, buffered]
        rw [same]
        intro storable
        exact ⟨_, origin, request, reply, now, List.mem_cons_self, method, key, buffered,
          storable⟩

theorem fetch_holds (holds : ProxyHolds options proxy) {reply : Option Reply}
    (taken : step options proxy (.fetch id reply now) = some next) : ProxyHolds options next := by
  cases present : proxy.flights id with
  | none => simp [step, present] at taken
  | some flight =>
    have facts := holds.flights id flight present
    simp only [step, present] at taken
    cases state : flight.state with
    | walking request remaining =>
      cases remaining with
      | nil => simp [state] at taken
      | cons origin =>
        simp only [FlightHolds, state] at facts
        obtain ⟨method, key, underway⟩ := facts
        simp only [state] at taken
        cases taken
        have grown : Grows options (.fetch id) none proxy.log
            (.gave (.fetch id) origin request reply now :: proxy.log) := by
          refine Grows.add _ Grows.same ?_ ?_
          · intro walk same
            exact ⟨(Option.some.inj same).symm, underway.not_exhausted⟩
          · intro handler same
            cases same
        exact holds.moveFlight present grown rfl rfl rfl rfl
          (fetchState_holds method key underway reply now)
          (grown.cache holds.cache) (holds.answers.note (by simp))
    | _ => simp [state] at taken

theorem store_holds (holds : ProxyHolds options proxy)
    (taken : step options proxy (.store id) = some next) : ProxyHolds options next := by
  cases present : proxy.flights id with
  | none => simp [step, present] at taken
  | some flight =>
    have facts := holds.flights id flight present
    simp only [step, present] at taken
    cases state : flight.state with
    | fetched entry =>
      simp only [FlightHolds, state] at facts
      simp only [state] at taken
      cases taken
      by_cases storable : entry.storable = true
      · rw [if_pos storable]
        have stored := holds.withCache (holds.cache.put (facts storable))
        exact stored.moveFlight present Grows.same rfl rfl rfl rfl trivial stored.cache
          holds.answers
      · rw [if_neg storable]
        exact holds.moveFlight present Grows.same rfl rfl rfl rfl trivial holds.cache
          holds.answers
    | _ => simp [state] at taken

theorem finish_holds (holds : ProxyHolds options proxy)
    (taken : step options proxy (.finish id) = some next) : ProxyHolds options next := by
  cases present : proxy.flights id with
  | none => simp [step, present] at taken
  | some flight =>
    have facts := holds.flights id flight present
    simp only [step, present] at taken
    cases state : flight.state with
    | returned =>
      simp only [FlightHolds, state] at facts
      simp only [state] at taken
      cases taken
      exact holds.moveFlight present Grows.same rfl rfl rfl rfl facts holds.cache holds.answers
    | _ => simp [state] at taken

theorem receive_holds (holds : ProxyHolds options proxy)
    (taken : step options proxy (.receive id) = some next) : ProxyHolds options next := by
  cases present : proxy.handlers id with
  | none => simp [step, present] at taken
  | some handler =>
    have facts := holds.handlers id handler present
    cases phase : handler.phase with
    | waiting awaited =>
      simp only [HandlerHolds, phase] at facts
      cases found : proxy.flights awaited with
      | none => simp [step, present, phase, found] at taken
      | some flight =>
        have fetched := holds.flights awaited flight found
        cases state : flight.state with
        | finished result =>
          simp only [FlightHolds, state] at fetched
          cases result with
          | ok =>
            simp only [step, present, phase, found, state] at taken
            cases taken
            exact holds.answered present Grows.same rfl rfl rfl rfl holds.cache
              holds.answers justified_miss
          | error failure =>
            cases failure with
            | objectTooLarge =>
              simp only [step, present, phase, found, state] at taken
              cases taken
              exact holds.serveStream present facts.1
            | originUnavailable =>
              simp only [step, present, phase, found, state] at taken
              cases taken
              exact holds.moveHandler present Grows.same rfl rfl rfl rfl
                (Or.inr ⟨_, facts.2, fetched⟩) holds.cache holds.answers
            | unreadable => exact False.elim fetched
        | _ => simp [step, present, phase, found, state] at taken
    | _ => simp [step, present, phase] at taken

theorem cancel_holds (holds : ProxyHolds options proxy)
    (taken : step options proxy (.cancel id) = some next) : ProxyHolds options next := by
  cases present : proxy.handlers id with
  | none => simp [step, present] at taken
  | some handler =>
    cases phase : handler.phase with
    | waiting =>
      simp only [step, present, phase] at taken
      cases taken
      have grown : Grows options (.stream id) (some id) proxy.log
          (.cancelled id :: proxy.log) := Grows.same.note _ rfl rfl
      exact holds.moveHandler present grown rfl rfl rfl rfl (Or.inl List.mem_cons_self)
        (grown.cache holds.cache) (holds.answers.note (by simp))
    | _ => simp [step, present, phase] at taken

theorem relay_holds (holds : ProxyHolds options proxy) {reply : Option Reply}
    (taken : step options proxy (.relay id reply now) = some next) : ProxyHolds options next := by
  cases present : proxy.handlers id with
  | none => simp [step, present] at taken
  | some handler =>
    have facts := holds.handlers id handler present
    cases phase : handler.phase with
    | streaming remaining =>
      simp only [HandlerHolds, phase] at facts
      cases remaining with
      | nil => simp [step, present, phase] at taken
      | cons origin others =>
        simp only [step, present, phase] at taken
        obtain ⟨last, underway⟩ := facts
        have grown : Grows options (.stream id) (some id) proxy.log
            (.gave (.stream id) origin handler.request reply now :: proxy.log) := by
          refine Grows.add _ Grows.same ?_ ?_
          · intro walk same
            exact ⟨(Option.some.inj same).symm, underway.not_exhausted⟩
          · intro other same
            cases same
        have answers : AllJustified options
            (.gave (.stream id) origin handler.request reply now :: proxy.log) :=
          holds.answers.note (by simp)
        have onward (unusable : Unusable reply) :
            ProxyHolds options
              ((proxy.record (.gave (.stream id) origin handler.request reply now)).setPhase
                id handler (if others = [] then .unavailable else .streaming others)) := by
          have further := underway.next handler.request now unusable
          refine holds.moveHandler present grown rfl rfl rfl rfl ?_
            (grown.cache holds.cache) answers
          have still : lastWalk id
              (.gave (.stream id) origin handler.request reply now :: proxy.log)
                = some (.stream id) := last
          by_cases none : others = []
          · rw [if_pos none]
            rw [none] at further
            exact Or.inr ⟨_, still, further.exhausted⟩
          · rw [if_neg none]
            exact ⟨still, further⟩
        cases reply with
        | none =>
          cases taken
          exact onward trivial
        | some reply =>
          by_cases failed : failedStatus reply.status = true
          · simp only [failed, if_true] at taken
            cases taken
            exact onward (Or.inl failed)
          · simp only [failed] at taken
            cases taken
            exact holds.answered present grown (by rfl) (by rfl) (by rfl) (by rfl)
              (grown.cache holds.cache) answers justified_miss
    | _ => simp [step, present, phase] at taken

theorem justified_badGateway (excused : Excused options id log) :
    Justified options log ⟨id, request, .badGateway, 502, header, body, asked⟩ := by
  refine ⟨?_, fun _ => excused⟩
  rintro (same | same) <;> cases same

theorem fallBack_holds (holds : ProxyHolds options proxy)
    (taken : step options proxy (.fallBack id now) = some next) : ProxyHolds options next := by
  cases present : proxy.handlers id with
  | none => simp [step, present] at taken
  | some handler =>
    by_cases unavailable : handler.phase = .unavailable
    · have facts := holds.handlers id handler present
      simp only [HandlerHolds, unavailable] at facts
      obtain ⟨kept, found⟩ := holds.cache.get (cacheKey handler.request) now
      have asked := holds.withCache kept
      simp only [step, present, if_pos unavailable] at taken
      by_cases keyed : cacheKey handler.request ≠ []
      · rw [if_pos keyed] at taken
        cases answer : (proxy.cache.get (cacheKey handler.request) now).2 with
        | some entry =>
          simp only [answer] at taken
          cases taken
          exact asked.writeCached present (found entry answer).1
            (fun _ => (found entry answer).2) (fun different => absurd rfl different)
        | none =>
          simp only [answer] at taken
          cases taken
          exact asked.moveHandler present Grows.same rfl rfl rfl rfl facts kept holds.answers
      · rw [if_neg keyed] at taken
        cases taken
        exact holds.answered present Grows.same rfl rfl rfl rfl holds.cache holds.answers
          (justified_badGateway facts)
    · simp [step, present, unavailable] at taken

theorem fallBackStale_holds (holds : ProxyHolds options proxy)
    (taken : step options proxy (.fallBackStale id) = some next) : ProxyHolds options next := by
  cases present : proxy.handlers id with
  | none => simp [step, present] at taken
  | some handler =>
    by_cases expired : handler.phase = .expired
    · have facts := holds.handlers id handler present
      simp only [HandlerHolds, expired] at facts
      obtain ⟨kept, found⟩ := holds.cache.getStale (cacheKey handler.request)
      have asked := holds.withCache kept
      simp only [step, present, if_pos expired] at taken
      cases answer : (proxy.cache.getStale (cacheKey handler.request)).2 with
      | some entry =>
        simp only [answer] at taken
        cases taken
        exact asked.writeCached present (found entry answer)
          nofun (fun _ => facts)
      | none =>
        simp only [answer] at taken
        cases taken
        exact asked.answered present Grows.same rfl rfl rfl rfl kept holds.answers
          (justified_badGateway facts)
    · simp [step, present, expired] at taken

theorem step_holds (move : Move) (holds : ProxyHolds options proxy)
    (asks : AsksOwnKey proxy move) (taken : step options proxy move = some next) :
    ProxyHolds options next := by
  cases move with
  | arrive => exact arrive_holds holds taken
  | lookup => exact lookup_holds holds taken
  | share => exact share_holds holds taken
  | start => exact start_holds holds asks taken
  | fetch => exact fetch_holds holds taken
  | store => exact store_holds holds taken
  | finish => exact finish_holds holds taken
  | receive => exact receive_holds holds taken
  | cancel => exact cancel_holds holds taken
  | relay => exact relay_holds holds taken
  | fallBack => exact fallBack_holds holds taken
  | fallBackStale => exact fallBackStale_holds holds taken

end Moves

theorem newProxy_holds (options : Options) : ProxyHolds options (newProxy options) :=
  ⟨⟨Recency.empty, represents_newCache options.maxBytes, nofun⟩,
    nofun, nofun,
    fun _ _ => ⟨rfl, rfl⟩, fun _ _ => ⟨rfl, rfl⟩, trivial⟩

end Invariant

/-- The keys of the requests that origins answered. -/
def givenKeys (log : List Record) : List Text :=
  log.filterMap (fun record =>
    match record with
    | .gave _ _ request (some _) _ => some (cacheKey request)
    | _ => none)

/-- The last record is an answer from the cache for a key no origin was asked for. -/
def unfounded : List Record → Bool
  | .answered response :: earlier =>
    response.served == .hit && !(givenKeys earlier).contains (cacheKey response.request)
  | _ => false

theorem unfounded_not_justified {options : Options} {log : List Record}
    (wrong : unfounded log = true) : ¬ AllJustified options log := by
  intro justified
  cases log with
  | nil => cases wrong
  | cons record =>
    cases record with
    | answered response =>
      simp only [unfounded, Bool.and_eq_true, beq_iff_eq, Bool.not_eq_true',
        List.contains_eq_mem, decide_eq_false_iff_not] at wrong
      obtain ⟨walk, origin, request, reply, time, entry, given, _, key, _⟩ :=
        (justified.1 response rfl).genuine (Or.inl wrong.1)
      exact wrong.2 (List.mem_filterMap.mpr ⟨_, given, congrArg some key⟩)
    | _ => cases wrong

/-- The answers from the cache: what was asked for, and the body sent. -/
def hits (log : List Record) : List (Text × List UInt8) :=
  log.filterMap (fun record =>
    match record with
    | .answered response =>
      if response.served = .hit then some (response.request.url.path, response.body) else none
    | _ => none)

def siteOptions : Options := ⟨[text "origin"], 60, 1000⟩

def pageA : Request :=
  Request.of .get (text "status") (text "/a") plainHost (by decide +kernel)

def pageB : Request :=
  Request.of .get (text "status") (text "/b") plainHost (by decide +kernel)

def page (content : String) : Reply := ⟨200, [], -1, text content, false, false⟩

/--
The caller of the first page leaves before its fetch starts, and the second page
is asked for on the same context object: the fetch stores the second page under
the key of the first.
-/
def lateStart : List Move :=
  [.arrive 0 pageA, .lookup 0 10, .share 0, .cancel 0, .fallBack 0 10, .fallBackStale 0,
    .arrive 0 pageB, .start 0, .fetch 0 (some (page "content of b")) 11, .store 0, .finish 0,
    .arrive 1 pageA, .lookup 2 12]

/-- The fetch starts while its caller waits. -/
def promptStart : List Move :=
  [.arrive 0 pageA, .lookup 0 10, .share 0, .start 0, .arrive 1 pageB,
    .fetch 0 (some (page "content of a")) 11, .cancel 0, .store 0, .finish 0,
    .arrive 2 pageA, .lookup 2 12]

end StatusDashboard.Properties
