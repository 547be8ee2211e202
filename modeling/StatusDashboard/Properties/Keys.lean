import StatusDashboard.Static.Url
import StatusDashboard.Storage.Outbox

namespace StatusDashboard.Properties

open Static

/-!
# What keys identify

The cache key of a request joins its host, its decoded path, a question mark and its
raw query.  Decoding can put a question mark into the path, and several
spellings decode to one path, so a key does not determine the target that is
asked of an origin.  It does for requests whose decoded paths contain equally
many question marks and which are spelled alike.

The key of a notification joins the incident, the transition and the recipient.
The parts in front of the recipient never contain the separator behind them, so
such a key determines all of them.
-/

/-- What a request asks for: its host, its escaped path and its query. -/
def resource (request : Request) : Text × Text × Text :=
  (request.host, request.url.target, request.url.rawQuery)

/-- How a target is written where it is not the standard escaping of the decoded path. -/
def spelling (url : URL) : Option Text :=
  if url.opaquePart ≠ [] then some url.opaquePart
  else if url.rawPath ≠ [] ∧ validEncoded url.rawPath ∧ unescape url.rawPath = some url.path then
    some url.rawPath
  else none

/-- The standard way to write a decoded path. -/
def standard (path : Text) : Text :=
  if path = [] then [slash] else if path = text "*" then text "*" else escape path

/-- The requests agree on what the key leaves out. -/
def Alike (first second : Request) : Prop :=
  (first.url.path = text "*" ↔ second.url.path = text "*")
    ∧ first.url.path.count question = second.url.path.count question
    ∧ spelling first.url = spelling second.url

instance (first second : Request) : Decidable (Alike first second) :=
  inferInstanceAs (Decidable (_ ∧ _ ∧ _))

/-- The three kinds of targets the server parses. -/
inductive Shape (url : URL) : Prop where
  | star (path : url.path = text "*") (raw : url.rawPath = []) (part : url.opaquePart = [])
      (query : url.rawQuery = [])
  | path (part : url.opaquePart = []) (front : Text)
      (rooted : front = [] ∨ ∃ rest, front = slash :: rest)
      (decoded : unescape front = some url.path)
      (raw : url.rawPath = if front = escape url.path then [] else front)
  | part (path : url.path = []) (raw : url.rawPath = [])
      (unrooted : ∀ rest, url.opaquePart ≠ slash :: rest)

theorem rooted_of_front {front : Text} (rooted : [slash] <+: front) :
    ∃ rest, front = slash :: rest := by
  obtain ⟨rest, rfl⟩ := rooted
  exact ⟨rest, rfl⟩

theorem afterAuthority_rooted {scheme front : Text} (rooted : [slash] <+: front) :
    afterAuthority scheme front = [] ∨ ∃ rest, afterAuthority scheme front = slash :: rest := by
  unfold afterAuthority
  split_ifs with absolute
  · cases remaining : (front.drop 2).dropWhile (fun byte => decide (byte ≠ slash)) with
    | nil => exact Or.inl rfl
    | cons byte rest =>
      have stopped := List.head?_dropWhile_not (fun byte => decide (byte ≠ slash)) (front.drop 2)
      rw [remaining] at stopped
      exact Or.inr ⟨rest, by simpa using stopped⟩
  · exact Or.inr (rooted_of_front rooted)

theorem parseTarget_shape {raw : Text} {url : URL} (parsed : parseTarget raw = some url) :
    Shape url := by
  unfold parseTarget at parsed
  split_ifs at parsed with invalid star
  · cases parsed
    exact Shape.star star rfl rfl rfl
  · cases scheme : getScheme raw with
    | none => rw [scheme] at parsed; cases parsed
    | some parts =>
      obtain ⟨name, rest⟩ := parts
      rw [scheme] at parsed
      simp only at parsed
      generalize decide (rest.getLast? = some question ∧ rest.count question = 1) = forced
        at parsed
      generalize (if forced = true then rest.dropLast else (cutQuery rest).1) = front at parsed
      generalize (if forced = true then [] else (cutQuery rest).2) = query at parsed
      by_cases rooted : [slash] <+: front
      · rw [if_pos rooted] at parsed
        obtain ⟨path, decoded, rfl⟩ := Option.map_eq_some_iff.mp parsed
        exact Shape.path rfl _ (afterAuthority_rooted rooted) decoded rfl
      · rw [if_neg rooted] at parsed
        by_cases named : name ≠ []
        · rw [if_pos named] at parsed
          cases parsed
          refine Shape.part rfl rfl ?_
          rintro rest rfl
          exact rooted ⟨rest, rfl⟩
        · rw [if_neg named] at parsed
          cases parsed

theorem unescape_rooted {rest path : Text} (decoded : unescape (slash :: rest) = some path) :
    ∃ others, path = slash :: others := by
  rw [unescape.eq_def] at decoded
  have plain : ¬ slash = percent := by decide
  simp only [if_neg plain] at decoded
  obtain ⟨others, _, rfl⟩ := Option.map_eq_some_iff.mp decoded
  exact ⟨others, rfl⟩

theorem star_unrooted (rest : Text) : text "*" ≠ slash :: rest := by
  have first : (text "*").head? = some 42 := by decide +kernel
  intro rooted
  rw [rooted] at first
  exact absurd (Option.some.inj first) (by decide)

/-- A decoded path is empty, rooted, or the lone star. -/
theorem Shape.path_cases {url : URL} (shape : Shape url) :
    url.path = text "*" ∨ url.path = [] ∨ ∃ rest, url.path = slash :: rest := by
  cases shape with
  | star path => exact Or.inl path
  | path part front rooted decoded =>
    rcases rooted with rfl | ⟨rest, rfl⟩
    · cases path : url.path with
      | nil => exact Or.inr (Or.inl rfl)
      | cons => rw [path] at decoded; cases decoded
    · exact Or.inr (Or.inr (unescape_rooted decoded))
  | part path => exact Or.inr (Or.inl path)

theorem Shape.query_of_star {url : URL} (shape : Shape url) (star : url.path = text "*") :
    url.rawQuery = [] := by
  cases shape with
  | star path raw part query => exact query
  | path part front rooted decoded =>
    rcases rooted with rfl | ⟨rest, rfl⟩
    · rw [star] at decoded
      exact absurd decoded (by decide +kernel)
    · obtain ⟨others, same⟩ := unescape_rooted decoded
      rw [star] at same
      exact absurd same (star_unrooted others)
  | part path =>
    rw [star] at path
    exact absurd path (by decide +kernel)

/-- The target is the special spelling, or the standard writing of the path. -/
theorem Shape.target_eq {url : URL} (shape : Shape url) :
    url.target = (spelling url).getD (standard url.path) := by
  by_cases part : url.opaquePart = []
  · unfold URL.target spelling URL.escapedPath
    rw [if_pos part, if_neg (not_not.mpr part)]
    by_cases special : url.rawPath ≠ [] ∧ validEncoded url.rawPath
        ∧ unescape url.rawPath = some url.path
    · rw [if_pos special, if_pos special, if_neg special.1]
      rfl
    · rw [if_neg special, if_neg special]
      unfold standard
      by_cases empty : url.path = []
      · rw [empty]
        decide +kernel
      · rw [Option.getD_none, if_neg empty]
        by_cases star : url.path = text "*"
        · rw [if_pos star]
          decide +kernel
        · rw [if_neg star, if_neg]
          intro nothing
          obtain ⟨byte, rest, split⟩ := List.exists_cons_of_ne_nil empty
          rw [split, escape, List.flatMap_cons] at nothing
          have first := List.append_eq_nil_iff.mp nothing
          split_ifs at first <;> exact absurd first.1 (by simp)
  · have unrooted : ¬ [slash, slash] <+: url.opaquePart := by
      cases shape with
      | star path raw none => exact absurd none part
      | path none => exact absurd none part
      | part path raw unrooted =>
        rintro ⟨rest, split⟩
        exact unrooted (slash :: rest) split.symm
    unfold URL.target spelling
    rw [if_neg part, if_neg unrooted, if_pos part]
    rfl

/-- A special spelling is never the standard writing. -/
theorem Shape.spelling_special {url : URL} (shape : Shape url) {written : Text}
    (special : spelling url = some written) : written ≠ standard url.path := by
  unfold spelling at special
  cases shape with
  | star path raw part =>
    rw [if_neg (not_not.mpr part), if_neg (fun all => all.1 raw)] at special
    cases special
  | part path raw unrooted =>
    by_cases none : url.opaquePart = []
    · rw [if_neg (not_not.mpr none), if_neg (fun all => all.1 raw)] at special
      cases special
    · rw [if_pos none] at special
      cases special
      rw [standard, if_pos path]
      exact unrooted []
  | path part front rooted decoded raw =>
    rw [if_neg (not_not.mpr part)] at special
    by_cases kept : url.rawPath ≠ [] ∧ validEncoded url.rawPath
        ∧ unescape url.rawPath = some url.path
    · rw [if_pos kept] at special
      obtain rfl : url.rawPath = written := Option.some.inj special
      have unusual : ¬ front = escape url.path := by
        intro usual
        rw [if_pos usual] at raw
        exact kept.1 raw
      rw [if_neg unusual] at raw
      rcases rooted with rfl | ⟨rest, rfl⟩
      · exact absurd raw kept.1
      · obtain ⟨others, same⟩ := unescape_rooted decoded
        have filled : ¬ url.path = [] := by simp [same]
        have star : ¬ url.path = text "*" := by
          rw [same]
          exact (star_unrooted others).symm
        rw [standard, if_neg filled, if_neg star, raw]
        exact unusual
    · rw [if_neg kept] at special
      cases special

theorem Request.shape (request : Request) : Shape request.url := by
  obtain ⟨raw, parsed⟩ := request.parsed
  exact parseTarget_shape parsed

/-- Of two requests for one path, the targets agree exactly when the spellings do. -/
theorem target_eq_iff {first second : URL} (one : Shape first) (other : Shape second)
    (path : first.path = second.path) :
    first.target = second.target ↔ spelling first = spelling second := by
  rw [one.target_eq, other.target_eq, path]
  constructor
  · intro same
    cases left : spelling first with
    | none =>
      cases right : spelling second with
      | none => rfl
      | some =>
        rw [left, right] at same
        exact absurd same.symm (other.spelling_special right)
    | some =>
      cases right : spelling second with
      | none =>
        rw [left, right] at same
        exact absurd (path ▸ same) (one.spelling_special left)
      | some =>
        rw [left, right] at same
        exact congrArg some same
  · intro same
    rw [same]

/-- A text that avoids the marks its continuation starts with is determined by the whole. -/
theorem split_unique {marks : Text} {first second : Text} {left right : Text}
    (plain : ∀ byte ∈ first, byte ∉ marks) (other : ∀ byte ∈ second, byte ∉ marks)
    (marked : ∃ byte ∈ marks, left.head? = some byte)
    (remarked : ∃ byte ∈ marks, right.head? = some byte)
    (same : first ++ left = second ++ right) : first = second ∧ left = right := by
  induction first generalizing second with
  | nil =>
    cases second with
    | nil => exact ⟨rfl, same⟩
    | cons byte rest =>
      obtain ⟨mark, member, starts⟩ := marked
      have left_eq : left = byte :: (rest ++ right) := same
      rw [left_eq] at starts
      obtain rfl : byte = mark := Option.some.inj starts
      exact absurd member (other byte List.mem_cons_self)
  | cons byte rest ih =>
    cases second with
    | nil =>
      obtain ⟨mark, member, starts⟩ := remarked
      have right_eq : byte :: (rest ++ left) = right := same
      rw [← right_eq] at starts
      obtain rfl : byte = mark := Option.some.inj starts
      exact absurd member (plain byte List.mem_cons_self)
    | cons =>
      obtain ⟨rfl, remaining⟩ := List.cons_eq_cons.mp same
      obtain ⟨rfl, agrees⟩ := ih
        (fun mark member => plain mark (List.mem_cons_of_mem _ member))
        (fun mark member => other mark (List.mem_cons_of_mem _ member)) remaining
      exact ⟨rfl, agrees⟩

/-- The number of separators in front says which of them the text is split at. -/
theorem split_at_count {α : Type} [DecidableEq α] {separator : α} {first second left right : List α}
    (counts : first.count separator = second.count separator)
    (same : first ++ separator :: left = second ++ separator :: right) :
    first = second ∧ left = right := by
  induction first generalizing second with
  | nil =>
    cases second with
    | nil => exact ⟨rfl, (List.cons_eq_cons.mp same).2⟩
    | cons =>
      obtain ⟨rfl, -⟩ := List.cons_eq_cons.mp same
      simp at counts
  | cons byte rest ih =>
    cases second with
    | nil =>
      obtain ⟨rfl, -⟩ := List.cons_eq_cons.mp same
      simp at counts
    | cons next others =>
      obtain ⟨rfl, remaining⟩ := List.cons_eq_cons.mp same
      have fewer : rest.count separator = others.count separator := by
        simpa [List.count_cons] using counts
      obtain ⟨rfl, agrees⟩ := ih fewer remaining
      exact ⟨rfl, agrees⟩

theorem cacheKey_eq (request : Request) :
    cacheKey request = request.host ++ (request.url.path ++ question :: request.url.rawQuery) := by
  simp [cacheKey]

/-- Behind the host a key goes on with a slash or a question mark, the lone star apart. -/
theorem key_marked {request : Request} (unstarred : request.url.path ≠ text "*") :
    ∃ byte ∈ [slash, question],
      (request.url.path ++ question :: request.url.rawQuery).head? = some byte := by
  rcases (Request.shape request).path_cases with star | empty | ⟨rest, rooted⟩
  · exact absurd star unstarred
  · exact ⟨question, by simp, by simp [empty]⟩
  · exact ⟨slash, by simp, by simp [rooted]⟩

theorem host_plain (request : Request) : ∀ byte ∈ request.host, byte ∉ [slash, question] := by
  intro byte member mark
  rcases List.mem_cons.mp mark with rfl | mark
  · exact request.plainHost.1 member
  · obtain rfl := List.mem_singleton.mp mark
    exact request.plainHost.2 member

/-- Requests with one key that agree on the star agree on the host. -/
theorem host_eq {first second : Request} (key : cacheKey first = cacheKey second)
    (star : first.url.path = text "*" ↔ second.url.path = text "*") :
    first.host = second.host
      ∧ first.url.path ++ question :: first.url.rawQuery
          = second.url.path ++ question :: second.url.rawQuery := by
  rw [cacheKey_eq, cacheKey_eq] at key
  by_cases starred : first.url.path = text "*"
  · have again := star.mp starred
    have query := (Request.shape first).query_of_star starred
    have empty := (Request.shape second).query_of_star again
    rw [starred, again, query, empty] at key ⊢
    exact ⟨List.append_cancel_right key, rfl⟩
  · exact split_unique (host_plain first) (host_plain second) (key_marked starred)
      (key_marked (fun again => starred (star.mpr again))) key

/--
Two requests with one cache key ask for the same resource exactly when their
decoded paths contain equally many question marks and they are spelled alike.
-/
theorem cacheKey_identifies (first second : Request) (key : cacheKey first = cacheKey second) :
    resource first = resource second ↔ Alike first second := by
  have one := Request.shape first
  have other := Request.shape second
  constructor
  · intro same
    simp only [resource, Prod.mk.injEq] at same
    obtain ⟨host, target, query⟩ := same
    rw [cacheKey_eq, cacheKey_eq, host, query] at key
    have path := List.append_cancel_right (List.append_cancel_left key)
    exact ⟨by rw [path], by rw [path], (target_eq_iff one other path).mp target⟩
  · rintro ⟨star, counts, spelled⟩
    obtain ⟨host, rest⟩ := host_eq key star
    obtain ⟨path, query⟩ := split_at_count counts rest
    simp only [resource, Prod.mk.injEq]
    exact ⟨host, (target_eq_iff one other path).mpr spelled, query⟩

/-- A page whose name contains an escaped question mark. -/
def escapedMark : Request :=
  Request.of .get (text "status") (text "/a%3Fb") plainHost (by decide +kernel)

/-- Another page, with a query. -/
def queryMark : Request :=
  Request.of .get (text "status") (text "/a?b?") plainHost (by decide +kernel)

/-- The same page asked for with an empty query behind its question mark. -/
def forcedMark : Request :=
  Request.of .get (text "status") (text "/a%3Fb?") plainHost (by decide +kernel)

/-- Two pages share a key: the escaped question mark of one is the separator of the other. -/
theorem cacheKey_collides :
    cacheKey escapedMark = cacheKey queryMark
      ∧ escapedMark.url.requestURI = text "/a%3Fb"
      ∧ queryMark.url.requestURI = text "/a?b?"
      ∧ resource escapedMark ≠ resource queryMark := by
  decide +kernel

theorem cacheKey_identifies_forced :
    cacheKey escapedMark = cacheKey forcedMark
      ∧ (resource escapedMark = resource forcedMark ↔ Alike escapedMark forcedMark)
      ∧ Alike escapedMark forcedMark :=
  have key : cacheKey escapedMark = cacheKey forcedMark := by decide +kernel
  ⟨key, cacheKey_identifies escapedMark forcedMark key, by decide +kernel⟩

section Notifications

open Event Storage Notification

/-- What a change of a maintenance may come from or lead to; a creation comes
from no status. -/
def changeStatuses : List Status :=
  [.unset, .pendingReview, .reviewed, .planned, .inProgress, .modified, .completed, .cancelled]

/-- A change between statuses of a maintenance, or into one. -/
structure OfMaintenance (change : Change) : Prop where
  old : change.oldStatus = .unset ∨ isMaintenanceStatus change.oldStatus = true
  new : isMaintenanceStatus change.newStatus = true

/-- The key under which a change is announced to a recipient. -/
def changeKey (change : Change) (recipient : String) : String :=
  Resolver.dedupKey change.incidentId (kindForStatus change.newStatus) change.oldStatus
    change.newStatus recipient

/-- A row announces a change to a recipient, however far its delivery has come. -/
structure Announces (row : NotificationOutbox) (change : Change) (recipient : String) : Prop where
  incident : row.incidentId = change.incidentId
  addressee : row.recipient = recipient
  old : row.payload.oldStatus = change.oldStatus.text
  new : row.payload.newStatus = change.newStatus.text
  key : row.dedupKey = changeKey change recipient

theorem mem_changeStatuses {status : Status}
    (fits : status = .unset ∨ isMaintenanceStatus status = true) : status ∈ changeStatuses := by
  rcases fits with rfl | fits
  · exact List.mem_cons_self
  · cases status with
    | pendingReview | reviewed | planned | inProgress | modified | completed | cancelled =>
      simp [changeStatuses]
    | _ => cases fits

theorem OfMaintenance.mem {change : Change} (fits : OfMaintenance change) :
    change.oldStatus ∈ changeStatuses ∧ change.newStatus ∈ changeStatuses :=
  ⟨mem_changeStatuses fits.old, mem_changeStatuses (Or.inr fits.new)⟩

/-- The texts of these statuses contain no separator and differ from each other. -/
theorem changeStatuses_texts : ∀ status ∈ changeStatuses,
    '>' ∉ status.text.toList ∧ ':' ∉ status.text.toList ∧
      ∀ other ∈ changeStatuses, status.text = other.text → status = other := by
  decide +kernel

theorem digits_clear (id : Nat) : ':' ∉ (toString id).toList := by
  intro member
  have digit : ':'.isDigit = true := by
    apply Nat.isDigit_of_mem_toDigits (n := id) (by decide) (Nat.le_refl 10)
    simpa [Nat.repr] using member
  cases digit

theorem kind_clear (kind : NotificationKind) : ':' ∉ kind.text.toList := by
  cases kind <;> decide

/-- A part that does not contain the separator behind it can be read off. -/
theorem split_at_first {separator : Char} {first second left right : List Char}
    (clear : separator ∉ first) (other : separator ∉ second)
    (same : first ++ separator :: left = second ++ separator :: right) :
    first = second ∧ left = right := by
  apply split_at_count _ same
  rw [List.count_eq_zero.mpr clear, List.count_eq_zero.mpr other]

theorem changeKey_toList (change : Change) (recipient : String) :
    (changeKey change recipient).toList = (toString change.incidentId).toList ++
      ':' :: ((kindForStatus change.newStatus).text.toList ++
      ':' :: (change.oldStatus.text.toList ++
      '>' :: (change.newStatus.text.toList ++ ':' :: recipient.toList))) := by
  simp [changeKey, Resolver.dedupKey]

theorem changeKey_inj {first second : Change} (one : OfMaintenance first)
    (other : OfMaintenance second) {recipient another : String}
    (same : changeKey first recipient = changeKey second another) :
    first.incidentId = second.incidentId ∧ first.oldStatus = second.oldStatus ∧
      first.newStatus = second.newStatus ∧ recipient = another := by
  have texts := changeStatuses_texts first.oldStatus one.mem.1
  have others := changeStatuses_texts second.oldStatus other.mem.1
  have news := changeStatuses_texts first.newStatus one.mem.2
  have otherNews := changeStatuses_texts second.newStatus other.mem.2
  have whole := congrArg String.toList same
  rw [changeKey_toList, changeKey_toList] at whole
  -- the parts are read off from the left, up to the separator behind each
  obtain ⟨id, rest⟩ := split_at_first (digits_clear _) (digits_clear _) whole
  obtain ⟨_, rest⟩ := split_at_first (kind_clear _) (kind_clear _) rest
  obtain ⟨old, rest⟩ := split_at_first texts.1 others.1 rest
  obtain ⟨new, last⟩ := split_at_first news.2.1 otherNews.2.1 rest
  refine ⟨Nat.repr_injective (String.toList_inj.mp id), ?_, ?_, String.toList_inj.mp last⟩
  · exact texts.2.2 _ other.mem.1 (String.toList_inj.mp old)
  · exact news.2.2 _ other.mem.2 (String.toList_inj.mp new)

/-- The key of a change to a recipient determines incident, transition and
recipient.  So in a store whose rows announce changes of maintenances a row is
skipped only where the same transition was announced to the same recipient. -/
theorem changeKey_identifies {first second : Change} (one : OfMaintenance first)
    (other : OfMaintenance second) (recipient another : String) :
    (changeKey first recipient = changeKey second another ↔
      first.incidentId = second.incidentId ∧ first.oldStatus = second.oldStatus ∧
        first.newStatus = second.newStatus ∧ recipient = another) ∧
    ∀ (resolver : Resolver) (changedAt : Time) (changeId : String) (store : Store),
      (∀ entry ∈ store.outbox.rows, ∃ change address, OfMaintenance change ∧
        Announces entry.2 change address) →
      enqueue (resolver.buildRow changedAt changeId first recipient) store = .ok (false, store) →
      ∃ entry ∈ store.outbox.rows, Announces entry.2 first recipient := by
  refine ⟨⟨changeKey_inj one other, ?_⟩, ?_⟩
  · rintro ⟨id, old, new, rfl⟩
    unfold changeKey
    rw [id, old, new]
  · intro resolver changedAt changeId store stored skipped
    have taken : rowExists store (changeKey first recipient) = true := by
      unfold enqueue at skipped
      split_ifs at skipped with _ taken
      · exact taken
      · cases skipped
    rcases List.any_eq_true.mp taken with ⟨entry, member, same⟩
    refine ⟨entry, member, ?_⟩
    rcases stored entry member with ⟨change, address, fits, told⟩
    have keys : changeKey first recipient = changeKey change address :=
      (beq_iff_eq.mp same).symm.trans told.key
    rcases changeKey_inj one fits keys with ⟨id, old, new, rfl⟩
    exact ⟨told.incident.trans id.symm, told.addressee, by rw [told.old, old],
      by rw [told.new, new], told.key.trans keys.symm⟩

/-- A maintenance is created with a status. -/
def draftChange (incidentId : Nat) (newStatus : Status) : Change where
  incidentId := incidentId
  title := "upgrade"
  oldStatus := .unset
  newStatus := newStatus
  contactEmail := ""
  actor := "user"

/-- Recipients that look like the end of another key do not make keys collide. -/
theorem changeKey_identifies_lookalike :
    OfMaintenance (draftChange 1 .pendingReview) ∧
      changeKey (draftChange 1 .pendingReview) "planned:a" ≠
        changeKey (draftChange 1 .planned) "a" := by
  have draft : OfMaintenance (draftChange 1 .pendingReview) := ⟨Or.inl rfl, rfl⟩
  have planned : OfMaintenance (draftChange 1 .planned) := ⟨Or.inl rfl, rfl⟩
  refine ⟨draft, ?_⟩
  intro same
  have equal := (changeKey_identifies draft planned "planned:a" "a").1.mp same
  cases equal.2.2.1

end Notifications

end StatusDashboard.Properties
