import StatusDashboard.Notification.Resolver
import StatusDashboard.Auth.Roles

namespace StatusDashboard.Notification

open Auth

/-!
# From the settings of a deployment to its resolver

The settings are texts of the environment.  Recipient lists are separated by
commas and normalised when they are parsed; numbers and durations are parsed
only for an enabled feature.  The standard library's lower case of a character
is a parameter with the two laws that the character tables of the language
satisfy; its number and duration parsers are parameters without laws.
-/

/-! ## Trimming -/

section Trimming

variable {α : Type} (p : α → Bool)

/-- A list without the marks at its ends has no marks at its ends. -/
theorem trimmed_trimmed (l : List α) :
    (((l.dropWhile p).rdropWhile p).dropWhile p).rdropWhile p =
      (l.dropWhile p).rdropWhile p := by
  have front : ((l.dropWhile p).rdropWhile p).dropWhile p = (l.dropWhile p).rdropWhile p := by
    rw [List.dropWhile_eq_self_iff]
    intro nonempty
    -- the first element is still that of the list whose front was trimmed
    have kept := List.dropWhile_eq_self_iff.mp (List.dropWhile_idempotent (p := p) l)
    have within := List.rdropWhile_prefix p (l.dropWhile p)
    have longer : 0 < (l.dropWhile p).length := lt_of_lt_of_le nonempty within.length_le
    rw [within.getElem nonempty]
    exact kept longer
  rw [front, List.rdropWhile_idempotent]

/-- Trimming commutes with a map that keeps the marks. -/
theorem trimmed_map (f : α → α) (kept : ∀ a, p (f a) = p a) (l : List α) :
    ((l.map f).dropWhile p).rdropWhile p = ((l.dropWhile p).rdropWhile p).map f := by
  have same : p ∘ f = p := funext kept
  rw [List.dropWhile_map, same]
  unfold List.rdropWhile
  rw [← List.map_reverse, List.dropWhile_map, same, List.map_reverse]

end Trimming

theorem trimSpace_trimSpace (text : String) : trimSpace (trimSpace text) = trimSpace text := by
  unfold trimSpace
  rw [String.toList_ofList, trimmed_trimmed]

/-! ## Lower case -/

/-- A lower case of characters.  A lower-cased character is its own lower case,
and lower-casing neither makes nor removes white space. -/
structure Casing where
  lower : Char → Char
  lower_lower : ∀ char, lower (lower char) = lower char
  isSpace_lower : ∀ char, isSpace (lower char) = isSpace char

namespace Casing

def toLower (casing : Casing) (text : String) : String :=
  String.ofList (text.toList.map casing.lower)

def normalizeEmail (casing : Casing) (email : String) : String :=
  casing.toLower (trimSpace email)

theorem toLower_toLower (casing : Casing) (text : String) :
    casing.toLower (casing.toLower text) = casing.toLower text := by
  unfold toLower
  rw [String.toList_ofList, List.map_map]
  congr 2
  funext char
  exact casing.lower_lower char

theorem trimSpace_toLower (casing : Casing) (text : String) :
    trimSpace (casing.toLower text) = casing.toLower (trimSpace text) := by
  unfold toLower trimSpace
  rw [String.toList_ofList, String.toList_ofList,
    trimmed_map isSpace casing.lower casing.isSpace_lower]

@[simp] theorem trimSpace_normalizeEmail (casing : Casing) (email : String) :
    trimSpace (casing.normalizeEmail email) = casing.normalizeEmail email := by
  unfold normalizeEmail
  rw [trimSpace_toLower, trimSpace_trimSpace]

@[simp] theorem toLower_normalizeEmail (casing : Casing) (email : String) :
    casing.toLower (casing.normalizeEmail email) = casing.normalizeEmail email :=
  casing.toLower_toLower (trimSpace email)

@[simp] theorem normalizeEmail_trimSpace (casing : Casing) (email : String) :
    casing.normalizeEmail (trimSpace email) = casing.normalizeEmail email := by
  unfold normalizeEmail
  rw [trimSpace_trimSpace]

@[simp] theorem normalizeEmail_normalizeEmail (casing : Casing) (email : String) :
    casing.normalizeEmail (casing.normalizeEmail email) = casing.normalizeEmail email := by
  change casing.toLower (trimSpace (casing.normalizeEmail email)) = _
  rw [trimSpace_normalizeEmail, toLower_normalizeEmail]

theorem isSpace_of_isAlpha {char : Char} (alpha : char.isAlpha = true) :
    isSpace char = false := by
  have bounds : 65 ≤ char.toNat ∧ char.toNat ≤ 122 := by
    have same : char.val.toNat = char.toNat := rfl
    simp only [Char.isAlpha, Char.isUpper, Char.isLower, Bool.or_eq_true, Bool.and_eq_true,
      decide_eq_true_eq, UInt32.le_iff_toNat_le, ge_iff_le] at alpha
    simp at alpha
    omega
  unfold isSpace
  simp only [List.contains_eq_mem, List.mem_cons, List.not_mem_nil, or_false,
    Bool.or_eq_false_iff, decide_eq_false_iff_not, Bool.and_eq_false_iff]
  omega

/-- Lower case of the letters `A` to `Z` only. -/
def ascii : Casing where
  lower := Char.toLower
  lower_lower := Char.toLower_toLower_eq_toLower
  isSpace_lower := by
    intro char
    by_cases upper : char.isUpper = true
    · have alpha : char.isAlpha = true := by simp [Char.isAlpha, upper]
      have lowered : char.toLower.isAlpha = true := by
        rw [Char.isAlpha_toLower_eq_isAlpha, alpha]
      rw [isSpace_of_isAlpha alpha, isSpace_of_isAlpha lowered]
    · rw [Char.toLower_eq_of_not_isUpper upper]

end Casing

/-! ## Settings -/

structure SMTPConfig where
  from_ : String
  host : String
  port : String
  user : String
  password : String
  tls : Bool
  timeout : String
deriving DecidableEq, Repr

structure NotificationsConfig where
  enabled : Bool
  leaseTimeout : String
  maxAttempts : String
  backoffInterval : String
  smodEmail : String
  emailsOperators : String
  emailsAdmins : String
  allowedDomains : String
  excludedEmails : String
deriving DecidableEq, Repr

structure Conf where
  webURL : String
  smtp : SMTPConfig
  notifications : NotificationsConfig
deriving DecidableEq, Repr

/-- The parsers of the standard library, with the text of the error they return. -/
structure Parsers where
  atoi : String → Except String Int
  parseDuration : String → Except String Int

/-- The parsed configuration; a duration is a number of nanoseconds. -/
structure Config where
  enabled : Bool
  from_ : String
  host : String
  port : Int
  user : String
  password : String
  tls : Bool
  timeout : Int
  leaseTimeout : Int
  maxAttempts : Int
  backoffBase : Int
  reviewSMOD : String
  reviewOperators : List String
  reviewAdmins : List String
  allowedDomains : List String
  excludedEmails : List String
  baseURL : String
deriving DecidableEq, Repr

/-- The normalised parts of a comma-separated list that are not empty. -/
def splitEmails (casing : Casing) (raw : String) : List String :=
  ((raw.toList.splitOn ',').map (fun part => casing.normalizeEmail (String.ofList part))).filter
    (fun email => email ≠ "")

/-- A parse whose error names the variable it was read from. -/
def parsed {α : Type} (source : String) (result : Except String α) : Except String α :=
  result.mapError (fun text => "invalid " ++ source ++ ": " ++ text)

/-- A parse followed by the rest succeeds only when the parse does. -/
theorem parsed_bind_ok {α β : Type} {source : String} {result : Except String α}
    {rest : α → Except String β} {value : β}
    (succeeds : (parsed source result >>= rest) = .ok value) :
    ∃ first, result = .ok first ∧ rest first = .ok value := by
  cases result with
  | error => cases succeeds
  | ok first => exact ⟨first, rfl, succeeds⟩

def configFromConf (casing : Casing) (parsers : Parsers) (c : Conf) : Except String Config :=
  let out : Config :=
    { enabled := c.notifications.enabled
      from_ := c.smtp.from_
      host := c.smtp.host
      port := 0
      user := c.smtp.user
      password := c.smtp.password
      tls := c.smtp.tls
      timeout := 0
      leaseTimeout := 0
      maxAttempts := 0
      backoffBase := 0
      reviewSMOD := trimSpace c.notifications.smodEmail
      reviewOperators := splitEmails casing c.notifications.emailsOperators
      reviewAdmins := splitEmails casing c.notifications.emailsAdmins
      allowedDomains := splitEmails casing c.notifications.allowedDomains
      excludedEmails := splitEmails casing c.notifications.excludedEmails
      baseURL := String.ofList (c.webURL.toList.rdropWhile (fun char => char = '/')) }
  if !c.notifications.enabled then .ok out
  else do
    let port ← parsed "SD_SMTP_PORT" (parsers.atoi c.smtp.port)
    let timeout ← parsed "SD_SMTP_TIMEOUT" (parsers.parseDuration c.smtp.timeout)
    let leaseTimeout ← parsed "SD_NOTIFICATIONS_LEASE_TIMEOUT"
      (parsers.parseDuration c.notifications.leaseTimeout)
    let backoffBase ← parsed "SD_NOTIFICATIONS_BACKOFF_INTERVAL"
      (parsers.parseDuration c.notifications.backoffInterval)
    let maxAttempts ← parsed "SD_NOTIFICATIONS_MAX_ATTEMPTS"
      (parsers.atoi c.notifications.maxAttempts)
    .ok { out with
      port := port
      timeout := timeout
      leaseTimeout := leaseTimeout
      backoffBase := backoffBase
      maxAttempts := maxAttempts }

/-- The excluded addresses are normalised where they are looked up, in
`Resolver.add`. -/
def newResolver (casing : Casing) (cfg : Config) : Resolver where
  smod := cfg.reviewSMOD
  operators := cfg.reviewOperators
  admins := cfg.reviewAdmins
  excluded := cfg.excludedEmails
  allowed := cfg.allowedDomains
  baseURL := cfg.baseURL
  toLower := casing.toLower
  trimSpace := trimSpace

end StatusDashboard.Notification
