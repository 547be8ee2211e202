import StatusDashboard.Notification.Config

namespace StatusDashboard.Properties

open Event Auth Notification

/-!
# The recipients of a change

The recipient list is compared with a description that starts at the texts of
the settings: which addresses a comma-separated setting lists, which domains
are allowed, who is entitled to hear of a status.  Parsing, exclusion, domain
check and insertion normalise an address each on their own; the description
says once what a normalised address is.
-/

/-! ## What the resolver collects -/

section Collected

variable {resolver : Resolver} {address : String}

/-- An address may be listed when it is neither empty nor excluded. -/
def Admissible (resolver : Resolver) (address : String) : Prop :=
  address ≠ "" ∧ address ∉ resolver.excluded.map resolver.normalizeEmail

theorem mem_add {ordered : List String} {raw : String} :
    address ∈ resolver.add ordered raw ↔
      address ∈ ordered ∨ Admissible resolver address ∧ address = resolver.normalizeEmail raw := by
  unfold Resolver.add Admissible
  dsimp only
  split_ifs with missing excluded listed
  · constructor
    · exact Or.inl
    · rintro (member | ⟨⟨nonempty, _⟩, rfl⟩)
      · exact member
      · exact absurd missing nonempty
  · constructor
    · exact Or.inl
    · rintro (member | ⟨⟨_, spared⟩, rfl⟩)
      · exact member
      · exact absurd excluded spared
  · constructor
    · exact Or.inl
    · rintro (member | ⟨_, rfl⟩)
      · exact member
      · exact listed
  · rw [List.mem_append, List.mem_singleton]
    constructor
    · rintro (member | rfl)
      · exact Or.inl member
      · exact Or.inr ⟨⟨missing, excluded⟩, rfl⟩
    · rintro (member | ⟨_, same⟩)
      · exact Or.inl member
      · exact Or.inr same

theorem mem_foldl_add {raws : List String} {ordered : List String} :
    address ∈ raws.foldl resolver.add ordered ↔
      address ∈ ordered ∨
        Admissible resolver address ∧ ∃ raw ∈ raws, address = resolver.normalizeEmail raw := by
  induction raws generalizing ordered with
  | nil => simp
  | cons raw raws ih =>
    rw [List.foldl_cons, ih, mem_add, or_assoc, ← and_or_left]
    simp only [List.mem_cons, exists_eq_or_imp]

/-- The collected addresses: the audience of a review status and the creator of
an allowed domain. -/
theorem mem_recipients {status : Status} {contactEmail : String} :
    address ∈ resolver.recipients status contactEmail ↔
      Admissible resolver address ∧
        (isReviewStatus status = true ∧
            (∃ raw ∈ resolver.smod :: resolver.operators ++ resolver.admins,
              address = resolver.normalizeEmail raw) ∨
          resolver.allowedDomain resolver.allowed contactEmail = true ∧
            address = resolver.normalizeEmail contactEmail) := by
  have audience : address ∈ (if isReviewStatus status then
        (resolver.smod :: resolver.operators ++ resolver.admins).foldl resolver.add []
      else []) ↔
      Admissible resolver address ∧ isReviewStatus status = true ∧
        ∃ raw ∈ resolver.smod :: resolver.operators ++ resolver.admins,
          address = resolver.normalizeEmail raw := by
    by_cases review : isReviewStatus status = true
    · rw [if_pos review, mem_foldl_add]
      simp only [review, true_and, List.not_mem_nil, false_or]
    · rw [if_neg review]
      constructor
      · intro impossible
        cases impossible
      · rintro ⟨_, impossible, _⟩
        exact absurd impossible review
  unfold Resolver.recipients
  dsimp only
  by_cases allowed : resolver.allowedDomain resolver.allowed contactEmail = true
  · rw [if_pos allowed, mem_add, audience, ← and_or_left]
    simp only [allowed, true_and]
  · rw [if_neg allowed, audience]
    simp only [allowed, Bool.false_eq_true, false_and, or_false]

end Collected

/-! ## Who is entitled -/

section Entitled

variable {casing : Casing}

/-- A comma-separated setting lists an address: the address is not empty and the
normal form of one of the parts. -/
def ListedIn (casing : Casing) (raw address : String) : Prop :=
  address ≠ "" ∧
    ∃ part ∈ raw.toList.splitOn ',', casing.normalizeEmail (String.ofList part) = address

/-- The domain setting allows an address: it lists nothing, or it lists the
normalised domain after the last `@`. -/
def DomainAllowed (casing : Casing) (raw email : String) : Prop :=
  (∀ domain, ¬ ListedIn casing raw domain) ∨
    ∃ user domain : List Char, email.toList = user ++ '@' :: domain ∧ '@' ∉ domain ∧
      ListedIn casing raw (casing.normalizeEmail (String.ofList domain))

/-- The addresses that are to hear of a maintenance in a status. -/
def Entitled (casing : Casing) (settings : NotificationsConfig) (status : Status)
    (contactEmail address : String) : Prop :=
  (status = .pendingReview ∨ status = .reviewed) ∧
      (address = casing.normalizeEmail settings.smodEmail ∨
        ListedIn casing settings.emailsOperators address ∨
        ListedIn casing settings.emailsAdmins address) ∨
    DomainAllowed casing settings.allowedDomains contactEmail ∧
      address = casing.normalizeEmail contactEmail

theorem ListedIn.normal {raw address : String} (listed : ListedIn casing raw address) :
    casing.normalizeEmail address = address := by
  rcases listed with ⟨_, part, _, rfl⟩
  exact casing.normalizeEmail_normalizeEmail _

theorem Entitled.normal {settings : NotificationsConfig} {status : Status}
    {contactEmail address : String}
    (entitled : Entitled casing settings status contactEmail address) :
    casing.normalizeEmail address = address := by
  rcases entitled with ⟨_, rfl | operator | admin⟩ | ⟨_, rfl⟩
  · exact casing.normalizeEmail_normalizeEmail _
  · exact operator.normal
  · exact admin.normal
  · exact casing.normalizeEmail_normalizeEmail _

theorem mem_splitEmails {raw address : String} :
    address ∈ splitEmails casing raw ↔ ListedIn casing raw address := by
  unfold splitEmails ListedIn
  rw [List.mem_filter, List.mem_map, decide_eq_true_eq, and_comm]

theorem map_normalizeEmail_splitEmails (raw : String) :
    (splitEmails casing raw).map casing.normalizeEmail = splitEmails casing raw := by
  conv_rhs => rw [← List.map_id (splitEmails casing raw)]
  apply List.map_congr_left
  intro address member
  exact (mem_splitEmails.mp member).normal

theorem isReviewStatus_iff {status : Status} :
    isReviewStatus status = true ↔ status = .pendingReview ∨ status = .reviewed := by
  unfold isReviewStatus
  rw [Bool.or_eq_true, beq_iff_eq, beq_iff_eq]

/-- The domain is what stands after the last `@`. -/
theorem domainOf_eq_some_iff {email domain : List Char} :
    Resolver.domainOf email = some domain ↔
      '@' ∉ domain ∧ ∃ user, email = user ++ '@' :: domain := by
  unfold Resolver.domainOf
  constructor
  · intro found
    split_ifs at found with marked
    cases found
    have last : '@' ∉ email.rtakeWhile (fun char => char ≠ '@') := by
      intro member
      have other := List.mem_rtakeWhile_imp member
      simp at other
    -- what is left of the domain ends with the mark
    have whole : email.rdropWhile (fun char => char ≠ '@') ++
        email.rtakeWhile (fun char => char ≠ '@') = email := List.rdropWhile_append_rtakeWhile
    have nonempty : email.rdropWhile (fun char => char ≠ '@') ≠ [] := by
      intro empty
      rw [empty, List.nil_append] at whole
      rw [whole] at last
      exact last marked
    have mark := List.rdropWhile_last_not _ email nonempty
    have mark : (email.rdropWhile (fun char => char ≠ '@')).getLast nonempty = '@' := by
      simpa using mark
    refine ⟨last, (email.rdropWhile (fun char => char ≠ '@')).dropLast, ?_⟩
    have split := List.dropLast_append_getLast nonempty
    rw [mark] at split
    rw [List.append_cons, split]
    exact whole.symm
  · rintro ⟨last, user, rfl⟩
    rw [if_pos (by simp)]
    have others : ∀ char ∈ domain.reverse, decide (char ≠ '@') = true := by
      intro char member
      rw [decide_eq_true_eq]
      rintro rfl
      exact last (List.mem_reverse.mp member)
    rw [List.reverse_append, List.reverse_cons, List.append_assoc,
      List.takeWhile_append_of_pos others]
    simp

theorem allowedDomain_iff {resolver : Resolver} {raw email : String}
    (normal : resolver.normalizeEmail = casing.normalizeEmail) :
    resolver.allowedDomain (splitEmails casing raw) email = true ↔
      DomainAllowed casing raw email := by
  have empty : splitEmails casing raw = [] ↔ ∀ domain, ¬ ListedIn casing raw domain := by
    rw [List.eq_nil_iff_forall_not_mem]
    exact forall_congr' (fun domain => not_congr mem_splitEmails)
  unfold Resolver.allowedDomain DomainAllowed
  rw [← empty]
  by_cases none : splitEmails casing raw = []
  · rw [if_pos none]
    exact ⟨fun _ => Or.inl none, fun _ => rfl⟩
  · rw [if_neg none, or_iff_right none]
    cases found : Resolver.domainOf email.toList with
    | none =>
      constructor
      · exact fun impossible => absurd impossible Bool.false_ne_true
      · rintro ⟨user, domain, shape, last, _⟩
        rw [domainOf_eq_some_iff.mpr ⟨last, user, shape⟩] at found
        cases found
    | some domain =>
      dsimp only
      rw [List.contains_iff_mem, normal, mem_splitEmails]
      constructor
      · intro listed
        rcases domainOf_eq_some_iff.mp found with ⟨last, user, shape⟩
        exact ⟨user, domain, shape, last, listed⟩
      · rintro ⟨user, other, shape, last, listed⟩
        rw [domainOf_eq_some_iff.mpr ⟨last, user, shape⟩] at found
        cases found
        exact listed

end Entitled

/-! ## The recipients -/

section Recipients

variable {casing : Casing} {parsers : Parsers} {conf : Conf} {config : Config}

/-- A configuration that was parsed has the lists of its settings, whatever the
numbers and durations are. -/
theorem configFromConf_lists (built : configFromConf casing parsers conf = .ok config) :
    config.reviewSMOD = trimSpace conf.notifications.smodEmail ∧
      config.reviewOperators = splitEmails casing conf.notifications.emailsOperators ∧
      config.reviewAdmins = splitEmails casing conf.notifications.emailsAdmins ∧
      config.allowedDomains = splitEmails casing conf.notifications.allowedDomains ∧
      config.excludedEmails = splitEmails casing conf.notifications.excludedEmails := by
  unfold configFromConf at built
  dsimp only at built
  split_ifs at built
  · cases built
    exact ⟨rfl, rfl, rfl, rfl, rfl⟩
  · rcases parsed_bind_ok built with ⟨port, _, built⟩
    rcases parsed_bind_ok built with ⟨timeout, _, built⟩
    rcases parsed_bind_ok built with ⟨leaseTimeout, _, built⟩
    rcases parsed_bind_ok built with ⟨backoffBase, _, built⟩
    rcases parsed_bind_ok built with ⟨maxAttempts, _, built⟩
    cases built
    exact ⟨rfl, rfl, rfl, rfl, rfl⟩

theorem admissible_iff (built : configFromConf casing parsers conf = .ok config)
    (address : String) :
    Admissible (newResolver casing config) address ↔
      address ≠ "" ∧ ¬ ListedIn casing conf.notifications.excludedEmails address := by
  rcases configFromConf_lists built with ⟨_, _, _, _, excluded⟩
  have parts : (newResolver casing config).excluded.map
      (newResolver casing config).normalizeEmail =
        splitEmails casing conf.notifications.excludedEmails := by
    change config.excludedEmails.map casing.normalizeEmail = _
    rw [excluded, map_normalizeEmail_splitEmails]
  unfold Admissible
  rw [parts, mem_splitEmails]

/-- The audience of a review status, in the words of the settings. -/
theorem audience_listed (built : configFromConf casing parsers conf = .ok config)
    {address : String} :
    (∃ raw ∈ config.reviewSMOD :: config.reviewOperators ++ config.reviewAdmins,
        address = casing.normalizeEmail raw) ↔
      address = casing.normalizeEmail conf.notifications.smodEmail ∨
        ListedIn casing conf.notifications.emailsOperators address ∨
        ListedIn casing conf.notifications.emailsAdmins address := by
  rcases configFromConf_lists built with ⟨smod, operators, admins, _, _⟩
  rw [smod, operators, admins]
  have part : ∀ list : String, (∃ raw ∈ splitEmails casing list,
      address = casing.normalizeEmail raw) ↔ ListedIn casing list address := by
    intro list
    rw [← mem_splitEmails, ← map_normalizeEmail_splitEmails, List.mem_map]
    simp only [map_normalizeEmail_splitEmails, eq_comm]
  simp only [List.cons_append, List.mem_cons, List.mem_append, or_and_right, exists_or,
    exists_eq_left, Casing.normalizeEmail_trimSpace, part]

theorem mem_recipients_iff (built : configFromConf casing parsers conf = .ok config)
    {status : Status} {contactEmail address : String} :
    address ∈ (newResolver casing config).recipients status contactEmail ↔
      address ≠ "" ∧ ¬ ListedIn casing conf.notifications.excludedEmails address ∧
        Entitled casing conf.notifications status contactEmail address := by
  have domains := (configFromConf_lists built).2.2.2.1
  have allowed : (newResolver casing config).allowedDomain (newResolver casing config).allowed
      contactEmail = true ↔
        DomainAllowed casing conf.notifications.allowedDomains contactEmail := by
    change (newResolver casing config).allowedDomain config.allowedDomains contactEmail = true ↔ _
    rw [domains]
    exact allowedDomain_iff rfl
  rw [mem_recipients, admissible_iff built, isReviewStatus_iff, allowed, and_assoc]
  change _ ∧ _ ∧ ((_ ∧ ∃ raw ∈ config.reviewSMOD :: config.reviewOperators ++
    config.reviewAdmins, address = casing.normalizeEmail raw) ∨ _) ↔ _
  rw [audience_listed built]
  rfl

/-- Whoever is entitled hears of a change, and nobody else. -/
theorem recipients_entitled (built : configFromConf casing parsers conf = .ok config)
    (status : Status) (contactEmail : String) :
    ((newResolver casing config).recipients status contactEmail).Nodup ∧
      (∀ address ∈ (newResolver casing config).recipients status contactEmail,
        trimSpace address = address ∧ casing.toLower address = address) ∧
      (∀ address ∈ (newResolver casing config).recipients status contactEmail,
        ¬ ListedIn casing conf.notifications.excludedEmails address) ∧
      ∀ address, address ∈ (newResolver casing config).recipients status contactEmail ↔
        address ≠ "" ∧ ¬ ListedIn casing conf.notifications.excludedEmails address ∧
          Entitled casing conf.notifications status contactEmail address := by
  have members : ∀ address,
      address ∈ (newResolver casing config).recipients status contactEmail ↔
        address ≠ "" ∧ ¬ ListedIn casing conf.notifications.excludedEmails address ∧
          Entitled casing conf.notifications status contactEmail address := by
    intro address
    exact mem_recipients_iff built
  refine ⟨Resolver.recipients_nodup _ _ _, ?_, ?_, members⟩
  · intro address member
    have normal := ((members address).mp member).2.2.normal
    rw [← normal]
    exact ⟨casing.trimSpace_normalizeEmail address, casing.toLower_normalizeEmail address⟩
  · intro address member
    exact ((members address).mp member).2.1

/-- Settings with two spellings of the SMOD address among the operators, and the
admin excluded in another case. -/
def sampleConf : Conf where
  webURL := "https://status/"
  smtp :=
    { from_ := "status@x", host := "relay", port := "25", user := "", password := "",
      tls := false, timeout := "30s" }
  notifications :=
    { enabled := true, leaseTimeout := "60s", maxAttempts := "5", backoffInterval := "5m",
      smodEmail := " Smod@x ", emailsOperators := "smod@X, op@x,", emailsAdmins := "Root@x",
      allowedDomains := "Example.com", excludedEmails := "root@X" }

def sampleParsers : Parsers where
  atoi := fun _ => .ok 5
  parseDuration := fun _ => .ok 60

/-- A draft of a creator of an allowed domain. -/
theorem recipients_entitled_draft :
    ∃ config, configFromConf .ascii sampleParsers sampleConf = .ok config ∧
      (newResolver .ascii config).recipients .pendingReview "Ann@Example.COM " =
        ["smod@x", "op@x", "ann@example.com"] ∧
      Entitled .ascii sampleConf.notifications .pendingReview "Ann@Example.COM " "op@x" := by
  refine ⟨_, rfl, by decide +kernel, ?_⟩
  have exactly := @recipients_entitled .ascii sampleParsers sampleConf _ rfl .pendingReview
    "Ann@Example.COM "
  exact ((exactly.2.2.2 "op@x").mp (by decide +kernel)).2.2

end Recipients

end StatusDashboard.Properties
