import Mathlib

namespace StatusDashboard.Tables

/-!
# Recency lists within a budget

A recency list holds values under distinct keys, the most recently used first.
Its values have sizes, and their total never exceeds a fixed budget.  Storing a
value keeps as many of the most recent ones as the budget allows, which is the
longest prefix of the new list that fits.  An implementation that gives up
values from the far end, one by one, ends with the same prefix.
-/

variable {κ ν : Type} [DecidableEq κ]

/-- The total size of the stored values. -/
def total (size : ν → Nat) (entries : List (κ × ν)) : Nat :=
  (entries.map (fun entry => size entry.2)).sum

/-- The entries under the other keys. -/
def without (key : κ) (entries : List (κ × ν)) : List (κ × ν) :=
  entries.filter (fun entry => decide (entry.1 ≠ key))

/-- Keep entries from the front as long as they fit. -/
def retain (size : ν → Nat) : Nat → List (κ × ν) → List (κ × ν)
  | _, [] => []
  | budget, entry :: rest =>
    if size entry.2 ≤ budget then entry :: retain size (budget - size entry.2) rest else []

/-- The longest of the prefixes whose total is within the budget. -/
structure LongestPrefix (size : ν → Nat) (budget : Nat)
    (entries kept : List (κ × ν)) : Prop where
  initial : kept <+: entries
  fits : total size kept ≤ budget
  longest : ∀ other, other <+: entries → total size other ≤ budget → other <+: kept

section Totals

omit [DecidableEq κ]
variable {size : ν → Nat}

variable {budget : Nat} {entries : List (κ × ν)}

@[simp] theorem total_cons (entry : κ × ν) (entries : List (κ × ν)) :
    total size (entry :: entries) = size entry.2 + total size entries := by
  simp [total]

theorem total_perm {front back : List (κ × ν)} (same : front.Perm back) :
    total size front = total size back :=
  (same.map _).sum_eq

theorem retain_longest (budget : Nat) (entries : List (κ × ν)) :
    LongestPrefix size budget entries (retain size budget entries) := by
  induction entries generalizing budget with
  | nil =>
    refine ⟨List.prefix_rfl, Nat.zero_le _, ?_⟩
    intro other initial fits
    exact initial
  | cons entry rest ih =>
    by_cases room : size entry.2 ≤ budget
    · have kept := ih (budget - size entry.2)
      have unfolded : retain size budget (entry :: rest)
          = entry :: retain size (budget - size entry.2) rest := by
        rw [retain, if_pos room]
      rw [unfolded]
      refine ⟨(List.prefix_cons_inj entry).mpr kept.initial, ?_, ?_⟩
      · have fits := kept.fits
        rw [total_cons]
        omega
      · intro other initial fits
        cases other with
        | nil => exact List.nil_prefix
        | cons first others =>
          obtain ⟨rfl, shorter⟩ := List.cons_prefix_cons.mp initial
          rw [total_cons] at fits
          exact (List.prefix_cons_inj first).mpr (kept.longest others shorter (by omega))
    · have unfolded : retain size budget (entry :: rest) = [] := by
        rw [retain, if_neg room]
      rw [unfolded]
      refine ⟨List.nil_prefix, Nat.zero_le _, ?_⟩
      intro other initial fits
      cases other with
      | nil => exact List.nil_prefix
      | cons =>
        obtain ⟨rfl, -⟩ := List.cons_prefix_cons.mp initial
        rw [total_cons] at fits
        omega

theorem LongestPrefix.unique {kept other : List (κ × ν)}
    (first : LongestPrefix size budget entries kept)
    (second : LongestPrefix size budget entries other) : kept = other :=
  (second.longest kept first.initial first.fits).eq_of_length
    (Nat.le_antisymm (second.longest kept first.initial first.fits).length_le
      (first.longest other second.initial second.fits).length_le)

theorem retain_of_fits (fits : total size entries ≤ budget) :
    retain size budget entries = entries :=
  (retain_longest budget entries).unique
    ⟨List.prefix_rfl, fits, fun _ initial _ => initial⟩

/-- Giving up the last entry of a list that does not fit leaves the kept ones as they were. -/
theorem retain_dropLast (exceeds : budget < total size entries) :
    retain size budget entries.dropLast = retain size budget entries := by
  have kept : LongestPrefix size budget entries _ := retain_longest budget entries
  refine (retain_longest budget entries.dropLast).unique ⟨?_, kept.fits, ?_⟩
  · -- The kept prefix is not the whole list, since the whole list does not fit.
    obtain ⟨back, split⟩ := kept.initial
    rcases List.eq_nil_or_concat back with rfl | ⟨initial, last, rfl⟩
    · have fits := kept.fits
      rw [List.append_nil] at split
      rw [split] at fits
      omega
    · have shorter : entries.dropLast = retain size budget entries ++ initial := by
        conv_lhs => rw [← split]
        simp [← List.append_assoc]
      rw [shorter]
      exact List.prefix_append _ _
  · intro other initial fits
    exact kept.longest other (initial.trans (List.dropLast_prefix entries)) fits

end Totals

section Keys

theorem mem_without {key : κ} {entries : List (κ × ν)} {entry : κ × ν} :
    entry ∈ without key entries ↔ entry ∈ entries ∧ entry.1 ≠ key := by
  simp [without]

theorem without_sublist (key : κ) (entries : List (κ × ν)) :
    (without key entries).Sublist entries :=
  List.filter_sublist

theorem keys_nodup_cons_without {entries : List (κ × ν)} (key : κ) (value : ν)
    (nodup : (entries.map Prod.fst).Nodup) :
    (((key, value) :: without key entries).map Prod.fst).Nodup := by
  rw [List.map_cons]
  refine List.nodup_cons.mpr ⟨?_, nodup.sublist ((without_sublist key entries).map _)⟩
  intro present
  obtain ⟨entry, member, same⟩ := List.mem_map.mp present
  exact (mem_without.mp member).2 same

omit [DecidableEq κ] in
/-- Under distinct keys an entry is determined by its key. -/
theorem value_unique {entries : List (κ × ν)} (nodup : (entries.map Prod.fst).Nodup)
    {key : κ} {first second : ν} (one : (key, first) ∈ entries)
    (other : (key, second) ∈ entries) : first = second := by
  have same := List.inj_on_of_nodup_map nodup one other rfl
  exact congrArg Prod.snd same

/-- Taking one entry to the front reorders the list and nothing else. -/
theorem front_perm {entries : List (κ × ν)} (nodup : (entries.map Prod.fst).Nodup)
    {key : κ} {value : ν} (member : (key, value) ∈ entries) :
    ((key, value) :: without key entries).Perm entries := by
  refine (List.perm_ext_iff_of_nodup
    (keys_nodup_cons_without key value nodup).of_map nodup.of_map).mpr ?_
  rintro ⟨other, stored⟩
  rw [List.mem_cons, mem_without]
  constructor
  · rintro (same | ⟨present, different⟩)
    · exact same ▸ member
    · exact present
  · intro present
    by_cases same : other = key
    · subst same
      exact Or.inl (by rw [value_unique nodup present member])
    · exact Or.inr ⟨present, same⟩

end Keys

/-- A recency list: distinct keys, and values whose total is within the budget. -/
structure Recency (κ ν : Type) (size : ν → Nat) (budget : Nat) where
  entries : List (κ × ν)
  nodup : (entries.map Prod.fst).Nodup
  fits : total size entries ≤ budget

namespace Recency

variable {size : ν → Nat} {budget : Nat}

variable {list : Recency κ ν size budget} {key : κ} {value : ν}

def empty : Recency κ ν size budget := ⟨[], List.nodup_nil, Nat.zero_le _⟩

/-- The value under a key. -/
def find (list : Recency κ ν size budget) (key : κ) : Option ν :=
  (list.entries.find? (fun entry => decide (entry.1 = key))).map Prod.snd

theorem find_eq_some :
    list.find key = some value ↔ (key, value) ∈ list.entries := by
  unfold find
  rw [Option.map_eq_some_iff]
  constructor
  · rintro ⟨⟨stored, found⟩, search, rfl⟩
    have same : stored = key := by simpa using List.find?_some search
    exact same ▸ List.mem_of_find?_eq_some search
  · intro member
    cases search : list.entries.find? (fun entry => decide (entry.1 = key)) with
    | none =>
      have absent := List.find?_eq_none.mp search (key, value) member
      simp at absent
    | some entry =>
      have same : entry.1 = key := by simpa using List.find?_some search
      refine ⟨entry, rfl, value_unique list.nodup ?_ member⟩
      rw [← same]
      exact List.mem_of_find?_eq_some search

/-- Take the value under a key, if there is one, to the front. -/
def touch (list : Recency κ ν size budget) (key : κ) : Recency κ ν size budget :=
  match found : list.find key with
  | none => list
  | some value =>
    { entries := (key, value) :: without key list.entries
      nodup := keys_nodup_cons_without key value list.nodup
      fits := by
        rw [total_perm (front_perm list.nodup (find_eq_some.mp found))]
        exact list.fits }

/-- Store a value in front and keep what fits; a value larger than the budget is not stored. -/
def put (list : Recency κ ν size budget) (key : κ) (value : ν) : Recency κ ν size budget :=
  if size value ≤ budget then
    { entries := retain size budget ((key, value) :: without key list.entries)
      nodup := (keys_nodup_cons_without key value list.nodup).sublist
        ((retain_longest _ _).initial.sublist.map _)
      fits := (retain_longest _ _).fits }
  else list

theorem touch_absent (absent : list.find key = none) : list.touch key = list := by
  unfold touch
  split
  · rfl
  · simp_all

theorem touch_present (present : list.find key = some value) :
    (list.touch key).entries = (key, value) :: without key list.entries := by
  unfold touch
  split
  · simp_all
  · simp_all

theorem mem_touch {entry : κ × ν} :
    entry ∈ (list.touch key).entries ↔ entry ∈ list.entries := by
  cases found : list.find key with
  | none => rw [touch_absent found]
  | some =>
    rw [touch_present found]
    exact (front_perm list.nodup (find_eq_some.mp found)).mem_iff

theorem put_large (large : budget < size value) : list.put key value = list := by
  rw [put, if_neg (Nat.not_le.mpr large)]

theorem put_longest (room : size value ≤ budget) :
    LongestPrefix size budget ((key, value) :: without key list.entries)
      (list.put key value).entries := by
  rw [put, if_pos room]
  exact retain_longest budget _

/-- A value that fits is never given up by its own storing. -/
theorem put_front (room : size value ≤ budget) :
    (list.put key value).entries.head? = some (key, value) := by
  rw [put, if_pos room]
  simp only [retain]
  rw [if_pos room]
  rfl

end Recency

end StatusDashboard.Tables
