import Mathlib

namespace StatusDashboard.Tables

/-!
# Join tables

A join table links ids of two tables.  Its unique index on the pair is the
field `nodup`: a pair is stored once or not at all, so linking twice is the
same as linking once.
-/

structure JoinTable where
  pairs : List (Nat × Nat)
  nodup : pairs.Nodup
deriving DecidableEq

namespace JoinTable

variable {table : JoinTable} {left : Nat} {pair : Nat × Nat} {others : List Nat}

def empty : JoinTable := ⟨[], List.nodup_nil⟩

/-- The right ids linked to a left id, in order of linking. -/
def right (table : JoinTable) (left : Nat) : List Nat :=
  table.pairs.filterMap (fun pair => if pair.1 = left then some pair.2 else none)

/-- Link one pair; an existing link stays as it is. -/
def link (table : JoinTable) (left other : Nat) : JoinTable :=
  if member : (left, other) ∈ table.pairs then table
  else ⟨table.pairs ++ [(left, other)],
    List.nodup_append.mpr ⟨table.nodup, List.nodup_singleton _, by
      intro pair stored added equal
      rw [List.mem_singleton.mp equal]
      rintro rfl
      exact member stored⟩⟩

def linkAll (table : JoinTable) (left : Nat) (others : List Nat) : JoinTable :=
  others.foldl (fun linked other => linked.link left other) table

/-- Remove the links of a left id to the listed right ids. -/
def unlinkAll (table : JoinTable) (left : Nat) (others : List Nat) : JoinTable :=
  ⟨table.pairs.filter (fun pair => !(pair.1 == left && others.contains pair.2)),
    table.nodup.filter _⟩

@[simp] theorem pairs_empty : empty.pairs = [] := rfl

theorem mem_right {other : Nat} :
    other ∈ table.right left ↔ (left, other) ∈ table.pairs := by
  simp only [right, List.mem_filterMap]
  constructor
  · rintro ⟨⟨stored, found⟩, member, selected⟩
    by_cases same : stored = left
    · simp only [same, if_true, Option.some.injEq] at selected
      exact selected ▸ same ▸ member
    · simp [same] at selected
  · intro member
    exact ⟨(left, other), member, by simp⟩

theorem right_nodup (table : JoinTable) (left : Nat) : (table.right left).Nodup := by
  unfold right
  apply table.nodup.filterMap
  intro first second found firstFound secondFound
  rcases first with ⟨firstLeft, firstRight⟩
  rcases second with ⟨secondLeft, secondRight⟩
  by_cases firstSame : firstLeft = left
  · by_cases secondSame : secondLeft = left
    · simp_all
    · simp [secondSame] at secondFound
  · simp [firstSame] at firstFound

theorem mem_link {other : Nat} :
    pair ∈ (table.link left other).pairs ↔ pair ∈ table.pairs ∨ pair = (left, other) := by
  unfold link
  by_cases member : (left, other) ∈ table.pairs
  · rw [dif_pos member]
    constructor
    · exact Or.inl
    · rintro (stored | rfl)
      · exact stored
      · exact member
  · rw [dif_neg member]
    simp

theorem mem_linkAll :
    pair ∈ (table.linkAll left others).pairs ↔
      pair ∈ table.pairs ∨ (pair.1 = left ∧ pair.2 ∈ others) := by
  induction others generalizing table with
  | nil => simp [linkAll]
  | cons other others ih =>
    have unfolded : table.linkAll left (other :: others) =
        (table.link left other).linkAll left others := rfl
    rw [unfolded, ih, mem_link, List.mem_cons, Prod.ext_iff]
    tauto

theorem mem_unlinkAll :
    pair ∈ (table.unlinkAll left others).pairs ↔
      pair ∈ table.pairs ∧ ¬ (pair.1 = left ∧ pair.2 ∈ others) := by
  simp [unlinkAll, imp_iff_not_or]

theorem mem_right_linkAll {holder : Nat} {found : Nat} :
    found ∈ (table.linkAll left others).right holder ↔
      found ∈ table.right holder ∨ (holder = left ∧ found ∈ others) := by
  rw [mem_right, mem_right, mem_linkAll]

theorem mem_right_unlinkAll {holder : Nat} {found : Nat} :
    found ∈ (table.unlinkAll left others).right holder ↔
      found ∈ table.right holder ∧ ¬ (holder = left ∧ found ∈ others) := by
  rw [mem_right, mem_right, mem_unlinkAll]

end JoinTable

end StatusDashboard.Tables
