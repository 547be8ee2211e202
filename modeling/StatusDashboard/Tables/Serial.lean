import Mathlib

namespace StatusDashboard.Tables

/-!
# Tables with a serial key

A table hands out the ids `1, 2, 3, …` in order of insertion and never reuses
one: a deleted row leaves an empty cell behind.  The id of a row is therefore
its position, two rows never share an id, and listing the cells lists the rows
in id order.
-/

variable {ρ : Type}

structure SerialTable (ρ : Type) where
  cells : List (Option ρ)
deriving DecidableEq, Repr

namespace SerialTable

variable {table : SerialTable ρ} {id : Nat} {row : ρ}

def empty : SerialTable ρ := ⟨[]⟩

def get? (table : SerialTable ρ) : Nat → Option ρ
  | 0 => none
  | position + 1 => (table.cells[position]?).join

/-- The id the next inserted row receives. -/
def nextId (table : SerialTable ρ) : Nat :=
  table.cells.length + 1

def insert (table : SerialTable ρ) (row : ρ) : SerialTable ρ :=
  ⟨table.cells ++ [some row]⟩

/-- Rewrite every row by a function of its id; `none` deletes the row. -/
def alter (table : SerialTable ρ) (rewrite : Nat → ρ → Option ρ) : SerialTable ρ :=
  ⟨table.cells.mapIdx (fun position cell => cell.bind (rewrite (position + 1)))⟩

/-- Rewrite the row with one id, if there is one. -/
def update (table : SerialTable ρ) (id : Nat) (rewrite : ρ → ρ) : SerialTable ρ :=
  table.alter (fun other row => if other = id then some (rewrite row) else some row)

/-- Insert rows one after another. -/
def insertAll (table : SerialTable ρ) (added : List ρ) : SerialTable ρ :=
  added.foldl insert table

/-- All rows with their ids, in id order. -/
def rows (table : SerialTable ρ) : List (Nat × ρ) :=
  (table.cells.mapIdx (fun position cell => cell.map (fun row => (position + 1, row)))).reduceOption

@[simp] theorem get?_empty (id : Nat) : (empty : SerialTable ρ).get? id = none := by
  cases id with
  | zero => rfl
  | succ => simp [get?, empty]

@[simp] theorem get?_zero (table : SerialTable ρ) : table.get? 0 = none := rfl

theorem pos_of_get? (found : table.get? id = some row) : 0 < id := by
  cases id with
  | zero => exact absurd found (by simp)
  | succ position => exact Nat.succ_pos position

theorem lt_nextId_of_get? (found : table.get? id = some row) : id < table.nextId := by
  cases id with
  | zero => exact Nat.succ_pos _
  | succ position =>
    have inside : position < table.cells.length := by
      by_contra outside
      have beyond : table.cells[position]? = none :=
        List.getElem?_eq_none (Nat.le_of_not_lt outside)
      rw [get?, beyond] at found
      cases found
    exact Nat.succ_lt_succ inside

theorem get?_of_nextId_le (beyond : table.nextId ≤ id) :
    table.get? id = none := by
  cases found : table.get? id with
  | none => rfl
  | some => exact absurd (lt_nextId_of_get? found) (Nat.not_lt.mpr beyond)

@[simp] theorem get?_nextId (table : SerialTable ρ) : table.get? table.nextId = none :=
  get?_of_nextId_le (Nat.le_refl _)

@[simp] theorem nextId_insert (table : SerialTable ρ) (row : ρ) :
    (table.insert row).nextId = table.nextId + 1 := by
  simp [nextId, insert]

theorem get?_insert (table : SerialTable ρ) (row : ρ) (id : Nat) :
    (table.insert row).get? id = if id = table.nextId then some row else table.get? id := by
  cases id with
  | zero => simp [nextId]
  | succ position =>
    simp only [get?, insert, nextId, Nat.add_right_cancel_iff]
    rcases Nat.lt_trichotomy position table.cells.length with before | equal | after
    · rw [List.getElem?_append_left before, if_neg (Nat.ne_of_lt before)]
    · subst equal
      simp
    · rw [if_neg (Nat.ne_of_gt after), List.getElem?_eq_none, List.getElem?_eq_none]
      · exact Nat.le_of_lt after
      · simpa using after

@[simp] theorem get?_insert_nextId (table : SerialTable ρ) (row : ρ) :
    (table.insert row).get? table.nextId = some row := by
  simp [get?_insert]

theorem get?_insert_of_get? {found : ρ} (row : ρ) (present : table.get? id = some found) :
    (table.insert row).get? id = some found := by
  rw [get?_insert, if_neg (Nat.ne_of_lt (lt_nextId_of_get? present)), present]

@[simp] theorem nextId_alter (table : SerialTable ρ) (rewrite : Nat → ρ → Option ρ) :
    (table.alter rewrite).nextId = table.nextId := by
  simp [nextId, alter]

theorem get?_alter (table : SerialTable ρ) (rewrite : Nat → ρ → Option ρ) (id : Nat) :
    (table.alter rewrite).get? id = (table.get? id).bind (rewrite id) := by
  cases id with
  | zero => rfl
  | succ position =>
    simp only [get?, alter, List.getElem?_mapIdx]
    cases table.cells[position]? with
    | none | some => rfl

theorem get?_update (table : SerialTable ρ) (id other : Nat) (rewrite : ρ → ρ) :
    (table.update id rewrite).get? other =
      if other = id then (table.get? other).map rewrite else table.get? other := by
  rw [update, get?_alter]
  by_cases same : other = id
  · simp only [same, if_true]
    cases table.get? id with
    | none | some => rfl
  · simp only [same, if_false]
    cases table.get? other with
    | none | some => rfl

@[simp] theorem get?_update_self (table : SerialTable ρ) (id : Nat) (rewrite : ρ → ρ) :
    (table.update id rewrite).get? id = (table.get? id).map rewrite := by
  simp [get?_update]

theorem get?_update_of_ne (table : SerialTable ρ) {other : Nat} (different : other ≠ id)
    (rewrite : ρ → ρ) : (table.update id rewrite).get? other = table.get? other := by
  simp [get?_update, different]

/-- Rewriting a row that is not there changes nothing. -/
theorem update_of_get?_none (missing : table.get? id = none) (rewrite : ρ → ρ) :
    table.update id rewrite = table := by
  rcases table with ⟨cells⟩
  unfold update alter
  congr 1
  apply List.ext_getElem?
  intro position
  rw [List.getElem?_mapIdx]
  cases cell : cells[position]? with
  | none => rfl
  | some stored =>
    cases stored with
    | none => rfl
    | some =>
      by_cases same : position + 1 = id
      · subst same
        simp [get?, cell] at missing
      · simp [same]

/-- The listed rows are exactly the stored ones. -/
theorem mem_rows :
    (id, row) ∈ table.rows ↔ table.get? id = some row := by
  simp only [rows, List.reduceOption_mem_iff, List.mem_mapIdx]
  constructor
  · rintro ⟨position, inside, equal⟩
    cases cell : table.cells[position] with
    | none => simp [cell] at equal
    | some =>
      simp only [cell, Option.map_some, Option.some.injEq, Prod.mk.injEq] at equal
      rcases equal with ⟨rfl, rfl⟩
      simp [get?, List.getElem?_eq_getElem inside, cell]
  · intro found
    cases id with
    | zero => exact absurd found (by simp)
    | succ position =>
      have inside : position < table.cells.length :=
        Nat.lt_of_succ_lt_succ (lt_nextId_of_get? found)
      refine ⟨position, inside, ?_⟩
      simp only [get?, List.getElem?_eq_getElem inside, Option.join_some] at found
      simp [found]

/-- Rows are listed by increasing id. -/
theorem rows_increasing (table : SerialTable ρ) :
    table.rows.Pairwise (fun first second => first.1 < second.1) := by
  unfold rows List.reduceOption
  rw [List.pairwise_filterMap, List.pairwise_iff_getElem]
  intro first second firstInside secondInside before entry found other otherFound
  simp only [List.length_mapIdx] at firstInside secondInside
  simp only [List.getElem_mapIdx, id_eq, Option.map_eq_some_iff] at found otherFound
  rcases found with ⟨row, _, rfl⟩
  rcases otherFound with ⟨otherRow, _, rfl⟩
  exact Nat.succ_lt_succ before

/-- An inserted row is listed last. -/
theorem rows_insert (table : SerialTable ρ) (row : ρ) :
    (table.insert row).rows = table.rows ++ [(table.nextId, row)] := by
  simp [rows, insert, nextId, List.mapIdx_append, List.reduceOption_append]

/-- Rewriting a row leaves all others where they are listed. -/
theorem rows_update (table : SerialTable ρ) (id : Nat) (rewrite : ρ → ρ) :
    (table.update id rewrite).rows =
      table.rows.map (fun entry => if entry.1 = id then (entry.1, rewrite entry.2) else entry) := by
  unfold rows update alter
  rw [List.mapIdx_mapIdx, ← List.reduceOption_map]
  congr 1
  apply List.ext_getElem?
  intro position
  rw [List.getElem?_mapIdx, List.getElem?_map, List.getElem?_mapIdx, Option.map_map]
  congr 1
  funext cell
  cases cell with
  | none => rfl
  | some =>
    by_cases here : position + 1 = id
    · simp [here]
    · simp [here]

/-- Rows inserted together are listed last, in their order. -/
theorem rows_insertAll (table : SerialTable ρ) (added : List ρ) :
    ∃ entries, (table.insertAll added).rows = table.rows ++ entries ∧
      entries.map Prod.snd = added := by
  induction added generalizing table with
  | nil => exact ⟨[], (List.append_nil _).symm, rfl⟩
  | cons row added ih =>
    have unfolded : table.insertAll (row :: added) = (table.insert row).insertAll added := rfl
    obtain ⟨entries, listed, values⟩ := ih (table.insert row)
    refine ⟨(table.nextId, row) :: entries, ?_, ?_⟩
    · rw [unfolded, listed, rows_insert, List.append_assoc]
      rfl
    · rw [List.map_cons, values]

theorem nextId_le_insertAll (table : SerialTable ρ) (added : List ρ) :
    table.nextId ≤ (table.insertAll added).nextId := by
  induction added generalizing table with
  | nil => exact le_rfl
  | cons row added ih =>
    refine le_trans ?_ (ih (table.insert row))
    rw [nextId_insert]
    exact Nat.le_succ _

theorem get?_insertAll_of_lt (added : List ρ) (old : id < table.nextId) :
    (table.insertAll added).get? id = table.get? id := by
  induction added generalizing table with
  | nil => rfl
  | cons row added ih =>
    have later : id < (table.insert row).nextId := by
      rw [nextId_insert]
      exact Nat.lt_succ_of_lt old
    refine (ih later).trans ?_
    rw [get?_insert, if_neg (Nat.ne_of_lt old)]

theorem get?_insertAll_of_get? {found : ρ} (added : List ρ) (present : table.get? id = some found) :
    (table.insertAll added).get? id = some found :=
  (get?_insertAll_of_lt added (lt_nextId_of_get? present)).trans present

theorem get?_insertAll_cases {added : List ρ} (found : (table.insertAll added).get? id = some row) :
    table.get? id = some row ∨ row ∈ added := by
  induction added generalizing table with
  | nil => exact Or.inl found
  | cons first added ih =>
    rcases ih found with before | later
    · rw [get?_insert] at before
      split_ifs at before
      · cases before
        exact Or.inr List.mem_cons_self
      · exact Or.inl before
    · exact Or.inr (List.mem_cons_of_mem first later)

theorem exists_get?_insertAll {added : List ρ} (member : row ∈ added) :
    ∃ id, (table.insertAll added).get? id = some row := by
  induction added generalizing table with
  | nil => exact absurd member List.not_mem_nil
  | cons first added ih =>
    rcases List.mem_cons.mp member with rfl | later
    · exact ⟨table.nextId, get?_insertAll_of_get? added (get?_insert_nextId table row)⟩
    · exact ih later

theorem insertAll_append (table : SerialTable ρ) (first second : List ρ) :
    table.insertAll (first ++ second) = (table.insertAll first).insertAll second := by
  simp [insertAll]

theorem rows_ids_nodup (table : SerialTable ρ) : (table.rows.map Prod.fst).Nodup := by
  rw [List.nodup_iff_pairwise_ne, List.pairwise_map]
  exact table.rows_increasing.imp (fun less => Nat.ne_of_lt less)

end SerialTable

end StatusDashboard.Tables
