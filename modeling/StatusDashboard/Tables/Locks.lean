import Mathlib

namespace StatusDashboard.Tables

/-!
# Session locks

Locks that belong to sessions.  A session takes a lock that no other session
holds, and takes it again as often as it likes: each acquisition is one entry
and is released on its own.  A session that ends gives up all its locks.
-/

variable {σ κ : Type}

/-- The acquisitions that were not released.  Only one session holds a key. -/
structure LockTable (σ κ : Type) where
  held : List (σ × κ)
  exclusive : ∀ first ∈ held, ∀ second ∈ held, first.2 = second.2 → first.1 = second.1

namespace LockTable

def empty : LockTable σ κ where
  held := []
  exclusive := nofun

/-- Two holders of a key are one session. -/
theorem holder_unique (table : LockTable σ κ) {first second : σ} {key : κ}
    (one : (first, key) ∈ table.held) (two : (second, key) ∈ table.held) : first = second :=
  table.exclusive _ one _ two rfl

variable [DecidableEq σ] [DecidableEq κ]

/-- No other session holds the key. -/
def available (table : LockTable σ κ) (session : σ) (key : κ) : Bool :=
  table.held.all (fun entry => !(entry.2 == key && entry.1 != session))

theorem holder_of_available {table : LockTable σ κ} {session holder : σ} {key : κ}
    (free : table.available session key = true) (entry : (holder, key) ∈ table.held) :
    holder = session := by
  simpa using List.all_eq_true.mp free (holder, key) entry

/-- One more acquisition of an available key. -/
def acquire (table : LockTable σ κ) {session : σ} {key : κ}
    (free : table.available session key = true) : LockTable σ κ where
  held := (session, key) :: table.held
  exclusive := by
    rintro ⟨first, firstKey⟩ one ⟨second, secondKey⟩ two same
    obtain rfl : firstKey = secondKey := same
    rcases List.mem_cons.mp one with taken | one <;> rcases List.mem_cons.mp two with again | two
    · cases taken
      cases again
      rfl
    · cases taken
      exact (holder_of_available free two).symm
    · cases again
      exact holder_of_available free one
    · exact table.holder_unique one two

/-- Take a key if no other session holds it, without waiting. -/
def tryAcquire (table : LockTable σ κ) (session : σ) (key : κ) : Bool × LockTable σ κ :=
  if free : table.available session key = true then (true, table.acquire free) else (false, table)

/-- Undo one acquisition, if there is one. -/
def release (table : LockTable σ κ) (session : σ) (key : κ) : LockTable σ κ where
  held := table.held.erase (session, key)
  exclusive := fun _ one _ two =>
    table.exclusive _ (List.mem_of_mem_erase one) _ (List.mem_of_mem_erase two)

/-- The session ends. -/
def drop (table : LockTable σ κ) (session : σ) : LockTable σ κ where
  held := table.held.filter (fun entry => entry.1 != session)
  exclusive := fun _ one _ two =>
    table.exclusive _ (List.mem_of_mem_filter one) _ (List.mem_of_mem_filter two)

section Entries

variable {table : LockTable σ κ} {session other : σ} {key otherKey : κ}

/-- A try that succeeds leaves the session holding the key. -/
theorem mem_tryAcquire_of_got (got : (table.tryAcquire session key).1 = true) :
    (session, key) ∈ (table.tryAcquire session key).2.held := by
  unfold tryAcquire at got ⊢
  split_ifs at got ⊢
  exact List.mem_cons_self

/-- A try takes no lock away. -/
theorem mem_tryAcquire (entry : (other, otherKey) ∈ table.held) :
    (other, otherKey) ∈ (table.tryAcquire session key).2.held := by
  unfold tryAcquire
  split_ifs
  · exact List.mem_cons_of_mem _ entry
  · exact entry

/-- A release takes nothing from another session. -/
theorem mem_release (different : other ≠ session) (entry : (other, otherKey) ∈ table.held) :
    (other, otherKey) ∈ (table.release session key).held :=
  (List.mem_erase_of_ne (fun same => different (congrArg Prod.fst same))).mpr entry

omit [DecidableEq κ] in
/-- The end of a session takes nothing from another one. -/
theorem mem_drop (different : other ≠ session) (entry : (other, otherKey) ∈ table.held) :
    (other, otherKey) ∈ (table.drop session).held :=
  List.mem_filter.mpr ⟨entry, by simpa using different⟩

end Entries

end LockTable
end StatusDashboard.Tables
