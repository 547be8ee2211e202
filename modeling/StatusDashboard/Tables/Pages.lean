import Mathlib

namespace StatusDashboard.Tables

/-!
# Pages of an ordered result

A result is shown page by page, and each page is cut out of an ordering of the
whole result by a key, larger keys first.  The key does not fix the ordering:
rows with equal keys may stand in any order, and in another one for each page.
The pages show every row exactly once, whatever the orderings, if and only if
each page boundary separates the keys.
-/

variable {α κ : Type} [LinearOrder κ]

/-- A list of the given rows, larger keys first. -/
structure Ordered (key : α → κ) (rows order : List α) : Prop where
  perm : order.Perm rows
  sorted : order.Pairwise (fun first second => key second ≤ key first)

/-- The rows of a page; pages are counted from zero. -/
def pageOf (limit page : Nat) (order : List α) : List α :=
  (order.drop (page * limit)).take limit

/-- Some number of rows is that of all rows from a key on. -/
def Separated (key : α → κ) (rows : List α) (size : Nat) : Prop :=
  ∃ bound, (rows.filter (fun row => decide (bound ≤ key row))).length = size

variable {key : α → κ} {rows order other : List α} {limit size : Nat}

theorem flatMap_pageOf (limit count : Nat) (order : List α) :
    (List.range count).flatMap (fun page => pageOf limit page order) =
      order.take (count * limit) := by
  induction count with
  | zero => simp
  | succ count ih =>
    rw [List.range_succ, List.flatMap_append, ih, Nat.succ_mul, List.take_add]
    simp [pageOf]

/-- In an ordered list the rows from a key on stand in front. -/
theorem Ordered.filter_append (ordered : Ordered key rows order) (bound : κ) :
    order.filter (fun row => decide (bound ≤ key row)) ++
      order.filter (fun row => !decide (bound ≤ key row)) = order := by
  have sorted := ordered.sorted
  clear ordered
  induction order with
  | nil => rfl
  | cons first order ih =>
    rw [List.pairwise_cons] at sorted
    by_cases high : bound ≤ key first
    · simp only [List.filter_cons, high, decide_true, if_true, Bool.not_true,
        Bool.false_eq_true, if_false, List.cons_append]
      rw [ih sorted.2]
    · -- All later keys are smaller still.
      have low : ∀ row ∈ first :: order, ¬ bound ≤ key row := by
        intro row member
        rcases List.mem_cons.mp member with rfl | later
        · exact high
        · exact fun reaches => high (reaches.trans (sorted.1 row later))
      rw [List.filter_eq_nil_iff.mpr (fun row member => by simpa using low row member),
        List.filter_eq_self.mpr (fun row member => by simpa using low row member),
        List.nil_append]

/-- A separated number of rows are the same rows in every ordering. -/
theorem Ordered.take_perm (ordered : Ordered key rows order) {bound : κ}
    (separated : (rows.filter (fun row => decide (bound ≤ key row))).length = size) :
    (order.take size).Perm (rows.filter (fun row => decide (bound ≤ key row))) := by
  have front := ordered.perm.filter (fun row => decide (bound ≤ key row))
  have length := front.length_eq.trans separated
  have cut : order.take size = order.filter (fun row => decide (bound ≤ key row)) := by
    conv_lhs => rw [← ordered.filter_append bound]
    rw [List.take_append_of_le_length length.ge, ← length, List.take_length]
  rw [cut]
  exact front

/-- Two orderings agree on what stands before a boundary that separates the keys, or
is none. -/
theorem take_perm_take (ordered : Ordered key rows order) (otherOrdered : Ordered key rows other)
    (boundary : 0 < size → size < rows.length → Separated key rows size) :
    (order.take size).Perm (other.take size) := by
  rcases Nat.eq_zero_or_pos size with rfl | positive
  · simp
  · rcases Nat.lt_or_ge size rows.length with inside | beyond
    · rcases boundary positive inside with ⟨bound, separated⟩
      exact (ordered.take_perm separated).trans (otherOrdered.take_perm separated).symm
    · rw [List.take_of_length_le (ordered.perm.length_eq.trans_le beyond),
        List.take_of_length_le (otherOrdered.perm.length_eq.trans_le beyond)]
      exact ordered.perm.trans otherOrdered.perm.symm

/-- Pages cut at separating boundaries add up to what stands in front of any
ordering. -/
theorem pages_perm_take {orders : Nat → List α}
    (ordered : ∀ page, Ordered key rows (orders page))
    (boundaries : ∀ page, 0 < page * limit → page * limit < rows.length →
      Separated key rows (page * limit)) (count : Nat) (any : Ordered key rows order) :
    ((List.range count).flatMap (fun page => pageOf limit page (orders page))).Perm
      (order.take (count * limit)) := by
  induction count generalizing order with
  | zero => simp
  | succ count ih =>
    have before := ih (ordered count)
    have whole : (orders count).take (count * limit) ++ pageOf limit count (orders count) =
        (orders count).take ((count + 1) * limit) := by
      rw [Nat.succ_mul, List.take_add]
      rfl
    rw [List.range_succ, List.flatMap_append]
    have step : ((List.range count).flatMap (fun page => pageOf limit page (orders page)) ++
        pageOf limit count (orders count)).Perm
        ((orders count).take ((count + 1) * limit)) := by
      rw [← whole]
      exact before.append_right _
    simpa using step.trans (take_perm_take (ordered count) any (boundaries (count + 1)))

/-! ## Boundaries that do not separate -/

/-- Exchanging two neighbours with equal keys leaves a list ordered. -/
theorem Ordered.exchange {front back : List α} {first second : α}
    (ordered : Ordered key rows (front ++ first :: second :: back))
    (tie : key first = key second) : Ordered key rows (front ++ second :: first :: back) := by
  refine ⟨(List.Perm.append_left front (.swap first second back)).trans ordered.perm, ?_⟩
  have sorted := ordered.sorted
  simp only [List.pairwise_append, List.pairwise_cons, List.mem_cons] at sorted ⊢
  obtain ⟨fronts, ⟨firsts, seconds, backs⟩, across⟩ := sorted
  refine ⟨fronts, ⟨?_, ?_, backs⟩, ?_⟩
  · rintro row (rfl | later)
    · exact tie.le
    · exact seconds row later
  · exact fun row later => firsts row (Or.inr later)
  · rintro row member next (rfl | rfl | later)
    · exact across row member _ (Or.inr (Or.inl rfl))
    · exact across row member _ (Or.inl rfl)
    · exact across row member next (Or.inr (Or.inr later))

/-- A boundary between different keys separates them. -/
theorem Ordered.separated {front back : List α} {first second : α}
    (ordered : Ordered key rows (front ++ first :: second :: back))
    (different : key first ≠ key second) : Separated key rows (front.length + 1) := by
  have sorted := ordered.sorted
  simp only [List.pairwise_append, List.pairwise_cons, List.mem_cons] at sorted
  obtain ⟨fronts, ⟨firsts, seconds, backs⟩, across⟩ := sorted
  have below : key second < key first := lt_of_le_of_ne (firsts second (Or.inl rfl))
    (Ne.symm different)
  refine ⟨key first, ?_⟩
  rw [(ordered.perm.filter _).length_eq.symm, List.filter_append, List.length_append]
  have high : front.filter (fun row => decide (key first ≤ key row)) = front := by
    apply List.filter_eq_self.mpr
    intro row member
    exact decide_eq_true (across row member first (Or.inl rfl))
  have low : (second :: back).filter (fun row => decide (key first ≤ key row)) = [] := by
    apply List.filter_eq_nil_iff.mpr
    intro row member
    rcases List.mem_cons.mp member with rfl | later
    · simpa using below
    · simpa using (seconds row later).trans_lt below
  rw [high, List.filter_cons, if_pos (by simp), low]
  rfl

/-- At a boundary that does not separate the keys two orderings put one row on
different sides. -/
theorem exists_split (ordered : Ordered key rows order) (positive : 0 < size)
    (inside : size < rows.length) (unseparated : ¬ Separated key rows size) :
    ∃ other row, Ordered key rows other ∧ row ∈ order.take size ∧ row ∈ other.drop size := by
  have bound : size < order.length := ordered.perm.length_eq ▸ inside
  obtain ⟨last, rfl⟩ : ∃ last, size = last + 1 := ⟨size - 1, by omega⟩
  have shape : order = order.take last ++ order[last] :: order[last + 1] ::
      order.drop (last + 2) := by
    rw [← List.drop_eq_getElem_cons bound, ← List.drop_eq_getElem_cons (by omega),
      List.take_append_drop]
  have frontLength : (order.take last).length = last := by
    rw [List.length_take]
    omega
  generalize order.take last = front at shape frontLength
  generalize order[last] = first at shape
  generalize order[last + 1] = second at shape
  generalize order.drop (last + 2) = back at shape
  subst shape frontLength
  have tie : key first = key second := by
    by_contra different
    exact unseparated (ordered.separated different)
  refine ⟨_, first, ordered.exchange tie, ?_, ?_⟩
  · rw [List.take_append, List.take_of_length_le (Nat.le_succ _)]
    simp
  · rw [List.drop_append, List.drop_of_length_le (Nat.le_succ _)]
    simp

/-- A row behind a page boundary is on a later page. -/
theorem exists_later_page {count page : Nat} {row : α} (positive : 0 < limit)
    (enough : order.length ≤ count * limit) (behind : row ∈ order.drop (page * limit)) :
    ∃ later, page ≤ later ∧ later < count ∧ row ∈ pageOf limit later order := by
  obtain ⟨position, inside, rfl⟩ := List.getElem_of_mem behind
  rw [List.length_drop] at inside
  rw [List.getElem_drop]
  have division := Nat.div_add_mod' (page * limit + position) limit
  have remainder := Nat.mod_lt (page * limit + position) positive
  refine ⟨(page * limit + position) / limit, ?_, ?_, ?_⟩
  · rw [Nat.le_div_iff_mul_le positive]
    omega
  · rw [Nat.div_lt_iff_lt_mul positive]
    omega
  · unfold pageOf
    rw [List.mem_iff_getElem]
    refine ⟨(page * limit + position) % limit, ?_, ?_⟩
    · rw [List.length_take, List.length_drop]
      omega
    · rw [List.getElem_take, List.getElem_drop]
      congr 1

/-- Pages show every row exactly once for all orderings exactly when every page
boundary separates the keys. -/
theorem pages_perm_iff {count : Nat} (positive : 0 < limit) (distinct : rows.Nodup)
    (enough : rows.length ≤ count * limit) (any : Ordered key rows order) :
    (∀ orders : Nat → List α, (∀ page, Ordered key rows (orders page)) →
      ((List.range count).flatMap (fun page => pageOf limit page (orders page))).Perm rows) ↔
    ∀ page, 0 < page * limit → page * limit < rows.length →
      Separated key rows (page * limit) := by
  constructor
  · intro shows page first inside
    by_contra unseparated
    obtain ⟨other, row, otherOrdered, before, behind⟩ := exists_split any first inside unseparated
    rw [← flatMap_pageOf, List.mem_flatMap] at before
    obtain ⟨earlier, isEarlier, onEarlier⟩ := before
    obtain ⟨later, isLater, known, onLater⟩ := exists_later_page positive
      (otherOrdered.perm.length_eq.trans_le enough) behind
    have early := List.mem_range.mp isEarlier
    -- The pages before the boundary are cut from one ordering, the others from the other.
    have shown := shows (fun shownPage => if shownPage < page then order else other) (by
      intro shownPage
      split_ifs
      · exact any
      · exact otherOrdered)
    have apart := (List.nodup_flatMap.mp (shown.nodup_iff.mpr distinct)).2
    have disjoint : List.Disjoint (pageOf limit earlier order) (pageOf limit later other) := by
      have pair := List.pairwise_iff_getElem.mp apart earlier later
        (by rw [List.length_range]; omega) (by rw [List.length_range]; omega) (by omega)
      simpa [Function.onFun, List.getElem_range, early, Nat.not_lt.mpr isLater] using pair
    exact disjoint onEarlier onLater
  · intro boundaries orders ordered
    have whole := pages_perm_take ordered boundaries count any
    rw [List.take_of_length_le (any.perm.length_eq.trans_le enough)] at whole
    exact whole.trans any.perm

end StatusDashboard.Tables
