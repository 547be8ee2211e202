import StatusDashboard.Static.Cache

namespace StatusDashboard.Properties

open Storage Tables Static

/-!
# The cache is a recency list

The list, the map and the counter of the response cache always describe one
list of entries under distinct keys, in order of use.  A call turns that list
into the one a recency list within the byte budget would become, and answers
from it.
-/

def Element.item (element : Element) : Text × Entry := (element.key, element.entry)

/-- The three structures describe one list of entries. -/
structure Consistent (cache : Cache) (entries : List (Text × Entry)) : Prop where
  order : cache.order.map Element.item = entries
  items : ∀ key, cache.items key = cache.order.find? (fun element => decide (element.key = key))
  bytes : cache.bytes = total Entry.size entries
  keys : (cache.order.map Element.key).Nodup
  pointers : (cache.order.map Element.pointer).Nodup
  allocated : ∀ element ∈ cache.order, element.pointer < cache.allocated

namespace Consistent

variable {cache : Cache} {entries : List (Text × Entry)}

variable {element : Element} {key : Text}

theorem entries_nodup (consistent : Consistent cache entries) :
    (entries.map Prod.fst).Nodup := by
  have keys := consistent.keys
  rw [← consistent.order, List.map_map]
  exact keys

theorem mem_item (consistent : Consistent cache entries) (member : element ∈ cache.order) :
    (element.key, element.entry) ∈ entries := by
  rw [← consistent.order]
  exact List.mem_map.mpr ⟨element, member, rfl⟩

theorem indexed (consistent : Consistent cache entries) (found : cache.items key = some element) :
    element ∈ cache.order ∧ element.key = key := by
  rw [consistent.items] at found
  exact ⟨List.mem_of_find?_eq_some found, by simpa using List.find?_some found⟩

theorem unindexed (consistent : Consistent cache entries) (missing : cache.items key = none) :
    ∀ element ∈ cache.order, element.key ≠ key := by
  intro element member
  rw [consistent.items] at missing
  simpa using List.find?_eq_none.mp missing element member

/-- In the list an element is found by its pointer and by its key alike. -/
theorem pointer_iff_key (consistent : Consistent cache entries) {other : Element}
    (member : element ∈ cache.order) (present : other ∈ cache.order) :
    other.pointer = element.pointer ↔ other.key = element.key := by
  constructor
  · intro same
    rw [List.inj_on_of_nodup_map consistent.pointers present member same]
  · intro same
    rw [List.inj_on_of_nodup_map consistent.keys present member same]

/-- Unlinking an element removes its key. -/
theorem remove_eq (consistent : Consistent cache entries) (member : element ∈ cache.order) :
    remove element cache.order
      = cache.order.filter (fun other => decide (other.key ≠ element.key)) := by
  refine List.filter_congr ?_
  intro other present
  rw [decide_eq_decide]
  exact not_congr (consistent.pointer_iff_key member present)

theorem remove_items (consistent : Consistent cache entries) (member : element ∈ cache.order) :
    (remove element cache.order).map Element.item = without element.key entries := by
  rw [consistent.remove_eq member, without, ← consistent.order, List.filter_map]
  rfl

/-- The element of a key comes first when it is put in front of the others. -/
theorem find_front (consistent : Consistent cache entries) (member : element ∈ cache.order)
    (key : Text) :
    (element :: remove element cache.order).find? (fun other => decide (other.key = key))
      = cache.order.find? (fun other => decide (other.key = key)) := by
  rw [List.find?_cons]
  by_cases same : element.key = key
  · subst same
    have found : cache.items element.key = some element := by
      cases search : cache.items element.key with
      | none => exact absurd rfl (consistent.unindexed search element member)
      | some =>
        obtain ⟨present, agrees⟩ := consistent.indexed search
        rw [List.inj_on_of_nodup_map consistent.keys present member agrees]
    rw [consistent.items] at found
    simp [found]
  · rw [consistent.remove_eq member, List.find?_filter]
    have unlike : decide (element.key = key) = false := by simpa using same
    rw [unlike]
    refine List.find?_congr ?_
    intro other present
    by_cases agrees : other.key = key
    · have distinct : ¬ key = element.key := fun equal => same equal.symm
      simp [agrees, distinct]
    · simp [agrees]

theorem drop (consistent : Consistent cache entries) (member : element ∈ cache.order) :
    Consistent (cache.drop element) (without element.key entries) := by
  have stays : (remove element cache.order).Sublist cache.order := List.filter_sublist
  refine ⟨consistent.remove_items member, ?_, ?_, consistent.keys.sublist (stays.map _),
    consistent.pointers.sublist (stays.map _), fun other present =>
      consistent.allocated other (stays.subset present)⟩
  · intro key
    change Function.update cache.items element.key none key
      = (remove element cache.order).find? (fun other => decide (other.key = key))
    rw [consistent.remove_eq member, List.find?_filter]
    by_cases same : key = element.key
    · subst same
      rw [Function.update_self]
      symm
      refine List.find?_eq_none.mpr ?_
      intro other present
      simp
    · rw [Function.update_of_ne same, consistent.items]
      refine List.find?_congr ?_
      intro other present
      by_cases agrees : other.key = key
      · simp [agrees, same]
      · simp [agrees]
  · have parts : element.entry.size + total Entry.size (without element.key entries)
        = total Entry.size entries :=
      (total_cons (element.key, element.entry) _).symm.trans
        (total_perm (front_perm consistent.entries_nodup (consistent.mem_item member)))
    have counted := consistent.bytes
    change cache.bytes - (element.entry.size : Int) = _
    omega

theorem moveToFront (consistent : Consistent cache entries) (member : element ∈ cache.order) :
    Consistent { cache with order := moveToFront element cache.order }
      ((element.key, element.entry) :: without element.key entries) := by
  have linked : Static.moveToFront element cache.order = element :: remove element cache.order := by
    rw [Static.moveToFront, if_pos]
    exact List.any_eq_true.mpr ⟨element, member, by simp⟩
  have items := consistent.remove_items member
  have stays : (remove element cache.order).Sublist cache.order := List.filter_sublist
  rw [linked]
  refine ⟨?_, ?_, ?_, ?_, ?_, ?_⟩
  · rw [List.map_cons, items]
    rfl
  · intro key
    exact (consistent.items key).trans (consistent.find_front member key).symm
  · exact consistent.bytes.trans (congrArg Nat.cast
      (total_perm (front_perm consistent.entries_nodup (consistent.mem_item member))).symm)
  · refine List.nodup_cons.mpr ⟨?_, consistent.keys.sublist (stays.map _)⟩
    rw [consistent.remove_eq member]
    intro present
    obtain ⟨other, kept, same⟩ := List.mem_map.mp present
    simp [same] at kept
  · refine List.nodup_cons.mpr ⟨?_, consistent.pointers.sublist (stays.map _)⟩
    intro present
    obtain ⟨other, kept, same⟩ := List.mem_map.mp present
    simp [remove, same] at kept
  · intro other present
    rcases List.mem_cons.mp present with rfl | kept
    · exact consistent.allocated other member
    · exact consistent.allocated other (stays.subset kept)

theorem pushFront (consistent : Consistent cache entries)
    (missing : ∀ element ∈ cache.order, element.key ≠ key) (entry : Entry) :
    Consistent (cache.pushFront key entry) ((key, entry) :: entries) := by
  refine ⟨?_, ?_, ?_, ?_, ?_, ?_⟩
  · change Element.item ⟨cache.allocated, key, entry⟩ :: cache.order.map Element.item = _
    rw [consistent.order]
    rfl
  · intro other
    change Function.update cache.items key (some ⟨cache.allocated, key, entry⟩) other
      = (⟨cache.allocated, key, entry⟩ :: cache.order : List Element).find? _
    rw [List.find?_cons]
    by_cases same : other = key
    · subst same
      simp
    · have unlike : decide (key = other) = false := by simpa using fun equal => same equal.symm
      rw [Function.update_of_ne same, consistent.items, unlike]
  · have counted := consistent.bytes
    change cache.bytes + (entry.size : Int) = _
    rw [total_cons]
    push_cast
    omega
  · refine List.nodup_cons.mpr ⟨?_, consistent.keys⟩
    intro present
    obtain ⟨element, member, same⟩ := List.mem_map.mp present
    exact missing element member same
  · refine List.nodup_cons.mpr ⟨?_, consistent.pointers⟩
    intro present
    obtain ⟨element, member, same⟩ := List.mem_map.mp present
    exact absurd same (Nat.ne_of_lt (consistent.allocated element member))
  · intro element present
    change element.pointer < cache.allocated + 1
    rcases List.mem_cons.mp present with rfl | member
    · exact Nat.lt_succ_self _
    · exact Nat.lt_succ_of_lt (consistent.allocated element member)

theorem remove_last (consistent : Consistent cache entries) {initial : List Element}
    (split : cache.order = initial ++ [element]) :
    remove element cache.order = initial := by
  have keys := consistent.keys
  have member : element ∈ cache.order := by simp [split]
  rw [consistent.remove_eq member, split, List.filter_append]
  rw [split, List.map_append] at keys
  have apart := (List.nodup_append.mp keys).2.2
  have others : initial.filter (fun other => decide (other.key ≠ element.key)) = initial := by
    refine List.filter_eq_self.mpr ?_
    intro other present
    simpa using apart other.key (List.mem_map_of_mem present) element.key (by simp)
  rw [others]
  simp

/-- The loop gives up elements from the back until the kept ones are the longest prefix. -/
theorem evict {turns : Nat} (consistent : Consistent cache entries)
    (enough : cache.order.length < turns) :
    Consistent (cache.evict turns) (retain Entry.size cache.maxBytes entries)
      ∧ (cache.evict turns).maxBytes = cache.maxBytes := by
  induction turns generalizing cache entries with
  | zero => exact absurd enough (Nat.not_lt_zero _)
  | succ turns ih =>
    have counted := consistent.bytes
    by_cases exceeds : (cache.maxBytes : Int) < cache.bytes
    · have large : cache.maxBytes < total Entry.size entries := by omega
      rw [Cache.evict, if_pos exceeds]
      cases last : cache.order.getLast? with
      | none =>
        -- An empty list counts no bytes, so the loop does not reach its early exit.
        have empty := List.getLast?_eq_none_iff.mp last
        rw [← consistent.order, empty] at large
        exact absurd large (Nat.not_lt_zero _)
      | some element =>
        obtain ⟨initial, split⟩ := List.getLast?_eq_some_iff.mp last
        have member : element ∈ cache.order := List.mem_of_getLast? last
        have dropped := consistent.drop member
        have shorter : without element.key entries = entries.dropLast := by
          rw [← consistent.remove_items member, consistent.remove_last split,
            ← consistent.order, split]
          simp
        have room : (cache.drop element).order.length < turns := by
          change (remove element cache.order).length < turns
          rw [consistent.remove_last split]
          rw [split, List.length_append, List.length_singleton] at enough
          omega
        have rest := ih dropped room
        have same : (cache.drop element).maxBytes = cache.maxBytes := rfl
        rw [shorter, same, retain_dropLast large] at rest
        exact rest
    · have small : total Entry.size entries ≤ cache.maxBytes := by omega
      rw [Cache.evict, if_neg exceeds, retain_of_fits small]
      exact ⟨consistent, rfl⟩

end Consistent

/-- The cache holds exactly a recency list, within its own budget. -/
structure Represents (cache : Cache) {budget : Nat}
    (list : Recency Text Entry Entry.size budget) : Prop where
  budget : cache.maxBytes = budget
  consistent : Consistent cache list.entries

variable {budget : Nat} {cache : Cache} {list : Recency Text Entry Entry.size budget}

theorem represents_newCache (maxBytes : Nat) :
    Represents (newCache maxBytes) (Recency.empty : Recency Text Entry Entry.size maxBytes) :=
  ⟨rfl, rfl, fun _ => rfl, rfl, List.nodup_nil, List.nodup_nil, nofun⟩

/-- The index answers as the list does. -/
theorem Represents.lookup (represents : Represents cache list) (key : Text) :
    (cache.items key).map Element.entry = list.find key := by
  cases found : cache.items key with
  | none =>
    cases search : list.find key with
    | none => rfl
    | some =>
      have member := Recency.find_eq_some.mp search
      rw [← represents.consistent.order] at member
      obtain ⟨element, present, same⟩ := List.mem_map.mp member
      exact absurd (congrArg Prod.fst same)
        (represents.consistent.unindexed found element present)
  | some =>
    obtain ⟨member, rfl⟩ := represents.consistent.indexed found
    exact (Recency.find_eq_some.mpr (represents.consistent.mem_item member)).symm

theorem Represents.touch (represents : Represents cache list) (key : Text) :
    Represents (cache.touch key).1 (list.touch key)
      ∧ (cache.touch key).2.map Element.entry = list.find key := by
  have answer := represents.lookup key
  unfold Cache.touch
  cases found : cache.items key with
  | none =>
    rw [found] at answer
    rw [Recency.touch_absent answer.symm]
    exact ⟨represents, answer⟩
  | some =>
    rw [found] at answer
    obtain ⟨member, rfl⟩ := represents.consistent.indexed found
    refine ⟨⟨represents.budget, ?_⟩, answer⟩
    rw [Recency.touch_present answer.symm]
    exact represents.consistent.moveToFront member

/-- What the key held is unlinked before the new element is linked. -/
theorem Represents.clear (represents : Represents cache list) (key : Text) :
    (cache.clear key).maxBytes = cache.maxBytes
      ∧ Consistent (cache.clear key) (without key list.entries)
      ∧ ∀ element ∈ (cache.clear key).order, element.key ≠ key := by
  unfold Cache.clear
  cases found : cache.items key with
  | none =>
    have missing := represents.consistent.unindexed found
    have unchanged : without key list.entries = list.entries := by
      refine List.filter_eq_self.mpr ?_
      intro entry member
      rw [← represents.consistent.order] at member
      obtain ⟨element, present, rfl⟩ := List.mem_map.mp member
      exact decide_eq_true (missing element present)
    rw [unchanged]
    exact ⟨rfl, represents.consistent, missing⟩
  | some element =>
    obtain ⟨member, rfl⟩ := represents.consistent.indexed found
    refine ⟨rfl, represents.consistent.drop member, ?_⟩
    intro other present
    change other ∈ remove element cache.order at present
    rw [represents.consistent.remove_eq member] at present
    simpa using (List.mem_filter.mp present).2

theorem Represents.put (represents : Represents cache list) (key : Text) (entry : Entry) :
    Represents (cache.put key entry) (list.put key entry) := by
  unfold Cache.put
  by_cases large : cache.maxBytes < entry.size
  · rw [if_pos large, Recency.put_large (represents.budget ▸ large)]
    exact represents
  · obtain ⟨budget, consistent, missing⟩ := represents.clear key
    have evicted := (consistent.pushFront missing entry).evict (Nat.lt_succ_self _)
    have same : ((cache.clear key).pushFront key entry).maxBytes = cache.maxBytes := budget
    have room : entry.size ≤ _ := represents.budget ▸ Nat.not_lt.mp large
    rw [if_neg large]
    refine ⟨evicted.2.trans (same.trans represents.budget), ?_⟩
    rw [Recency.put, if_pos room]
    rw [same, represents.budget] at evicted
    exact evicted.1

/-- What a recency list does at a call, and answers. -/
def listCall (list : Recency Text Entry Entry.size budget) :
    Call → Recency Text Entry Entry.size budget × Option Entry
  | .put key entry => (list.put key entry, none)
  | .get key now => (list.touch key, (list.find key).filter (fun entry => now < entry.expires))
  | .getStale key => (list.touch key, list.find key)

theorem Represents.call (represents : Represents cache list) (call : Call) :
    Represents (cache.call call).1 (listCall list call).1
      ∧ (cache.call call).2 = (listCall list call).2 := by
  cases call with
  | put key entry => exact ⟨represents.put key entry, rfl⟩
  | get key =>
    obtain ⟨touched, answer⟩ := represents.touch key
    cases found : cache.touch key with
    | mk after element =>
      simp only [found] at touched answer
      cases element with
      | none => simpa [Cache.call, Cache.get, listCall, found, ← answer] using touched
      | some =>
        simpa [Cache.call, Cache.get, listCall, found, ← answer, Option.filter]
          using touched
  | getStale key =>
    obtain ⟨touched, answer⟩ := represents.touch key
    cases found : cache.touch key with
    | mk after element =>
      simp only [found] at touched answer
      cases element with
      | none => simpa [Cache.call, Cache.getStale, listCall, found, ← answer] using touched
      | some =>
        simpa [Cache.call, Cache.getStale, listCall, found, ← answer] using touched

/-- The recency list after a sequence of calls. -/
def listAfter (maxBytes : Nat) (calls : List Call) : Recency Text Entry Entry.size maxBytes :=
  calls.foldl (fun list call => (listCall list call).1) Recency.empty

theorem represents_after (maxBytes : Nat) (calls : List Call) :
    Represents ((newCache maxBytes).after calls) (listAfter maxBytes calls) := by
  induction calls using List.reverseRecOn with
  | nil => exact represents_newCache maxBytes
  | append_singleton calls call ih =>
    unfold Cache.after listAfter
    rw [List.foldl_append, List.foldl_append]
    exact (ih.call call).1

/-- The last entry stored under a key: the last one put there that is within the budget. -/
def lastStored (maxBytes : Nat) (calls : List Call) (key : Text) : Option Entry :=
  calls.foldl
    (fun last call =>
      match call with
      | .put stored entry => if stored = key ∧ entry.size ≤ maxBytes then some entry else last
      | _ => last)
    none

theorem stored_last (maxBytes : Nat) (calls : List Call) {key : Text} {entry : Entry}
    (member : (key, entry) ∈ (listAfter maxBytes calls).entries) :
    lastStored maxBytes calls key = some entry := by
  induction calls using List.reverseRecOn with
  | nil => cases member
  | append_singleton calls call ih =>
    unfold listAfter at member
    unfold lastStored
    rw [List.foldl_append] at member ⊢
    cases call with
    | get | getStale => exact ih (Recency.mem_touch.mp member)
    | put stored value =>
      change (key, entry) ∈ ((listAfter maxBytes calls).put stored value).entries at member
      change (if stored = key ∧ value.size ≤ maxBytes then some value
        else lastStored maxBytes calls key) = some entry
      by_cases room : value.size ≤ maxBytes
      · have kept := (Recency.put_longest room).initial.subset member
        rcases List.mem_cons.mp kept with same | others
        · obtain ⟨rfl, rfl⟩ := Prod.mk.inj same
          rw [if_pos ⟨rfl, room⟩]
        · obtain ⟨earlier, different⟩ := mem_without.mp others
          rw [if_neg (fun both => different both.1.symm)]
          exact ih earlier
      · rw [Recency.put_large (Nat.lt_of_not_le room)] at member
        rw [if_neg (fun both => room both.2)]
        exact ih member

/-- What one call does to the list and answers, in the terms of the list alone. -/
def Served (maxBytes : Nat) (calls : List Call) (before after : List (Text × Entry))
    (answer : Option Entry) : Call → Prop
  | .put key entry =>
    if entry.size ≤ maxBytes then
      LongestPrefix Entry.size maxBytes ((key, entry) :: without key before) after
        ∧ after.head? = some (key, entry)
    else after = before
  | .get key now =>
    (key ∉ before.map Prod.fst ∧ answer = none ∧ after = before)
      ∨ ∃ entry, lastStored maxBytes calls key = some entry
        ∧ answer = (if now < entry.expires then some entry else none)
        ∧ after = (key, entry) :: without key before
        ∧ after.Perm before
  | .getStale key =>
    (key ∉ before.map Prod.fst ∧ answer = none ∧ after = before)
      ∨ ∃ entry, lastStored maxBytes calls key = some entry
        ∧ answer = some entry
        ∧ after = (key, entry) :: without key before
        ∧ after.Perm before

theorem find_cases (list : Recency Text Entry Entry.size budget) (key : Text) :
    (key ∉ list.entries.map Prod.fst ∧ list.find key = none ∧ list.touch key = list)
      ∨ ∃ entry, list.find key = some entry ∧ (key, entry) ∈ list.entries
          ∧ (list.touch key).entries = (key, entry) :: without key list.entries
          ∧ (list.touch key).entries.Perm list.entries := by
  cases found : list.find key with
  | none =>
    refine Or.inl ⟨?_, rfl, Recency.touch_absent found⟩
    intro present
    obtain ⟨⟨stored, entry⟩, member, same⟩ := List.mem_map.mp present
    obtain rfl : stored = key := same
    rw [Recency.find_eq_some.mpr member] at found
    cases found
  | some entry =>
    have member := Recency.find_eq_some.mp found
    have touched := Recency.touch_present found
    refine Or.inr ⟨entry, rfl, member, touched, ?_⟩
    rw [touched]
    exact front_perm list.nodup member

theorem listCall_served (maxBytes : Nat) (calls : List Call) (call : Call) :
    Served maxBytes calls (listAfter maxBytes calls).entries
      (listCall (listAfter maxBytes calls) call).1.entries
      (listCall (listAfter maxBytes calls) call).2 call := by
  cases call with
  | put key entry =>
    by_cases room : entry.size ≤ maxBytes
    · simp only [Served, if_pos room]
      exact ⟨Recency.put_longest room, Recency.put_front room⟩
    · simp only [Served, if_neg room]
      exact congrArg Recency.entries (Recency.put_large (Nat.lt_of_not_le room))
  | get key =>
    rcases find_cases (listAfter maxBytes calls) key with
      ⟨missing, absent, same⟩ | ⟨entry, found, member, touched, reordered⟩
    · refine Or.inl ⟨missing, ?_, congrArg Recency.entries same⟩
      simp [listCall, absent]
    · refine Or.inr ⟨entry, stored_last maxBytes calls member, ?_, touched, reordered⟩
      simp [listCall, found, Option.filter]
  | getStale key =>
    rcases find_cases (listAfter maxBytes calls) key with
      ⟨missing, absent, same⟩ | ⟨entry, found, member, touched, reordered⟩
    · exact Or.inl ⟨missing, absent, congrArg Recency.entries same⟩
    · exact Or.inr ⟨entry, stored_last maxBytes calls member, found, touched, reordered⟩

/--
After any calls the cache represents one recency list within its budget, and
any next call turns it into the list, and gives the answer, that the purpose of
the cache asks for.
-/
theorem cache_refines (maxBytes : Nat) (calls : List Call) (call : Call) :
    ∃ before after : Recency Text Entry Entry.size maxBytes,
      Represents ((newCache maxBytes).after calls) before
        ∧ Represents (((newCache maxBytes).after calls).call call).1 after
        ∧ Served maxBytes calls before.entries after.entries
            (((newCache maxBytes).after calls).call call).2 call := by
  have represents := represents_after maxBytes calls
  obtain ⟨next, answer⟩ := represents.call call
  refine ⟨listAfter maxBytes calls, (listCall (listAfter maxBytes calls) call).1,
    represents, next, ?_⟩
  rw [answer]
  exact listCall_served maxBytes calls call

end StatusDashboard.Properties
