import Mathlib.Data.List.Basic
import MeshTelemetry.Storage.SlotPool

/-!
# What the free list knows

A pool says twice which slots are free, once in the slots and once in the free list. As long as the
two agree, an insertion hits no occupied slot and a release no free one. The handles of a queue
track the pool if they are its occupied slots, each once: then no handle of the queue is stale, and
what the queue holds has as many values as it has handles.
-/

namespace MeshTelemetry

namespace SlotPool

variable {α : Type}

/-- The free list names the empty slots, each once. -/
structure Sound (pool : SlotPool α) : Prop where
  nodup : pool.free.Nodup
  mem_free_iff : ∀ index, index ∈ pool.free ↔ pool.slots[index]? = some none

theorem sound_ofCapacity (capacity : Nat) : (ofCapacity capacity : SlotPool α).Sound where
  nodup := List.nodup_range
  mem_free_iff index := by
    simp [ofCapacity, List.getElem?_replicate]

theorem get?_eq_some_iff {pool : SlotPool α} {id : SlotId} {value : α} :
    pool.get? id = some value ↔ pool.slots[id.index]? = some (some value) := by
  rw [get?, Option.join_eq_some_iff]

theorem insert?_eq_some_iff {pool next : SlotPool α} {id : SlotId} {value : α} :
    pool.insert? value = some (id, next) ↔
      ∃ free, pool.free = id.index :: free ∧
        next = { slots := pool.slots.set id.index (some value), free := free } := by
  unfold insert?
  cases pool.free with
  | nil => simp
  | cons index free =>
    simp only [Option.some.injEq, Prod.mk.injEq, List.cons.injEq]
    constructor
    · rintro ⟨rfl, rfl⟩
      exact ⟨free, ⟨rfl, rfl⟩, rfl⟩
    · rintro ⟨_, ⟨rfl, rfl⟩, rfl⟩
      exact ⟨rfl, rfl⟩

theorem insert?_eq_none_iff {pool : SlotPool α} {value : α} :
    pool.insert? value = none ↔ pool.free = [] := by
  unfold insert?
  cases pool.free with
  | nil => simp
  | cons index free => simp

theorem remove?_eq_some_iff {pool next : SlotPool α} {id : SlotId} {value : α} :
    pool.remove? id = some (value, next) ↔
      pool.get? id = some value ∧
        next = { slots := pool.slots.set id.index none, free := pool.free ++ [id.index] } := by
  rw [remove?, Option.map_eq_some_iff]
  constructor
  · rintro ⟨found, hget, h⟩
    cases h
    exact ⟨hget, rfl⟩
  · rintro ⟨hget, rfl⟩
    exact ⟨value, hget, rfl⟩

section Insert

variable {pool next : SlotPool α} {id : SlotId} {value : α}

theorem capacity_of_insert (h : pool.insert? value = some (id, next)) :
    next.capacity = pool.capacity := by
  obtain ⟨free, _, rfl⟩ := insert?_eq_some_iff.mp h
  simp [capacity]

theorem available_of_insert (h : pool.insert? value = some (id, next)) :
    pool.available = next.available + 1 := by
  obtain ⟨free, hfree, rfl⟩ := insert?_eq_some_iff.mp h
  simp [available, hfree]

/-- An insertion overwrites nothing. -/
theorem Sound.get?_eq_none_of_insert (hsound : pool.Sound)
    (h : pool.insert? value = some (id, next)) : pool.get? id = none := by
  obtain ⟨free, hfree, rfl⟩ := insert?_eq_some_iff.mp h
  have hempty := (hsound.mem_free_iff id.index).mp (by simp [hfree])
  simp [get?, hempty]

theorem Sound.get?_of_insert (hsound : pool.Sound) (h : pool.insert? value = some (id, next))
    (other : SlotId) : next.get? other = if other = id then some value else pool.get? other := by
  obtain ⟨free, hfree, rfl⟩ := insert?_eq_some_iff.mp h
  have hempty := (hsound.mem_free_iff id.index).mp (by simp [hfree])
  obtain ⟨hlt, _⟩ := List.getElem?_eq_some_iff.mp hempty
  by_cases heq : other = id
  · subst heq
    simp [get?, hlt]
  · have hne : id.index ≠ other.index := fun h => heq (congrArg SlotId.mk h.symm)
    simp [get?, heq, hne]

theorem Sound.insert (hsound : pool.Sound) (h : pool.insert? value = some (id, next)) :
    next.Sound := by
  obtain ⟨free, hfree, rfl⟩ := insert?_eq_some_iff.mp h
  have hnodup := hsound.nodup
  rw [hfree, List.nodup_cons] at hnodup
  refine ⟨hnodup.2, fun index => ?_⟩
  by_cases heq : id.index = index
  · subst heq
    simp only [List.getElem?_set_self', hnodup.1, false_iff]
    cases pool.slots[id.index]? <;> simp
  · have hmem := hsound.mem_free_iff index
    rw [hfree, List.mem_cons, or_iff_right (fun h => heq h.symm)] at hmem
    rw [List.getElem?_set_ne heq]
    exact hmem

end Insert

section Remove

variable {pool next : SlotPool α} {id : SlotId} {value : α}

theorem capacity_of_remove (h : pool.remove? id = some (value, next)) :
    next.capacity = pool.capacity := by
  obtain ⟨_, rfl⟩ := remove?_eq_some_iff.mp h
  simp [capacity]

theorem available_of_remove (h : pool.remove? id = some (value, next)) :
    next.available = pool.available + 1 := by
  obtain ⟨_, rfl⟩ := remove?_eq_some_iff.mp h
  simp [available]

theorem get?_of_remove (h : pool.remove? id = some (value, next)) (other : SlotId) :
    next.get? other = if other = id then none else pool.get? other := by
  obtain ⟨_, rfl⟩ := remove?_eq_some_iff.mp h
  by_cases heq : other = id
  · subst heq
    simp only [get?, List.getElem?_set_self', if_true]
    cases pool.slots[other.index]? <;> rfl
  · have hne : id.index ≠ other.index := fun h => heq (congrArg SlotId.mk h.symm)
    simp [get?, heq, hne]

theorem Sound.remove (hsound : pool.Sound) (h : pool.remove? id = some (value, next)) :
    next.Sound := by
  obtain ⟨hget, rfl⟩ := remove?_eq_some_iff.mp h
  have hslot := get?_eq_some_iff.mp hget
  have hoccupied : id.index ∉ pool.free := by
    rw [hsound.mem_free_iff, hslot]
    simp
  refine ⟨?_, fun index => ?_⟩
  · refine List.nodup_append.mpr ⟨hsound.nodup, by simp, ?_⟩
    intro first hfirst second hsecond heq
    rw [List.mem_singleton] at hsecond
    rw [heq, hsecond] at hfirst
    exact hoccupied hfirst
  · by_cases heq : id.index = index
    · subst heq
      obtain ⟨hlt, _⟩ := List.getElem?_eq_some_iff.mp hslot
      simp [hlt]
    · rw [List.getElem?_set_ne heq, List.mem_append, List.mem_singleton,
        or_iff_left (fun h => heq h.symm)]
      exact hsound.mem_free_iff index

end Remove

section Replace

variable {pool next : SlotPool α} {id : SlotId} {value old : α}

theorem replace?_eq_some_iff :
    pool.replace? id value = some (old, next) ↔
      pool.get? id = some old ∧
        next = { pool with slots := pool.slots.set id.index (some value) } := by
  rw [replace?, Option.map_eq_some_iff]
  constructor
  · rintro ⟨found, hget, h⟩
    cases h
    exact ⟨hget, rfl⟩
  · rintro ⟨hget, rfl⟩
    exact ⟨old, hget, rfl⟩

theorem capacity_of_replace (h : pool.replace? id value = some (old, next)) :
    next.capacity = pool.capacity := by
  obtain ⟨_, rfl⟩ := replace?_eq_some_iff.mp h
  simp [capacity]

theorem get?_of_replace (h : pool.replace? id value = some (old, next)) (other : SlotId) :
    next.get? other = if other = id then some value else pool.get? other := by
  obtain ⟨hget, rfl⟩ := replace?_eq_some_iff.mp h
  obtain ⟨hlt, _⟩ := List.getElem?_eq_some_iff.mp (get?_eq_some_iff.mp hget)
  by_cases heq : other = id
  · subst heq
    simp [get?, hlt]
  · have hne : id.index ≠ other.index := fun h => heq (congrArg SlotId.mk h.symm)
    simp [get?, heq, hne]

/-- Writing to an occupied slot frees none. -/
theorem Sound.replace (hsound : pool.Sound) (h : pool.replace? id value = some (old, next)) :
    next.Sound := by
  obtain ⟨hget, rfl⟩ := replace?_eq_some_iff.mp h
  have hslot := get?_eq_some_iff.mp hget
  refine ⟨hsound.nodup, fun index => ?_⟩
  by_cases heq : id.index = index
  · subst heq
    obtain ⟨hlt, hheld⟩ := List.getElem?_eq_some_iff.mp hslot
    simp [hsound.mem_free_iff, hlt, hheld]
  · rw [List.getElem?_set_ne heq]
    exact hsound.mem_free_iff index

end Replace

/-- The handles are the occupied slots, each once. -/
structure Tracks (pool : SlotPool α) (ids : List SlotId) : Prop where
  sound : pool.Sound
  nodup : ids.Nodup
  occupied : ∀ id ∈ ids, (pool.get? id).isSome
  count : ids.length + pool.available = pool.capacity

namespace Tracks

variable {pool next : SlotPool α} {id : SlotId} {ids : List SlotId} {value : α}

theorem ofCapacity (capacity : Nat) : (SlotPool.ofCapacity capacity : SlotPool α).Tracks [] where
  sound := sound_ofCapacity capacity
  nodup := List.nodup_nil
  occupied := fun _ hmem => nomatch hmem
  count := by simp [available, SlotPool.capacity, SlotPool.ofCapacity]

theorem perm {others : List SlotId} (h : pool.Tracks ids) (hperm : others.Perm ids) :
    pool.Tracks others where
  sound := h.sound
  nodup := hperm.nodup_iff.mpr h.nodup
  occupied other hmem := h.occupied other (hperm.mem_iff.mp hmem)
  count := by rw [hperm.length_eq, h.count]

theorem values_length (h : pool.Tracks ids) : (ids.filterMap pool.get?).length = ids.length :=
  List.filterMap_length_eq_length.mpr h.occupied

theorem values_length_add_available (h : pool.Tracks ids) :
    (ids.filterMap pool.get?).length + pool.available = pool.capacity := by
  rw [h.values_length, h.count]

theorem insert?_eq_none_iff (h : pool.Tracks ids) :
    pool.insert? value = none ↔ ids.length = pool.capacity := by
  rw [SlotPool.insert?_eq_none_iff, ← List.length_eq_zero_iff]
  have hcount := h.count
  unfold available at hcount
  omega

theorem not_mem_of_insert (h : pool.Tracks ids) (hinsert : pool.insert? value = some (id, next)) :
    id ∉ ids := by
  intro hmem
  have hoccupied := h.occupied id hmem
  rw [h.sound.get?_eq_none_of_insert hinsert] at hoccupied
  cases hoccupied

theorem values_of_insert (h : pool.Tracks ids) (hinsert : pool.insert? value = some (id, next)) :
    ids.filterMap next.get? = ids.filterMap pool.get? := by
  refine List.filterMap_congr fun other hmem => ?_
  rw [h.sound.get?_of_insert hinsert, if_neg]
  rintro rfl
  exact h.not_mem_of_insert hinsert hmem

theorem get?_self_of_insert (h : pool.Tracks ids)
    (hinsert : pool.insert? value = some (id, next)) : next.get? id = some value := by
  rw [h.sound.get?_of_insert hinsert, if_pos rfl]

theorem insert (h : pool.Tracks ids) (hinsert : pool.insert? value = some (id, next)) :
    next.Tracks (id :: ids) where
  sound := h.sound.insert hinsert
  nodup := List.nodup_cons.mpr ⟨h.not_mem_of_insert hinsert, h.nodup⟩
  occupied other hmem := by
    rw [h.sound.get?_of_insert hinsert]
    split
    · rfl
    · rename_i hne
      exact h.occupied other ((List.mem_cons.mp hmem).resolve_left hne)
  count := by
    have hcount := h.count
    rw [available_of_insert hinsert] at hcount
    rw [capacity_of_insert hinsert, List.length_cons]
    omega

/-- The handle in front finds its value, and the rest track what remains. -/
theorem exists_remove (h : pool.Tracks (id :: ids)) :
    ∃ value next, pool.get? id = some value ∧ pool.remove? id = some (value, next) ∧
      next.Tracks ids ∧ ids.filterMap next.get? = ids.filterMap pool.get? := by
  obtain ⟨value, hget⟩ := Option.isSome_iff_exists.mp (h.occupied id List.mem_cons_self)
  obtain ⟨hid, hids⟩ := List.nodup_cons.mp h.nodup
  obtain ⟨next, hremove⟩ : ∃ next, pool.remove? id = some (value, next) :=
    ⟨_, remove?_eq_some_iff.mpr ⟨hget, rfl⟩⟩
  have hsame : ∀ other ∈ ids, next.get? other = pool.get? other := by
    intro other hmem
    rw [get?_of_remove hremove, if_neg]
    rintro rfl
    exact hid hmem
  refine ⟨value, next, hget, hremove, ⟨h.sound.remove hremove, hids, ?_, ?_⟩,
    List.filterMap_congr hsame⟩
  · intro other hmem
    rw [hsame other hmem]
    exact h.occupied other (List.mem_cons_of_mem _ hmem)
  · have hcount := h.count
    rw [capacity_of_remove hremove, available_of_remove hremove]
    rw [List.length_cons] at hcount
    omega

end Tracks

end SlotPool

end MeshTelemetry
