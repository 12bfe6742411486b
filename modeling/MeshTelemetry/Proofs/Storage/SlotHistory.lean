import MeshTelemetry.Proofs.Storage.SlotPool

/-!
# What calls make of a pool

A pool is called in any order and with handles of any kind: live ones, stale ones, and ones that it
never gave out. What the calls came to tells all that there is to know about the pool afterwards. A
slot holds what was stored in it last and has not been released since. The free slots form a queue,
so the slots that were free at the start and those released since are, in this order, the slots that
have been taken and those that are free now; how long a slot rests after its release follows from
this equation.
-/

namespace MeshTelemetry

theorem SlotId.mk_eq_iff {index : Nat} {id : SlotId} : SlotId.mk index = id ↔ index = id.index := by
  cases id
  exact Iff.of_eq (SlotId.mk.injEq _ _)

namespace SlotPool

variable {α : Type}

inductive Call (α : Type) where
  | insert (value : α)
  | remove (id : SlotId)
  | get (id : SlotId)
  | replace (id : SlotId) (value : α)

inductive Event (α : Type) where
  | inserted (id : SlotId) (value : α)
  | refused (value : α)
  | removed (id : SlotId) (found : Option α)
  | seen (id : SlotId) (found : Option α)
  | replaced (id : SlotId) (value : α) (found : Option α)

def perform (pool : SlotPool α) : Call α → Event α × SlotPool α
  | .insert value =>
    match pool.insert? value with
    | some (id, next) => (.inserted id value, next)
    | none => (.refused value, pool)
  | .remove id =>
    match pool.remove? id with
    | some (value, next) => (.removed id (some value), next)
    | none => (.removed id none, pool)
  | .get id => (.seen id (pool.get? id), pool)
  | .replace id value =>
    match pool.replace? id value with
    | some (old, next) => (.replaced id value (some old), next)
    | none => (.replaced id value none, pool)

/-- The calls one after another, and what each of them came to. -/
def run (pool : SlotPool α) : List (Call α) → List (Event α) × SlotPool α
  | [] => ([], pool)
  | call :: calls =>
    let (event, next) := pool.perform call
    let (events, final) := next.run calls
    (event :: events, final)

/-- What the slot with this index holds; there is nothing in a slot outside the pool. -/
def contents (pool : SlotPool α) (index : Nat) : Option α := pool.get? ⟨index⟩

namespace Event

/-- What the slot with this index holds after the event, if it held this before. -/
def apply (event : Event α) (index : Nat) (before : Option α) : Option α :=
  match event with
  | .inserted id value | .replaced id value (some _) =>
    if index = id.index then some value else before
  | .removed id (some _) => if index = id.index then none else before
  | .refused _ | .removed _ none | .replaced _ _ none | .seen _ _ => before

def taken : Event α → List Nat
  | .inserted id _ => [id.index]
  | .refused _ | .removed _ _ | .replaced _ _ _ | .seen _ _ => []

def released : Event α → List Nat
  | .removed id (some _) => [id.index]
  | .removed _ none | .inserted _ _ | .refused _ | .replaced _ _ _ | .seen _ _ => []

def Fails : Event α → Prop
  | .refused _ => True
  | .removed _ found | .seen _ found | .replaced _ _ found => found = none
  | .inserted _ _ => False

/-- The event is one that slots with these contents call for: a value goes to an empty slot and is
refused if there is none, and with a handle just that is found which is in the slot. -/
def Fits (capacity : Nat) (contents : Nat → Option α) : Event α → Prop
  | .inserted id _ => id.index < capacity ∧ contents id.index = none
  | .refused _ => ∀ index < capacity, contents index ≠ none
  | .removed id found | .seen id found | .replaced id _ found => found = contents id.index

end Event

def applyAll (events : List (Event α)) (index : Nat) (before : Option α) : Option α :=
  events.foldl (fun before event => event.apply index before) before

/-- What the events have left in a slot that was empty: what was stored there last, unless it has
been released since. -/
def held (events : List (Event α)) (index : Nat) : Option α := applyAll events index none

def taken (events : List (Event α)) : List Nat := events.flatMap Event.taken

def released (events : List (Event α)) : List Nat := events.flatMap Event.released

theorem Sound.mem_free_iff_contents {pool : SlotPool α} (h : pool.Sound) (index : Nat) :
    index ∈ pool.free ↔ index < pool.capacity ∧ pool.contents index = none := by
  rw [h.mem_free_iff, contents, get?]
  constructor
  · intro hempty
    obtain ⟨hlt, _⟩ := List.getElem?_eq_some_iff.mp hempty
    exact ⟨hlt, by simp [hempty]⟩
  · rintro ⟨hlt, hnone⟩
    rw [capacity] at hlt
    rw [List.getElem?_eq_getElem hlt, Option.join_some] at hnone
    rw [List.getElem?_eq_getElem hlt, hnone]

theorem Sound.available_eq {pool : SlotPool α} (h : pool.Sound) :
    pool.available
      = (List.range pool.capacity).countP fun index => (pool.contents index).isNone := by
  have hperm : pool.free.Perm
      ((List.range pool.capacity).filter fun index => (pool.contents index).isNone) := by
    apply (List.perm_ext_iff_of_nodup h.nodup (List.nodup_range.filter _)).mpr
    intro index
    rw [h.mem_free_iff_contents, List.mem_filter, List.mem_range, Option.isNone_iff_eq_none]
  rw [available, hperm.length_eq, List.countP_eq_length_filter]

theorem Sound.size_eq {pool : SlotPool α} (h : pool.Sound) :
    pool.size = (List.range pool.capacity).countP fun index => (pool.contents index).isSome := by
  have hall := (List.range pool.capacity).length_eq_countP_add_countP
    fun index => (pool.contents index).isSome
  simp only [List.length_range, Bool.not_eq_true, Option.isSome_eq_false_iff, Bool.decide_eq_true]
    at hall
  rw [size, h.available_eq]
  omega

/-- One call: the pool stays sound, the contents change as the event says, and a slot that is taken
comes from the front of the queue while one that is released goes to its end. -/
structure Passes (pool : SlotPool α) (event : Event α) (next : SlotPool α) : Prop where
  sound : next.Sound
  capacity : next.capacity = pool.capacity
  contents : ∀ index, next.contents index = event.apply index (pool.contents index)
  fits : event.Fits pool.capacity pool.contents
  unchanged : event.Fails → next = pool
  queue : pool.free ++ event.released = event.taken ++ next.free

section

variable {pool next : SlotPool α} {id : SlotId} {value : α}

theorem Passes.inserted (hsound : pool.Sound) (h : pool.insert? value = some (id, next)) :
    Passes pool (.inserted id value) next where
  sound := hsound.insert h
  capacity := capacity_of_insert h
  contents index := by
    rw [SlotPool.contents, hsound.get?_of_insert h]
    simp only [SlotId.mk_eq_iff]
    rfl
  fits := by
    obtain ⟨free, hfree, _⟩ := insert?_eq_some_iff.mp h
    exact (hsound.mem_free_iff_contents id.index).mp (by simp [hfree])
  unchanged := False.elim
  queue := by
    obtain ⟨free, hfree, rfl⟩ := insert?_eq_some_iff.mp h
    rw [hfree]
    exact List.append_nil _

theorem Passes.refused (hsound : pool.Sound) (h : pool.insert? value = none) :
    Passes pool (.refused value) pool where
  sound := hsound
  capacity := rfl
  contents _ := rfl
  fits index hlt hempty := by
    have hfree := (hsound.mem_free_iff_contents index).mpr ⟨hlt, hempty⟩
    rw [insert?_eq_none_iff.mp h] at hfree
    cases hfree
  unchanged _ := rfl
  queue := List.append_nil _

theorem Passes.removed (hsound : pool.Sound) (h : pool.remove? id = some (value, next)) :
    Passes pool (.removed id (some value)) next where
  sound := hsound.remove h
  capacity := capacity_of_remove h
  contents index := by
    rw [SlotPool.contents, get?_of_remove h]
    simp only [SlotId.mk_eq_iff]
    rfl
  fits := (remove?_eq_some_iff.mp h).1.symm
  unchanged hfails := nomatch hfails
  queue := by
    obtain ⟨_, rfl⟩ := remove?_eq_some_iff.mp h
    rfl

theorem Passes.replaced {old : α} (hsound : pool.Sound)
    (h : pool.replace? id value = some (old, next)) :
    Passes pool (.replaced id value (some old)) next where
  sound := hsound.replace h
  capacity := capacity_of_replace h
  contents index := by
    rw [SlotPool.contents, get?_of_replace h]
    simp only [SlotId.mk_eq_iff]
    rfl
  fits := (replace?_eq_some_iff.mp h).1.symm
  unchanged hfails := nomatch hfails
  queue := by
    obtain ⟨_, rfl⟩ := replace?_eq_some_iff.mp h
    exact List.append_nil _

theorem Passes.looked (hsound : pool.Sound) {event : Event α}
    (hfits : event.Fits pool.capacity pool.contents) (hreleased : event.released = [])
    (htaken : event.taken = []) (happly : ∀ index before, event.apply index before = before) :
    Passes pool event pool where
  sound := hsound
  capacity := rfl
  contents index := (happly index _).symm
  fits := hfits
  unchanged _ := rfl
  queue := by
    rw [hreleased, htaken]
    exact List.append_nil _

end

theorem perform_passes {pool : SlotPool α} (h : pool.Sound) (call : Call α) :
    Passes pool (pool.perform call).1 (pool.perform call).2 := by
  cases call with
  | insert value =>
    rw [perform]
    cases hinsert : pool.insert? value with
    | none => exact .refused h hinsert
    | some inserted => exact .inserted h hinsert
  | remove id =>
    rw [perform]
    cases hremove : pool.remove? id with
    | some removed => exact .removed h hremove
    | none =>
      have hnone : pool.get? id = none := Option.map_eq_none_iff.mp hremove
      exact .looked h hnone.symm rfl rfl fun _ _ => rfl
  | get id => exact .looked h rfl rfl rfl fun _ _ => rfl
  | replace id value =>
    rw [perform]
    cases hreplace : pool.replace? id value with
    | some replaced => exact .replaced h hreplace
    | none =>
      have hnone : pool.get? id = none := Option.map_eq_none_iff.mp hreplace
      exact .looked h hnone.symm rfl rfl fun _ _ => rfl

/-- A slot that is taken was empty and one that is released was not. -/
theorem Passes.balance {pool next : SlotPool α} {event : Event α} (h : Passes pool event next)
    (index : Nat) :
    event.released.count index + (next.contents index).toList.length
      = event.taken.count index + (pool.contents index).toList.length := by
  have hfits := h.fits
  rw [h.contents]
  cases event with
  | refused | seen => rfl
  | inserted id value =>
    by_cases heq : index = id.index
    · subst heq
      simp [Event.apply, Event.released, Event.taken, hfits.2]
    · simp [Event.apply, Event.released, Event.taken, heq, Ne.symm heq]
  | removed id found =>
    cases found with
    | none => rfl
    | some value =>
      have hheld : pool.contents id.index = some value := Eq.symm hfits
      by_cases heq : index = id.index
      · subst heq
        simp [Event.apply, Event.released, Event.taken, hheld]
      · simp [Event.apply, Event.released, Event.taken, heq, Ne.symm heq]
  | replaced id value found =>
    cases found with
    | none => rfl
    | some old =>
      have hheld : pool.contents id.index = some old := Eq.symm hfits
      by_cases heq : index = id.index
      · subst heq
        simp [Event.apply, Event.released, Event.taken, hheld]
      · simp [Event.apply, Event.released, Event.taken, heq]

/-- A run of calls that came to these events: what one call keeps, and the sum of what the calls
change. -/
structure Ran (pool : SlotPool α) (events : List (Event α)) (final : SlotPool α) : Prop where
  sound : final.Sound
  capacity : final.capacity = pool.capacity
  contents : ∀ index, final.contents index = applyAll events index (pool.contents index)
  balance : ∀ index, (released events).count index + (final.contents index).toList.length
    = (taken events).count index + (pool.contents index).toList.length
  queue : pool.free ++ released events = taken events ++ final.free

theorem Ran.nil {pool : SlotPool α} (h : pool.Sound) : Ran pool [] pool where
  sound := h
  capacity := rfl
  contents _ := rfl
  balance _ := rfl
  queue := List.append_nil _

theorem Ran.cons {pool next final : SlotPool α} {event : Event α} {events : List (Event α)}
    (hfirst : Passes pool event next) (hothers : Ran next events final) :
    Ran pool (event :: events) final where
  sound := hothers.sound
  capacity := hothers.capacity.trans hfirst.capacity
  contents index := by
    rw [hothers.contents, hfirst.contents]
    rfl
  balance index := by
    have hone := hfirst.balance index
    have hrest := hothers.balance index
    rw [released, taken, List.flatMap_cons, List.flatMap_cons, List.count_append,
      List.count_append, ← released, ← taken]
    omega
  queue := by
    have hrest := hothers.queue
    rw [released, taken, List.flatMap_cons, List.flatMap_cons, ← released, ← taken]
    calc pool.free ++ (event.released ++ released events)
        = (event.taken ++ next.free) ++ released events := by
          rw [← hfirst.queue, List.append_assoc]
      _ = event.taken ++ taken events ++ final.free := by
          rw [List.append_assoc, hrest, List.append_assoc]

theorem run_ran {pool : SlotPool α} (h : pool.Sound) (calls : List (Call α)) :
    Ran pool (pool.run calls).1 (pool.run calls).2 := by
  induction calls generalizing pool with
  | nil => exact .nil h
  | cons call calls ih =>
    have hfirst := perform_passes h call
    exact .cons hfirst (ih hfirst.sound)

/-- Slots rest in the order of their release: while others are free that were so before, a released
slot is not taken. -/
theorem not_mem_taken_of_remove {pool next : SlotPool α} {id : SlotId} {value : α}
    (h : pool.Sound) (hremove : pool.remove? id = some (value, next)) (later : List (Call α)) :
    id.index ∉ (taken (next.run later).1).take pool.available := by
  obtain ⟨hget, hnext⟩ := remove?_eq_some_iff.mp hremove
  have hqueue := (run_ran (h.remove hremove) later).queue
  have hfree : next.free = pool.free ++ [id.index] := by rw [hnext]
  have hoccupied : id.index ∉ pool.free := by
    rw [h.mem_free_iff_contents]
    rintro ⟨_, hnone⟩
    have hsome : pool.contents id.index = some value := hget
    rw [hsome] at hnone
    cases hnone
  intro hmem
  -- The next that are taken come from the front of the queue, and the released slot is behind it.
  have hinitial : (taken (next.run later).1).take pool.available <+: pool.free := by
    have htaken : (taken (next.run later).1).take pool.available
        <+: pool.free ++ ([id.index] ++ released (next.run later).1) := by
      refine (List.take_prefix _ _).trans ⟨(next.run later).2.free, ?_⟩
      rw [← hqueue, hfree, List.append_assoc]
    refine List.prefix_of_prefix_length_le htaken (List.prefix_append _ _) ?_
    exact List.length_take_le _ _
  exact hoccupied (hinitial.subset hmem)

/-- The pool is what the events have made of an empty one with this capacity. -/
structure Reflects (pool : SlotPool α) (capacity : Nat) (events : List (Event α)) : Prop where
  capacity_eq : pool.capacity = capacity
  contents_eq : ∀ index, pool.contents index = held events index
  outside : ∀ index, capacity ≤ index → held events index = none
  /-- The free list names each empty slot, once, and nothing else. -/
  free_nodup : pool.free.Nodup
  mem_free_iff : ∀ index, index ∈ pool.free ↔ index < capacity ∧ held events index = none
  size_eq : pool.size = (List.range capacity).countP fun index => (held events index).isSome
  size_add_available : pool.size + pool.available = capacity
  /-- Every release ends an occupancy of its own. -/
  balance : ∀ index, (released events).count index + (held events index).toList.length
    = (taken events).count index
  /-- Slots are taken in the order in which they became free. -/
  queue : List.range capacity ++ released events = taken events ++ pool.free

theorem reflects_of_ran {pool : SlotPool α} {capacity : Nat} {events : List (Event α)}
    (h : Ran (ofCapacity capacity) events pool) : pool.Reflects capacity events := by
  have hcapacity : pool.capacity = capacity := h.capacity.trans List.length_replicate
  have hempty : ∀ index, (ofCapacity capacity : SlotPool α).contents index = none := by
    intro index
    simp only [SlotPool.contents, get?, ofCapacity, List.getElem?_replicate]
    split <;> rfl
  have hcontents : ∀ index, pool.contents index = held events index := by
    intro index
    rw [h.contents, hempty]
    rfl
  refine ⟨hcapacity, hcontents, ?_, h.sound.nodup, ?_, ?_, ?_, ?_, h.queue⟩
  · intro index hle
    rw [← hcapacity] at hle
    rw [← hcontents, SlotPool.contents, get?, List.getElem?_eq_none hle]
    rfl
  · intro index
    rw [h.sound.mem_free_iff_contents, hcapacity, hcontents]
  · simp only [h.sound.size_eq, hcapacity, hcontents]
  · have hle : pool.available ≤ pool.capacity := by
      rw [h.sound.available_eq]
      exact Nat.le_trans List.countP_le_length (Nat.le_of_eq List.length_range)
    rw [SlotPool.size, Nat.sub_add_cancel hle, hcapacity]
  · intro index
    have hbalance := h.balance index
    rw [hcontents, hempty] at hbalance
    exact hbalance

/-- **What calls make of a pool.** Whatever is called with whatever handles, the pool is what the
events have made of it, and the next call comes to what the contents call for: a value is stored if
and only if a slot is empty, and in such a slot; with a handle that is found which was stored last.
A call that fails changes nothing. A slot that is released while `f` others are free is not among
the next `f` that are taken. -/
theorem run_ofCapacity_reflects (capacity : Nat) (calls : List (Call α)) :
    ∃ events pool, (ofCapacity capacity : SlotPool α).run calls = (events, pool) ∧
      pool.Reflects capacity events ∧
      (∀ call, ∃ event next, pool.perform call = (event, next) ∧
        event.Fits capacity (held events) ∧ (event.Fails → next = pool)) ∧
      (∀ value, (∃ id next, pool.perform (.insert value) = (.inserted id value, next)) ↔
        ∃ index < capacity, held events index = none) ∧
      ∀ id value next, pool.remove? id = some (value, next) → ∀ later : List (Call α),
        id.index ∉ (taken (next.run later).1).take pool.available := by
  have hran := run_ran (sound_ofCapacity capacity : (ofCapacity capacity : SlotPool α).Sound) calls
  generalize hrun : (ofCapacity capacity : SlotPool α).run calls = ran at hran
  obtain ⟨events, pool⟩ := ran
  have hreflects := reflects_of_ran hran
  have hfits : ∀ call, (pool.perform call).1.Fits capacity (held events) := by
    intro call
    have hpasses := (perform_passes hran.sound call).fits
    rwa [hreflects.capacity_eq, funext hreflects.contents_eq] at hpasses
  refine ⟨events, pool, rfl, hreflects, ?_, ?_, ?_⟩
  · intro call
    exact ⟨_, _, rfl, hfits call, (perform_passes hran.sound call).unchanged⟩
  · intro value
    have hinsert := hfits (.insert value)
    rw [perform] at hinsert ⊢
    cases hinserted : pool.insert? value with
    | some inserted =>
      rw [hinserted] at hinsert
      exact iff_of_true ⟨_, _, rfl⟩ ⟨_, hinsert⟩
    | none =>
      rw [hinserted] at hinsert
      refine iff_of_false (fun ⟨_, _, h⟩ => nomatch h) ?_
      rintro ⟨index, hlt, hempty⟩
      exact hinsert index hlt hempty
  · intro id value next hremove later
    exact not_mem_taken_of_remove hran.sound hremove later

end SlotPool

end MeshTelemetry
