import MeshTelemetry.Frame

/-!
# The regions of a frame

Whatever is done to a frame, its room, its header region and its data lie one behind the other in
the storage. So growing the header region by some bytes makes the frame longer by exactly these, and
overwriting them changes nothing else.
-/

namespace MeshTelemetry

namespace Frame

/-- The frames that a program can hold: new ones, received ones, and what the operations make of
them. The header region that an allocation has shown may be overwritten. -/
inductive Reachable : Frame → Prop where
  | outgoing (kind : FrameKind) (linkHeader payload : Bytes) (room : Nat) :
      Reachable (withHeaderRoom kind linkHeader payload room)
  | incoming (kind : FrameKind) (linkHeader : Bytes) (hasElements : Bool) (body : Bytes) :
      Reachable (incoming kind linkHeader hasElements body)
  | received {frame : Frame} : Reachable frame → Reachable frame.received
  | written {frame grown : Frame} {region bytes : Bytes} :
      Reachable frame → frame.allocHeader? bytes.length = some (region, grown) →
        Reachable (grown.writeHeader bytes)
  | consumed {frame next : Frame} {count : Nat} :
      Reachable frame → frame.consume? count = some next → Reachable next
  | flagged {frame : Frame} (hasElements : Bool) :
      Reachable frame → Reachable (frame.setHasElements hasElements)

/-- The regions lie in order within the storage. -/
structure WellFormed (frame : Frame) : Prop where
  header_le : frame.headerStart ≤ frame.dataStart
  data_le : frame.dataStart ≤ frame.storage.length

theorem length_withHeaderRoom (kind : FrameKind) (linkHeader payload : Bytes) (room : Nat) :
    (withHeaderRoom kind linkHeader payload room).length
      = linkHeader.length + payload.length := by
  simp only [length, withHeaderRoom, List.length_append, List.length_replicate]
  omega

theorem body_withHeaderRoom (kind : FrameKind) (linkHeader payload : Bytes) (room : Nat) :
    (withHeaderRoom kind linkHeader payload room).body = payload := by
  apply List.drop_left'
  exact List.length_replicate

/-- A neighbour finds in the data what was sent behind the link header. -/
theorem data_received (frame : Frame) : frame.received.data = frame.body := List.drop_zero

theorem consume?_of_le {frame : Frame} {count : Nat} (h : count ≤ frame.data.length) :
    frame.consume? count = some { frame with dataStart := frame.dataStart + count } := by
  rw [data, List.length_drop] at h
  exact if_pos h

/-- Consuming the front of the data leaves the rest of it. -/
theorem data_consumed {frame : Frame} {front rest : Bytes} (hdata : frame.data = front ++ rest) :
    data { frame with dataStart := frame.dataStart + front.length } = rest := by
  rw [data] at hdata ⊢
  rw [← List.drop_drop, hdata, List.drop_left]

theorem allocHeader?_eq_some_iff {frame grown : Frame} {count : Nat} {region : Bytes} :
    frame.allocHeader? count = some (region, grown) ↔
      count ≤ frame.headerStart ∧
        grown = { frame with headerStart := frame.headerStart - count } ∧
          region = grown.body.take count := by
  unfold allocHeader?
  constructor
  · intro h
    split at h
    · rename_i hroom
      simp only [Option.some.injEq, Prod.mk.injEq] at h
      obtain ⟨rfl, rfl⟩ := h
      exact ⟨hroom, rfl, rfl⟩
    · cases h
  · rintro ⟨hroom, rfl, rfl⟩
    rw [if_pos hroom]

theorem writeHeader_storage_length {frame : Frame} {bytes : Bytes}
    (h : frame.headerStart + bytes.length ≤ frame.storage.length) :
    (frame.writeHeader bytes).storage.length = frame.storage.length := by
  simp only [writeHeader, List.length_append, List.length_take, List.length_drop]
  omega

namespace WellFormed

variable {frame : Frame}

theorem written {grown : Frame} {region bytes : Bytes} (h : frame.WellFormed)
    (halloc : frame.allocHeader? bytes.length = some (region, grown)) :
    (grown.writeHeader bytes).WellFormed := by
  obtain ⟨hroom, rfl, _⟩ := allocHeader?_eq_some_iff.mp halloc
  obtain ⟨hheader, hdata⟩ := h
  refine ⟨?_, ?_⟩
  · show frame.headerStart - bytes.length ≤ frame.dataStart
    omega
  · rw [writeHeader_storage_length]
    · exact hdata
    · show frame.headerStart - bytes.length + bytes.length ≤ frame.storage.length
      omega

/-- Growing the header region makes the frame longer by what was allocated. -/
theorem length_written {grown : Frame} {region bytes : Bytes} (h : frame.WellFormed)
    (halloc : frame.allocHeader? bytes.length = some (region, grown)) :
    (grown.writeHeader bytes).length = frame.length + bytes.length := by
  obtain ⟨hroom, rfl, _⟩ := allocHeader?_eq_some_iff.mp halloc
  obtain ⟨hheader, hdata⟩ := h
  rw [length, length, writeHeader_storage_length]
  · show frame.linkHeader.length + frame.storage.length - (frame.headerStart - bytes.length) = _
    omega
  · show frame.headerStart - bytes.length + bytes.length ≤ frame.storage.length
    omega

/-- What was written lies in front of what was there. -/
theorem body_written {grown : Frame} {region bytes : Bytes} (h : frame.WellFormed)
    (halloc : frame.allocHeader? bytes.length = some (region, grown)) :
    (grown.writeHeader bytes).body = bytes ++ frame.body := by
  obtain ⟨hroom, rfl, _⟩ := allocHeader?_eq_some_iff.mp halloc
  obtain ⟨hheader, hdata⟩ := h
  have hfront : (frame.storage.take (frame.headerStart - bytes.length)).length
      = frame.headerStart - bytes.length := by
    rw [List.length_take]
    omega
  have hbehind : frame.headerStart - bytes.length + bytes.length = frame.headerStart := by omega
  simp only [body, writeHeader, hbehind, List.append_assoc]
  exact List.drop_left' hfront

theorem consumed {next : Frame} {count : Nat} (h : frame.WellFormed)
    (hconsume : frame.consume? count = some next) : next.WellFormed := by
  obtain ⟨hheader, hdata⟩ := h
  unfold consume? at hconsume
  split at hconsume
  · cases hconsume
    exact ⟨Nat.le_add_right_of_le hheader, by simp only; omega⟩
  · cases hconsume

end WellFormed

/-- Every frame that a program can hold has its regions in order. -/
theorem Reachable.wellFormed {frame : Frame} (h : frame.Reachable) : frame.WellFormed := by
  induction h with
  | outgoing kind linkHeader payload room => exact ⟨Nat.le_refl _, by simp [withHeaderRoom]⟩
  | incoming => exact ⟨Nat.le_refl _, Nat.zero_le _⟩
  | received => exact ⟨Nat.le_refl _, Nat.zero_le _⟩
  | written _ halloc ih => exact ih.written halloc
  | consumed _ hconsume ih => exact ih.consumed hconsume
  | flagged hasElements _ ih => exact ⟨ih.header_le, ih.data_le⟩

end Frame

end MeshTelemetry
