import MeshTelemetry.Proofs.Message.Reachable

/-!
# Blocks that a program holds

A block that a node asks for is checked when it is made: its size is a power of two from 16 to 2048
and its number has 20 bits, so its offset is exact. A descriptor from the wire is unpacked without
this check. Its size cannot be wrong, for three bits name it, but the other 28 bits are its number,
and the offset of a block with such a number is no more than an upper limit. So the blocks that a
program holds are valid exactly if the descriptors that it reads stay below `2 ^ 24`.
-/

namespace MeshTelemetry

namespace Block

/-- The size is one that may be asked for. -/
structure HasAllowedSize (block : Block) : Prop where
  power : ∃ exponent, block.size = 2 ^ exponent
  ge : 16 ≤ block.size
  le : block.size ≤ 2048

/-- What is checked of a block to ask for. -/
structure Valid (block : Block) : Prop where
  size : block.HasAllowedSize
  number_le : block.number.val ≤ maxBlockNumber

theorem size_eq (block : Block) : block.size = 2 ^ (4 + block.exponent.val) := by
  rw [size, sizeOfExponent, Nat.shiftLeft_eq, Nat.pow_add]

/-- Three bits of exponent name the eight sizes that may be asked for and nothing else. -/
theorem hasAllowedSize (block : Block) : block.HasAllowedSize := by
  have hexponent : 4 + block.exponent.val ≤ 11 := by omega
  have hge : 2 ^ 4 ≤ 2 ^ (4 + block.exponent.val) :=
    Nat.pow_le_pow_right (by decide) (Nat.le_add_right 4 _)
  have hle : 2 ^ (4 + block.exponent.val) ≤ 2 ^ 11 :=
    Nat.pow_le_pow_right (by decide) hexponent
  rw [← size_eq] at hge hle
  exact ⟨⟨_, block.size_eq⟩, hge, hle⟩

theorem valid_iff_number_le {block : Block} :
    block.Valid ↔ block.number.val ≤ maxBlockNumber := by
  constructor
  · exact Valid.number_le
  · intro hnumber
    exact ⟨block.hasAllowedSize, hnumber⟩

theorem exponentOfSize?_eq_some_iff {size : Nat} {exponent : Fin 8} :
    exponentOfSize? size = some exponent ↔ sizeOfExponent exponent = size := by
  constructor
  · intro h
    simpa using List.find?_some h
  · rintro rfl
    revert exponent
    decide

theorem ofParts_eq_ok_iff {number size : Nat} {more : Bool} {block : Block} :
    ofParts number more size = .ok block ↔
      block.Valid ∧ block.number.val = number ∧ block.more = more ∧ block.size = size := by
  rw [valid_iff_number_le]
  constructor
  · intro h
    unfold ofParts at h
    split at h
    · cases h
    · rename_i exponent hexponent
      split at h
      · rename_i hnumber
        cases h
        exact ⟨hnumber, rfl, rfl, exponentOfSize?_eq_some_iff.mp hexponent⟩
      · cases h
  · rintro ⟨hnumber, rfl, rfl, rfl⟩
    have hexponent : exponentOfSize? block.size = some block.exponent :=
      exponentOfSize?_eq_some_iff.mpr rfl
    rw [ofParts, hexponent]
    simp only [dif_pos hnumber]

/-- The greatest block that may be asked for starts below the wrap. -/
theorem Valid.offset_eq {block : Block} (h : block.Valid) :
    block.offset = block.number.val * block.size := by
  apply Nat.min_eq_left
  calc block.number.val * block.size ≤ maxBlockNumber * 2048 :=
        Nat.mul_le_mul h.number_le h.size.le
    _ ≤ 0xFFFFFFFF := by decide

theorem valid_ofValue_iff {value : UInt32} :
    (ofValue value).Valid ↔ value.toNat < 2 ^ 24 := by
  rw [valid_iff_number_le]
  simp only [ofValue, maxBlockNumber]
  omega

end Block

/-- The descriptors that count, the last of each block option, leave the upper byte free. -/
def MessageParts.Narrow (parts : MessageParts) : Prop :=
  ∀ kind, kind = .block1 ∨ kind = .block2 →
    ∀ value ∈ (valuesOf parts.options kind).getLast?, (uintOf value).toNat < 2 ^ 24

namespace Message

def blocks (message : Message) : List Block := message.block1.toList ++ message.block2.toList

theorem mem_blocks {message : Message} {block : Block} :
    block ∈ message.blocks ↔ message.block1 = some block ∨ message.block2 = some block := by
  rw [blocks, List.mem_append, Option.mem_toList, Option.mem_toList]

theorem mem_blocks_message {parts : MessageParts} {block : Block} :
    block ∈ parts.message.blocks ↔
      ∃ kind, (kind = .block1 ∨ kind = .block2) ∧
        ∃ value ∈ (valuesOf parts.options kind).getLast?, Block.ofValue (uintOf value) = block := by
  have hblock1 : parts.message.block1
      = (valuesOf parts.options .block1).getLast?.map (Block.ofValue ∘ uintOf) := rfl
  have hblock2 : parts.message.block2
      = (valuesOf parts.options .block2).getLast?.map (Block.ofValue ∘ uintOf) := rfl
  rw [mem_blocks, hblock1, hblock2, Option.map_eq_some_iff, Option.map_eq_some_iff]
  constructor
  · rintro (hread | hread)
    · exact ⟨.block1, .inl rfl, hread⟩
    · exact ⟨.block2, .inr rfl, hread⟩
  · rintro ⟨_, rfl | rfl, hread⟩
    · exact .inl hread
    · exact .inr hread

theorem valid_blocks_message_iff {parts : MessageParts} :
    (∀ block ∈ parts.message.blocks, block.Valid) ↔ parts.Narrow := by
  constructor
  · intro hvalid kind hkind value hmem
    apply Block.valid_ofValue_iff.mp
    exact hvalid _ (mem_blocks_message.mpr ⟨kind, hkind, value, hmem, rfl⟩)
  · intro hnarrow block hmem
    obtain ⟨kind, hkind, value, hvalue, rfl⟩ := mem_blocks_message.mp hmem
    exact Block.valid_ofValue_iff.mpr (hnarrow kind hkind value hvalue)

/-- A setter keeps each block or puts a valid one in its place. -/
theorem mem_blocks_set {message : Message} {setter : Setter} {block : Block}
    (h : block ∈ (message.set setter).blocks) : block ∈ message.blocks ∨ block.Valid := by
  have hparts : ∀ {number more size}, (Block.ofParts number more size).toOption = some block →
      block.Valid := by
    intro number more size hok
    cases hparts : Block.ofParts number more size with
    | error err =>
      rw [hparts] at hok
      cases hok
    | ok made =>
      rw [hparts] at hok
      cases hok
      exact (Block.ofParts_eq_ok_iff.mp hparts).1
  cases setter
  case block1 number more size =>
    rw [set, toOption_setBlock1_eq, mem_blocks, Option.or_eq_some_iff] at h
    rw [mem_blocks]
    obtain (hmade | ⟨_, hkept⟩) | hother := h
    · exact .inr (hparts hmade)
    · exact .inl (.inl hkept)
    · exact .inl (.inr hother)
  case block2 number more size =>
    rw [set, toOption_setBlock2_eq, mem_blocks, Option.or_eq_some_iff] at h
    rw [mem_blocks]
    obtain hother | hmade | ⟨_, hkept⟩ := h
    · exact .inl (.inl hother)
    · exact .inr (hparts hmade)
    · exact .inl (.inr hkept)
  case locationPath path =>
    obtain ⟨location, query, heq⟩ := message.setLocationPath_eq path
    rw [set, heq] at h
    exact .inl h
  all_goals exact .inl h

/-- The messages that a program can hold which reads only such bytes. -/
inductive ReachableFrom (reads : Bytes → Prop) : Message → Prop where
  | bare (kind : MessageKind) (code : Code) (messageId : UInt16) :
      ReachableFrom reads { kind := kind, code := code, messageId := messageId }
  | decoded {bytes : Bytes} {message : Message} {telemetry : Option Bytes} :
      reads bytes → decodeWithTelemetry bytes = .ok (message, telemetry) →
      ReachableFrom reads message
  | set {message : Message} (setter : Setter) :
      ReachableFrom reads message → ReachableFrom reads (message.set setter)

theorem reachable_iff_reachableFrom {message : Message} :
    message.Reachable ↔ ReachableFrom (fun _ => True) message := by
  constructor
  · intro h
    induction h with
    | bare kind code messageId => exact .bare kind code messageId
    | decoded hread => exact .decoded trivial hread
    | set setter _ ih => exact .set setter ih
  · intro h
    induction h with
    | bare kind code messageId => exact .bare kind code messageId
    | decoded _ hread => exact .decoded hread
    | set setter _ ih => exact .set setter ih

theorem ReachableFrom.mono {reads others : Bytes → Prop} {message : Message}
    (hreads : ∀ bytes, reads bytes → others bytes) (h : ReachableFrom reads message) :
    ReachableFrom others message := by
  induction h with
  | bare kind code messageId => exact .bare kind code messageId
  | decoded hbytes hread => exact .decoded (hreads _ hbytes) hread
  | set setter _ ih => exact .set setter ih

def SpellsNarrow (bytes : Bytes) : Prop :=
  ∀ parts, MessageForm parts bytes → parts.Acceptable → parts.Narrow

theorem ReachableFrom.valid_blocks {reads : Bytes → Prop} {message : Message}
    (hreads : ∀ bytes, reads bytes → SpellsNarrow bytes) (h : ReachableFrom reads message) :
    ∀ block ∈ message.blocks, block.Valid := by
  induction h with
  | bare =>
    intro block hmem
    cases hmem
  | decoded hbytes hread =>
    obtain ⟨parts, hform, hacceptable, rfl, _⟩ := exists_form_of_decodeWithTelemetry hread
    exact valid_blocks_message_iff.mpr (hreads _ hbytes parts hform hacceptable)
  | set setter _ ih =>
    intro block hmem
    obtain hkept | hvalid := mem_blocks_set hmem
    · exact ih block hkept
    · exact hvalid

/-- **Limits of the messages in memory.** Whatever a program reads and sets, token, tags and payload
are within their limits and the size of each block is one that may be asked for. The numbers of the
blocks are in range as well, and the offsets exact, if all that the program reads spells narrow
descriptors, and only then. -/
theorem limits_of_reads (reads : Bytes → Prop) :
    (∀ message, ReachableFrom reads message →
      message.WithinLimits ∧ ∀ block ∈ message.blocks, block.HasAllowedSize) ∧
    ((∀ message, ReachableFrom reads message → ∀ block ∈ message.blocks,
        block.Valid ∧ block.offset = block.number.val * block.size) ↔
      ∀ bytes, reads bytes → SpellsNarrow bytes) := by
  refine ⟨?_, ?_, ?_⟩
  · intro message h
    have hreachable : message.Reachable :=
      reachable_iff_reachableFrom.mpr (h.mono fun _ _ => trivial)
    exact ⟨hreachable.withinLimits, fun block _ => block.hasAllowedSize⟩
  · intro hvalid bytes hbytes parts hform hacceptable
    apply valid_blocks_message_iff.mp
    intro block hmem
    have hread := decodeWithTelemetry_of_acceptable hform hacceptable
    exact (hvalid _ (.decoded hbytes hread) block hmem).1
  · intro hreads message h block hmem
    have hblock := h.valid_blocks hreads block hmem
    exact ⟨hblock, hblock.offset_eq⟩

/-- A request with a Block1 descriptor of four bytes, all of them 255. -/
def wideRequest : Bytes := [0x40, 0x01, 0x00, 0x01, 0xD4, 0x0E, 0xFF, 0xFF, 0xFF, 0xFF]

/-- The request is read, with a block that cannot be made of its own parts. -/
theorem decode_wideRequest :
    ∃ message block, decodeWithTelemetry wideRequest = .ok (message, none) ∧
      message.Reachable ∧ block ∈ message.blocks ∧ ¬ block.Valid ∧
        Block.ofParts block.number.val block.more block.size
          = .error (.invalidBlockNumber 0x0FFFFFFF) ∧
        block.offset ≠ block.number.val * block.size := by
  let block : Block := ⟨0x0FFFFFFF, true, 7⟩
  let message : Message :=
    { kind := .confirmable, code := .get, messageId := 1, block1 := some block }
  have hread : decodeWithTelemetry wideRequest = .ok (message, none) := by decide +kernel
  have hnumber : ¬ block.number.val ≤ maxBlockNumber := by decide
  refine ⟨message, block, hread, .decoded hread, ?_, ?_, by decide, by decide⟩
  · exact mem_blocks.mpr (.inl rfl)
  · exact fun hvalid => hnumber hvalid.number_le

end Message

end MeshTelemetry
