import Mathlib.Data.List.Basic
import MeshTelemetry.Message.OptionHeader
import MeshTelemetry.Proofs.Bytes
import MeshTelemetry.Proofs.Result

/-!
# The bytes of an option header

The form of a header says which bytes spell its two numbers without any reader in sight. A number up
to `maxExtended` has one spelling and a greater one has none: the three ranges of a nibble and its
extension do not overlap. The reader accepts exactly the bytes of the form, and the writer writes
them, so the two are inverse to each other.
-/

namespace MeshTelemetry

/-- How an option header spells a number: the nibble and the bytes that extend it. -/
inductive Extended.Form : Nat → Bytes → Nat → Prop where
  | short {value : Nat} : value < 13 → Form value [] value
  | oneByte (byte : UInt8) : Form 13 [byte] (13 + byte.toNat)
  | twoBytes (high low : UInt8) : Form 14 [high, low] (269 + (high.toNat * 256 + low.toNat))

namespace Extended

theorem Form.nibble_le {nibble value : Nat} {extension : Bytes}
    (h : Form nibble extension value) : nibble ≤ 14 := by
  cases h with
  | short hlt => omega
  | oneByte => decide
  | twoBytes => decide

theorem Form.value_le {nibble value : Nat} {extension : Bytes}
    (h : Form nibble extension value) : value ≤ maxExtended := by
  unfold maxExtended twoByteBase
  cases h with
  | short hlt => omega
  | oneByte byte =>
    have := byte.toNat_lt
    omega
  | twoBytes high low =>
    have := high.toNat_lt
    have := low.toNat_lt
    omega

/-- Both extensions are read alike: a big-endian number is taken and added to a base. -/
theorem take_number_eq_ok_iff {base count value : Nat} {field : Field} {cursor after : Cursor} :
    (cursor.take count field >>= fun taken => .ok (base + natOfBytesBE taken.1, taken.2))
        = .ok (value, after) ↔
      ∃ extension, extension.length = count ∧ value = base + natOfBytesBE extension ∧
        cursor.rest = extension ++ after.rest ∧ after.offset = cursor.offset + extension.length := by
  rw [bind_eq_ok_iff]
  constructor
  · rintro ⟨⟨extension, behind⟩, htake, h⟩
    cases h
    obtain ⟨hrest, hlength, hoffset⟩ := Cursor.take_eq_ok_iff.mp htake
    exact ⟨extension, hlength, rfl, hrest, by rw [hoffset, hlength]⟩
  · rintro ⟨extension, rfl, rfl, hrest, hoffset⟩
    exact ⟨(extension, after), Cursor.take_eq_ok_iff.mpr ⟨hrest, rfl, hoffset⟩, rfl⟩

theorem read_eq_ok_iff {nibble start value : Nat} {field : Field} {cursor after : Cursor} :
    read nibble field start cursor = .ok (value, after) ↔
      ∃ extension, Form nibble extension value ∧ cursor.rest = extension ++ after.rest ∧
        after.offset = cursor.offset + extension.length := by
  unfold read oneByteBase twoByteBase
  constructor
  · intro h
    split at h
    · rename_i hshort
      cases h
      exact ⟨[], .short hshort, rfl, rfl⟩
    · split at h
      · rename_i hnibble
        subst hnibble
        obtain ⟨extension, hlength, rfl, hrest, hoffset⟩ := take_number_eq_ok_iff.mp h
        obtain ⟨byte, rfl⟩ := List.length_eq_one_iff.mp hlength
        rw [natOfBytesBE_singleton]
        exact ⟨[byte], .oneByte byte, hrest, hoffset⟩
      · split at h
        · rename_i hnibble
          subst hnibble
          obtain ⟨extension, hlength, rfl, hrest, hoffset⟩ := take_number_eq_ok_iff.mp h
          obtain ⟨high, low, rfl⟩ := List.length_eq_two.mp hlength
          rw [natOfBytesBE_pair]
          exact ⟨[high, low], .twoBytes high low, hrest, hoffset⟩
        · cases h
  · rintro ⟨extension, hform, hrest, hoffset⟩
    cases hform with
    | short hlt =>
      rw [if_pos hlt]
      obtain ⟨offset, rest⟩ := cursor
      obtain ⟨afterOffset, afterRest⟩ := after
      simp_all
    | oneByte byte =>
      rw [if_neg (by decide), if_pos rfl]
      refine take_number_eq_ok_iff.mpr ⟨[byte], rfl, ?_, hrest, hoffset⟩
      rw [natOfBytesBE_singleton]
    | twoBytes high low =>
      rw [if_neg (by decide), if_neg (by decide), if_pos rfl]
      refine take_number_eq_ok_iff.mpr ⟨[high, low], rfl, ?_, hrest, hoffset⟩
      rw [natOfBytesBE_pair]

/-- The writer spells every number up to `maxExtended`. -/
theorem form_extension {value : Nat} (hle : value ≤ maxExtended) :
    Form (nibble value) (extension value) value := by
  unfold maxExtended twoByteBase at hle
  unfold nibble extension oneByteBase twoByteBase
  split
  · rename_i hshort
    exact .short hshort
  · split
    · rename_i hge hlt
      have hbyte : (UInt8.ofNat (value - 13)).toNat = value - 13 := by
        rw [UInt8.toNat_ofNat_of_lt' (by simp only [UInt8.size]; omega)]
      have hform := Form.oneByte (UInt8.ofNat (value - 13))
      rwa [hbyte, Nat.add_sub_cancel' (by omega)] at hform
    · have hform := Form.twoBytes (UInt8.ofNat ((value - 269) / 256)) (UInt8.ofNat (value - 269))
      have hhigh : (UInt8.ofNat ((value - 269) / 256)).toNat = (value - 269) / 256 := by
        rw [UInt8.toNat_ofNat_of_lt' (by simp only [UInt8.size]; omega)]
      have hlow : (UInt8.ofNat (value - 269)).toNat = (value - 269) % 256 := by simp
      have hvalue : 269 + ((value - 269) / 256 * 256 + (value - 269) % 256) = value := by omega
      rwa [hhigh, hlow, hvalue] at hform

/-- There is only one way to spell a number. -/
theorem Form.eq_extension {nibble value : Nat} {bytes : Bytes}
    (h : Form nibble bytes value) :
    nibble = Extended.nibble value ∧ bytes = Extended.extension value := by
  unfold Extended.nibble Extended.extension oneByteBase twoByteBase
  cases h with
  | short hlt => simp only [if_pos hlt, and_self]
  | oneByte byte =>
    have hbyte := byte.toNat_lt
    have hone : ¬ 13 + byte.toNat < 13 := by omega
    have htwo : 13 + byte.toNat < 269 := by omega
    simp only [if_neg hone, if_pos htwo, Nat.add_sub_cancel_left, true_and]
    rw [← natOfBytesBE_singleton, bytesBE_natOfBytesBE (Nat.le_refl 1)]
    rfl
  | twoBytes high low =>
    have hone : ¬ 269 + (high.toNat * 256 + low.toNat) < 13 := by omega
    have htwo : ¬ 269 + (high.toNat * 256 + low.toNat) < 269 := by omega
    simp only [if_neg hone, if_neg htwo, Nat.add_sub_cancel_left, true_and]
    rw [← natOfBytesBE_pair, bytesBE_natOfBytesBE (Nat.le_refl 2)]
    rfl

end Extended

theorem OptionHeader.read_eq_ok_iff {first : UInt8} {start : Nat} {header : OptionHeader}
    {cursor after : Cursor} :
    OptionHeader.read first start cursor = .ok (header, after) ↔
      ∃ deltaBytes lengthBytes, Extended.Form (first.toNat / 16) deltaBytes header.delta ∧
        Extended.Form (first.toNat % 16) lengthBytes header.length ∧
        cursor.rest = deltaBytes ++ lengthBytes ++ after.rest ∧
        after.offset = cursor.offset + deltaBytes.length + lengthBytes.length := by
  unfold OptionHeader.read
  constructor
  · intro h
    obtain ⟨⟨delta, afterDelta⟩, hdelta, h⟩ := bind_eq_ok_iff.mp h
    obtain ⟨⟨length, afterLength⟩, hlength, h⟩ := bind_eq_ok_iff.mp h
    cases h
    obtain ⟨deltaBytes, hdeltaForm, hdeltaRest, hdeltaOffset⟩ := Extended.read_eq_ok_iff.mp hdelta
    obtain ⟨lengthBytes, hlengthForm, hlengthRest, hlengthOffset⟩ :=
      Extended.read_eq_ok_iff.mp hlength
    refine ⟨deltaBytes, lengthBytes, hdeltaForm, hlengthForm, ?_, ?_⟩
    · rw [hdeltaRest, hlengthRest, List.append_assoc]
    · rw [hlengthOffset, hdeltaOffset]
  · rintro ⟨deltaBytes, lengthBytes, hdeltaForm, hlengthForm, hrest, hoffset⟩
    let afterDelta : Cursor := ⟨cursor.offset + deltaBytes.length, lengthBytes ++ after.rest⟩
    have hdelta : Extended.read (first.toNat / 16) .optionDelta start cursor
        = .ok (header.delta, afterDelta) :=
      Extended.read_eq_ok_iff.mpr ⟨deltaBytes, hdeltaForm, by rw [hrest, List.append_assoc], rfl⟩
    have hlength : Extended.read (first.toNat % 16) .optionLength start afterDelta
        = .ok (header.length, after) :=
      Extended.read_eq_ok_iff.mpr ⟨lengthBytes, hlengthForm, rfl, hoffset⟩
    exact bind_eq_ok_iff.mpr ⟨_, hdelta, bind_eq_ok_iff.mpr ⟨_, hlength, rfl⟩⟩

namespace OptionHeader

/-- The two numbers are such as a header can hold. -/
structure Fits (header : OptionHeader) : Prop where
  delta_le : header.delta ≤ maxExtended
  length_le : header.length ≤ maxExtended

/-- Exactly the bytes that the writer writes spell a header that fits, and no bytes another. -/
theorem form_iff_bytes {header : OptionHeader} {first : UInt8} {deltaBytes lengthBytes : Bytes} :
    (Extended.Form (first.toNat / 16) deltaBytes header.delta ∧
        Extended.Form (first.toNat % 16) lengthBytes header.length) ↔
      header.Fits ∧ deltaBytes = Extended.extension header.delta ∧
        lengthBytes = Extended.extension header.length ∧
          header.bytes = first :: (deltaBytes ++ lengthBytes) := by
  constructor
  · rintro ⟨hdelta, hlength⟩
    obtain ⟨hdeltaNibble, rfl⟩ := hdelta.eq_extension
    obtain ⟨hlengthNibble, rfl⟩ := hlength.eq_extension
    have hfirst : UInt8.ofNat (Extended.nibble header.delta * 16 + Extended.nibble header.length)
        = first := by
      rw [← hdeltaNibble, ← hlengthNibble, Nat.div_add_mod' first.toNat 16, UInt8.ofNat_toNat]
    refine ⟨⟨hdelta.value_le, hlength.value_le⟩, rfl, rfl, ?_⟩
    rw [bytes, hfirst]
  · rintro ⟨hfits, rfl, rfl, hbytes⟩
    have hdelta := Extended.form_extension hfits.delta_le
    have hlength := Extended.form_extension hfits.length_le
    have hdeltaNibble := hdelta.nibble_le
    have hlengthNibble := hlength.nibble_le
    obtain rfl : UInt8.ofNat
        (Extended.nibble header.delta * 16 + Extended.nibble header.length) = first :=
      (List.cons.inj hbytes).1
    have hfirst : (UInt8.ofNat
        (Extended.nibble header.delta * 16 + Extended.nibble header.length)).toNat
          = Extended.nibble header.delta * 16 + Extended.nibble header.length :=
      UInt8.toNat_ofNat_of_lt' (by simp only [UInt8.size]; omega)
    have hhigh : (Extended.nibble header.delta * 16 + Extended.nibble header.length) / 16
        = Extended.nibble header.delta := by omega
    have hlow : (Extended.nibble header.delta * 16 + Extended.nibble header.length) % 16
        = Extended.nibble header.length := by omega
    rw [hfirst, hhigh, hlow]
    exact ⟨hdelta, hlength⟩

/-- The reader accepts the bytes of a header that fits and no others, and stops right behind them. -/
theorem read_eq_ok_iff_bytes {first : UInt8} {start : Nat} {header : OptionHeader}
    {cursor after : Cursor} :
    read first start cursor = .ok (header, after) ↔
      header.Fits ∧ ∃ tail, header.bytes = first :: tail ∧ cursor.rest = tail ++ after.rest ∧
        after.offset = cursor.offset + tail.length := by
  rw [read_eq_ok_iff]
  constructor
  · rintro ⟨deltaBytes, lengthBytes, hdelta, hlength, hrest, hoffset⟩
    obtain ⟨hfits, _, _, hbytes⟩ := form_iff_bytes.mp ⟨hdelta, hlength⟩
    refine ⟨hfits, _, hbytes, hrest, ?_⟩
    rw [hoffset, List.length_append, Nat.add_assoc]
  · rintro ⟨hfits, tail, hbytes, hrest, hoffset⟩
    obtain rfl : Extended.extension header.delta ++ Extended.extension header.length = tail :=
      (List.cons.inj hbytes).2
    obtain ⟨hdelta, hlength⟩ := form_iff_bytes.mpr ⟨hfits, rfl, rfl, hbytes⟩
    refine ⟨_, _, hdelta, hlength, hrest, ?_⟩
    rw [hoffset, List.length_append, Nat.add_assoc]

theorem encode_of_fits {header : OptionHeader} (h : header.Fits) (number : Nat) :
    header.encode number = .ok header.bytes :=
  if_neg (Nat.not_lt.mpr h.length_le)

/-- **An option header has one spelling.** A header whose numbers are at most 65804 is written in as
many bytes as are reckoned for it, and the reader finds it in them again and stops right behind them,
whatever follows. A longer value is refused. Whatever bytes the reader accepts are those that would
be written for the header that it has found, so no other bytes spell the same header. -/
theorem header_spelling :
    (∀ delta length number, delta ≤ 65804 → length ≤ 65804 →
      ∃ first tail, encode ⟨delta, length⟩ number = .ok (first :: tail) ∧
        (first :: tail).length = size ⟨delta, length⟩ ∧
          ∀ start offset rest, read first start ⟨offset, tail ++ rest⟩
            = .ok (⟨delta, length⟩, ⟨offset + tail.length, rest⟩)) ∧
      (∀ delta length number, 65804 < length →
        encode ⟨delta, length⟩ number = .error (.optionTooLong number length)) ∧
      (∀ first start cursor header after, read first start cursor = .ok (header, after) →
        first.toNat / 16 ≤ 14 ∧ first.toNat % 16 ≤ 14 ∧
          header.delta ≤ 65804 ∧ header.length ≤ 65804 ∧
            ∃ tail, cursor.rest = tail ++ after.rest ∧
              after.offset = cursor.offset + tail.length ∧
                ∀ number, header.encode number = .ok (first :: tail)) ∧
      ∀ first other tail others header,
        read first 0 ⟨1, tail⟩ = .ok (header, ⟨1 + tail.length, []⟩) →
          read other 0 ⟨1, others⟩ = .ok (header, ⟨1 + others.length, []⟩) →
            first :: tail = other :: others := by
  refine ⟨?_, ?_, ?_, ?_⟩
  · intro delta length number hdelta hlength
    have hfits : Fits ⟨delta, length⟩ := ⟨hdelta, hlength⟩
    refine ⟨_, _, encode_of_fits hfits number, bytes_length _, ?_⟩
    intro start offset rest
    exact read_eq_ok_iff_bytes.mpr ⟨hfits, _, rfl, rfl, rfl⟩
  · intro delta length number hlong
    exact if_pos hlong
  · intro first start cursor header after hread
    obtain ⟨_, _, hdelta, hlength, _⟩ := read_eq_ok_iff.mp hread
    obtain ⟨hfits, tail, hbytes, hrest, hoffset⟩ := read_eq_ok_iff_bytes.mp hread
    refine ⟨hdelta.nibble_le, hlength.nibble_le, hfits.delta_le, hfits.length_le, tail, hrest,
      hoffset, ?_⟩
    intro number
    rw [encode_of_fits hfits, hbytes]
  · intro first other tail others header hread hother
    obtain ⟨_, spelled, hbytes, hrest, _⟩ := read_eq_ok_iff_bytes.mp hread
    obtain ⟨_, respelled, hbytesOther, hrestOther, _⟩ := read_eq_ok_iff_bytes.mp hother
    obtain rfl : tail = spelled := by simpa using hrest
    obtain rfl : others = respelled := by simpa using hrestOther
    rw [← hbytes, hbytesOther]

/-- Both numbers at the end of a range: 268 is the last with one byte behind the header's first, and
65804 the last with two. -/
theorem header_spelling_lastOfRanges :
    (∃ first tail, encode ⟨268, 65804⟩ 3 = .ok (first :: tail) ∧ (first :: tail).length = 4 ∧
        read first 7 ⟨8, tail ++ [0xFF]⟩ = .ok (⟨268, 65804⟩, ⟨11, [0xFF]⟩)) ∧
      encode ⟨0, 65805⟩ 3 = .error (.optionTooLong 3 65805) ∧
      (read 0xDE 0 ⟨1, [0xFF, 0xFF, 0xFF]⟩ = .ok (⟨268, 65804⟩, ⟨4, []⟩) ∧
        encode ⟨268, 65804⟩ 3 = .ok [0xDE, 0xFF, 0xFF, 0xFF]) ∧
      ∀ other others, read other 0 ⟨1, others⟩ = .ok (⟨268, 65804⟩, ⟨1 + others.length, []⟩) →
        [0xDE, 0xFF, 0xFF, 0xFF] = other :: others := by
  obtain ⟨hwritten, hlong, hread, hone⟩ := header_spelling
  obtain ⟨first, tail, hencode, hsize, hback⟩ := hwritten 268 65804 3 (by decide) (by decide)
  have hlast : read 0xDE 0 ⟨1, [0xFF, 0xFF, 0xFF]⟩ = .ok (⟨268, 65804⟩, ⟨4, []⟩) := by
    decide +kernel
  obtain ⟨_, _, _, _, spelled, hrest, _, hagain⟩ := hread _ _ _ _ _ hlast
  obtain rfl : spelled = [0xFF, 0xFF, 0xFF] := by simpa using hrest.symm
  have hthree : tail.length = 3 := by
    have hfour : (first :: tail).length = 4 := hsize
    simpa using hfour
  refine ⟨⟨first, tail, hencode, hsize, ?_⟩, hlong 0 65805 3 (by decide),
    ⟨hlast, hagain 3⟩, ?_⟩
  · rw [hback, hthree]
  · intro other others hother
    exact hone _ _ _ _ _ hlast hother

end OptionHeader

end MeshTelemetry
