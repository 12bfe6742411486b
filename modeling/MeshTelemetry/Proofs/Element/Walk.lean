import MeshTelemetry.Element.Walk
import MeshTelemetry.Proofs.Bytes
import MeshTelemetry.Proofs.Telemetry.Content

/-!
# What a walk finds

An element whose content its length field can count is read back as it was written, whatever lies
behind it. So a walk over written elements goes from one to the next, and it meets the telemetry of
its subtype at the place where it was put. The payload behind the list is never looked at, except for
the two bytes that a payload termination has.
-/

namespace MeshTelemetry

namespace Element

/-- The most content that the element's length field can count. -/
def contentLimit : Element → Nat
  | .header _ _ => maxHeaderContent
  | .payload _ _ => maxPayloadContent

theorem descriptor_lt {element : Element}
    (hfits : element.content.length ≤ element.contentLimit) : element.descriptor < 65536 := by
  cases element with
  | header id content =>
    have hid := id.toNat_lt
    simp only [Element.content, contentLimit, maxHeaderContent, descriptor] at *
    omega
  | payload group content =>
    have hgroup := group.isLt
    simp only [Element.content, contentLimit, maxPayloadContent, descriptor, payloadBit] at *
    omega

/-- The high bit of the descriptor tells the two kinds of element apart. -/
theorem descriptor_header_lt (id : UInt8) {content : Bytes}
    (hfits : content.length ≤ maxHeaderContent) :
    (Element.header id content).descriptor < payloadBit := by
  have hid := id.toNat_lt
  simp only [maxHeaderContent] at hfits
  simp only [descriptor, payloadBit]
  omega

theorem not_descriptor_payload_lt (group : Fin 16) (content : Bytes) :
    ¬ (Element.payload group content).descriptor < payloadBit := by
  simp only [descriptor]
  omega

theorem declaredLength_descriptor {element : Element}
    (hfits : element.content.length ≤ element.contentLimit) :
    declaredLength element.descriptor = element.content.length := by
  cases element with
  | header id content =>
    rw [declaredLength, if_pos (@descriptor_header_lt id content hfits)]
    simp only [Element.content, contentLimit, maxHeaderContent, descriptor] at *
    omega
  | payload group content =>
    rw [declaredLength, if_neg (not_descriptor_payload_lt group content)]
    simp only [Element.content, contentLimit, maxPayloadContent, descriptor, payloadBit] at *
    omega

theorem ofDescriptor_descriptor {element : Element}
    (hfits : element.content.length ≤ element.contentLimit) :
    ofDescriptor element.descriptor element.content = element := by
  cases element with
  | header id content =>
    have hid : (Element.header id content).descriptor / 0x80 = id.toNat := by
      simp only [Element.content, contentLimit, maxHeaderContent, descriptor] at *
      omega
    rw [ofDescriptor, if_pos (@descriptor_header_lt id content hfits), hid, UInt8.ofNat_toNat]
    rfl
  | payload group content =>
    have hgroup : lowNibble ((Element.payload group content).descriptor / 0x800) = group := by
      apply Fin.ext
      have hlt := group.isLt
      simp only [Element.content, contentLimit, maxPayloadContent, descriptor, payloadBit,
        lowNibble] at *
      omega
    rw [ofDescriptor, if_neg (not_descriptor_payload_lt group content), hgroup]
    rfl

/-- A written element is read back, and the reader stops right behind it. -/
theorem read_encode {element : Element}
    (hfits : element.content.length ≤ element.contentLimit) (offset : Nat) (rest : Bytes) :
    read offset (element.encode ++ rest) = .ok (element, rest) := by
  have hword : natOfBytesLE (bytesLE descriptorSize element.descriptor) = element.descriptor := by
    rw [natOfBytesLE_bytesLE]
    exact Nat.mod_eq_of_lt (descriptor_lt hfits)
  have hsplit : splitExactly (declaredLength element.descriptor) (element.content ++ rest)
      = some (element.content, rest) := by
    rw [declaredLength_descriptor hfits]
    exact splitExactly_eq_some_iff.mpr ⟨rfl, rfl⟩
  simp only [descriptorSize, bytesLE] at hword
  simp only [encode, descriptorSize, bytesLE, List.cons_append, List.nil_append, read, hword,
    hsplit, ofDescriptor_descriptor hfits]

end Element

namespace ElementWalk

/-- The next step of a walk that stands in front of a written element. -/
theorem next?_encode {element : Element}
    (hfits : element.content.length ≤ element.contentLimit) (position : Nat) (rest : Bytes) :
    next? ⟨element.encode ++ rest, position, false⟩
      = some (.ok (position, element),
          ⟨rest, position + descriptorSize + element.content.length, element.endsList⟩) := by
  have hsome : (element.encode ++ rest).isEmpty = false := by
    simp [Element.encode, descriptorSize, bytesLE]
  simp only [next?, hsome, Bool.or_self, Bool.false_eq_true, if_false,
    Element.read_encode hfits position rest]

/-- A walk passes over an element that is no telemetry. -/
theorem findTelemetry_skip {element : Element} {subtype : UInt8}
    (hfits : element.content.length ≤ element.contentLimit)
    (hother : element.isTelemetry subtype = false) (position : Nat) (rest : Bytes) :
    findTelemetry ⟨element.encode ++ rest, position, false⟩ subtype
      = findTelemetry ⟨rest, position + descriptorSize + element.content.length,
          element.endsList⟩ subtype := by
  rw [findTelemetry_of_element (next?_encode hfits position rest), if_neg (by simp [hother])]

theorem findTelemetry_stop {element : Element} {subtype : UInt8}
    (hfits : element.content.length ≤ element.contentLimit)
    (hfound : element.isTelemetry subtype = true) (position : Nat) (rest : Bytes) :
    findTelemetry ⟨element.encode ++ rest, position, false⟩ subtype
      = .ok (some (.ofElement position element rest)) := by
  rw [findTelemetry_of_element (next?_encode hfits position rest), if_pos hfound]

end ElementWalk

end MeshTelemetry
