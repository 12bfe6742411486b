import MeshTelemetry.Bytes
import MeshTelemetry.Telemetry.Error

/-!
# Information elements

A frame can announce a list of elements in front of its payload. Each starts with a little-endian
descriptor word whose high bit tells payload elements from header elements: a header element has
eight bits of id and seven of length, a payload element four bits of group and eleven of length. The
content follows the descriptor.

Telemetry travels in a payload element of the IETF group whose content starts with the telemetry
subtype. A header termination goes before it and a payload termination after it.
-/

namespace MeshTelemetry

def descriptorSize : Nat := 2

def payloadBit : Nat := 0x8000

def maxHeaderContent : Nat := 0x7F

def maxPayloadContent : Nat := 0x7FF

def ietfGroup : Fin 16 := lowNibble 5

/-- A header element of id 0x7E without content. -/
def headerTermination : Bytes := [0x00, 0x3F]

/-- A payload element of group 15 without content. -/
def payloadTermination : Bytes := [0x00, 0xF8]

inductive Element where
  | header (id : UInt8) (content : Bytes)
  | payload (group : Fin 16) (content : Bytes)
  deriving DecidableEq, Repr

namespace Element

def content : Element → Bytes
  | .header _ content => content
  | .payload _ content => content

/-- Whether no element can follow. -/
def endsList : Element → Bool
  | .header id _ => id = 0x7F
  | .payload group _ => group.val = 0xF

/-- Whether the element ends the header elements and payload elements follow. -/
def endsHeader : Element → Bool
  | .header id _ => id = 0x7E
  | .payload _ _ => false

/-- Whether the element holds telemetry of this subtype. -/
def isTelemetry (subtype : UInt8) : Element → Bool
  | .header _ _ => false
  | .payload group content => group = ietfGroup && content.head? = some subtype

def descriptor : Element → Nat
  | .header id content => id.toNat * 0x80 + content.length
  | .payload group content => payloadBit + group.val * 0x800 + content.length

/-- The element's bytes, for a content that its length field can count. -/
def encode (element : Element) : Bytes :=
  bytesLE descriptorSize element.descriptor ++ element.content

def declaredLength (descriptor : Nat) : Nat :=
  if descriptor < payloadBit then descriptor % 0x80 else descriptor % 0x800

def ofDescriptor (descriptor : Nat) (content : Bytes) : Element :=
  if descriptor < payloadBit then .header (UInt8.ofNat (descriptor / 0x80)) content
  else .payload (lowNibble (descriptor / 0x800)) content

/-- Reads the element at the start of the bytes, which lies at `offset` in its list. -/
def read (offset : Nat) : Bytes → Except TelemetryError (Element × Bytes)
  | low :: high :: rest =>
    let descriptor := natOfBytesLE [low, high]
    match splitExactly (declaredLength descriptor) rest with
    | some (content, after) => .ok (ofDescriptor descriptor content, after)
    | none => .error (.malformedElement offset .contentOverrun)
  | _ => .error (.malformedElement offset .descriptorTruncated)

theorem read_rest_length_lt {offset : Nat} {bytes after : Bytes} {element : Element}
    (h : read offset bytes = .ok (element, after)) : after.length < bytes.length := by
  match bytes with
  | [] => cases h
  | [_] => cases h
  | low :: high :: rest =>
    simp only [read] at h
    split at h
    · rename_i content tail hsplit
      simp only [Except.ok.injEq, Prod.mk.injEq] at h
      rw [splitExactly_eq_some_iff] at hsplit
      rw [← h.2, hsplit.1]
      simp only [List.length_cons, List.length_append]
      omega
    · cases h

end Element

/-- The descriptor of an IETF payload element with so many bytes of content. -/
def ietfDescriptor (length : Nat) : Except TelemetryError Bytes :=
  if maxPayloadContent < length then .error (.malformedElement 0 .contentTooLong)
  else .ok (bytesLE descriptorSize (payloadBit + ietfGroup.val * 0x800 + length))

end MeshTelemetry
