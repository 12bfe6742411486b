import MeshTelemetry.Proofs.Message.Encoding

/-!
# The round trip of a message

Whatever a program can hold and write, a reader gets back, with two exceptions that the protocol
wants: the empty code keeps kind and id only, and a proxy option is refused. The reader takes the
options in ascending order, so it is the first proxy option that it names.
-/

namespace MeshTelemetry

namespace Message

theorem foldlM_absorb_proxy {opening : Message} (hopening : opening.ofValues (valuesOf []) = opening)
    {before after : List WireOption} {kind : OptionKind} {value : Bytes}
    (hbefore : ∀ option ∈ before, option.Acceptable) (hproxy : kind.isProxy = true) :
    (before ++ ⟨kind.number, value⟩ :: after).foldlM absorb opening
      = .error (.proxyingNotSupported kind.number) := by
  have hfold := (foldlM_absorb_eq_ok_iff hopening).mpr ⟨hbefore, rfl⟩
  rw [List.foldlM_append, hfold, ok_bind, List.foldlM_cons, absorb_of_known rfl,
    absorbKnown_proxy hproxy, error_bind]

/-- A message is refused for the first proxy option that it holds. -/
theorem decodeWithTelemetry_encodeWith_proxy {message : Message}
    (htoken : message.token.length ≤ maxTokenLength) (hcode : message.isEmpty = false)
    {kind : OptionKind} {before after : List OptionKind} {value : Bytes}
    (hall : OptionKind.all = before ++ kind :: after) (hproxy : kind.isProxy = true)
    (hvalue : message.values kind = [value])
    (hbefore : ∀ other ∈ before, other.isProxy = true → message.values other = [])
    {block : Option Bytes} {bytes : Bytes} (h : message.encodeWith block = .ok bytes) :
    decodeWithTelemetry bytes = .error (.proxyingNotSupported kind.number) := by
  have hform := messageForm_of_encodeWith htoken hcode h
  have hsplit : message.wireOptions
      = (before.flatMap fun kind => (message.values kind).map (⟨kind.number, ·⟩))
        ++ ⟨kind.number, value⟩
          :: after.flatMap fun kind => (message.values kind).map (⟨kind.number, ·⟩) := by
    rw [wireOptions, hall, List.flatMap_append, List.flatMap_cons, hvalue]
    rfl
  have hacceptable : ∀ option ∈ before.flatMap fun kind =>
      (message.values kind).map (⟨kind.number, ·⟩), WireOption.Acceptable option := by
    intro option hmem
    obtain ⟨other, hother, hoption⟩ := List.mem_flatMap.mp hmem
    obtain ⟨held, hheld, rfl⟩ := List.mem_map.mp hoption
    refine acceptable_of_mem_values ?_ hheld
    by_contra hisProxy
    rw [hbefore other hother (by simpa using hisProxy)] at hheld
    cases hheld
  have hnumbers : ∀ option ∈ (message.partsWith block).options,
      option.number ≤ maxOptionNumber := by
    rw [options_partsWith]
    exact fun option hmem => Nat.le_trans (number_le_of_mem_wireOptions hmem) (by decide)
  rw [decodeWithTelemetry_of_form hform hnumbers, options_partsWith, hsplit,
    foldlM_absorb_proxy (opening_ofValues_nil _) hacceptable hproxy, error_bind]

theorem decodeWithTelemetry_of_encode_proxyUri {message : Message}
    (htoken : message.token.length ≤ maxTokenLength) (hcode : message.isEmpty = false)
    {uri : String} (huri : message.proxyUri = some uri) {bytes : Bytes}
    (h : message.encode = .ok bytes) :
    decodeWithTelemetry bytes = .error (.proxyingNotSupported 35) := by
  have hvalue : message.values .proxyUri = [Text.utf8 uri] := by simp [values, huri]
  have hall : OptionKind.all
      = OptionKind.all.take 16 ++ .proxyUri :: [.proxyScheme, .size1] := rfl
  have hnone : ∀ other ∈ OptionKind.all.take 16, other.isProxy = false := by decide
  refine decodeWithTelemetry_encodeWith_proxy htoken hcode hall rfl hvalue ?_ h
  intro other hmem hproxy
  rw [hnone other hmem] at hproxy
  cases hproxy

theorem decodeWithTelemetry_of_encode_proxyScheme {message : Message}
    (htoken : message.token.length ≤ maxTokenLength) (hcode : message.isEmpty = false)
    (huri : message.proxyUri = none) {scheme : String}
    (hscheme : message.proxyScheme = some scheme) {bytes : Bytes}
    (h : message.encode = .ok bytes) :
    decodeWithTelemetry bytes = .error (.proxyingNotSupported 39) := by
  have hvalue : message.values .proxyScheme = [Text.utf8 scheme] := by simp [values, hscheme]
  have hall : OptionKind.all = OptionKind.all.take 17 ++ .proxyScheme :: [.size1] := rfl
  have honly : ∀ other ∈ OptionKind.all.take 17, other.isProxy = true → other = .proxyUri := by
    decide
  refine decodeWithTelemetry_encodeWith_proxy htoken hcode hall rfl hvalue ?_ h
  intro other hmem hproxy
  rw [honly other hmem hproxy]
  simp [values, huri]

theorem decode_eq_of_decodeWithTelemetry {bytes : Bytes} {message : Message}
    {telemetry : Option Bytes} (h : decodeWithTelemetry bytes = .ok (message, telemetry)) :
    decode bytes = .ok message := by
  rw [decode, h]
  rfl

theorem decode_eq_error_of_decodeWithTelemetry {bytes : Bytes} {err : CodecError}
    (h : decodeWithTelemetry bytes = .error err) : decode bytes = .error err := by
  rw [decode, h]
  rfl

/-- A header alone is the message that has nothing else. -/
theorem decodeWithTelemetry_header (kind : MessageKind) (messageId : UInt16) :
    decodeWithTelemetry [UInt8.ofNat (64 + kind.bits * 16), 0,
      UInt8.ofNat (messageId.toNat / 256), UInt8.ofNat messageId.toNat]
      = .ok ({ kind := kind, code := Code.empty, messageId := messageId }, none) := by
  let parts : MessageParts :=
    { kind := kind
      code := Code.empty
      messageId := messageId
      token := []
      items := []
      payload := [] }
  have hkind := kind.bits_lt
  have hfirst : (UInt8.ofNat (64 + kind.bits * 16)).toNat
      = 64 + parts.kind.bits * 16 + parts.token.length := by
    rw [UInt8.toNat_ofNat_of_lt' (by simp only [UInt8.size]; omega)]
    rfl
  have hform : MessageForm parts _ :=
    .mk hfirst (Nat.zero_le _) (toNat_bytes_of_uint16 messageId) .nil .absent
  exact decodeWithTelemetry_of_acceptable hform (fun _ hmem => nomatch hmem)

/-- **The round trip.** A message that a program can hold and write comes back as it was, with no
telemetry in it. The empty code goes out as its header and comes back as a bare message; a proxy
option is refused, by `Proxy-Uri` first. -/
theorem decode_encode {message : Message} (hreachable : message.Reachable) {bytes : Bytes}
    (h : message.encode = .ok bytes) :
    (message.isEmpty = true →
      bytes = [UInt8.ofNat (64 + message.kind.bits * 16), 0,
        UInt8.ofNat (message.messageId.toNat / 256), UInt8.ofNat message.messageId.toNat] ∧
      decode bytes
        = .ok { kind := message.kind, code := Code.empty, messageId := message.messageId }) ∧
    (message.isEmpty = false → message.proxyUri = none → message.proxyScheme = none →
      decode bytes = .ok message ∧ decodeWithTelemetry bytes = .ok (message, none)) ∧
    (message.isEmpty = false → message.proxyUri ≠ none →
      decode bytes = .error (.proxyingNotSupported 35)) ∧
    (message.isEmpty = false → message.proxyUri = none → message.proxyScheme ≠ none →
      decode bytes = .error (.proxyingNotSupported 39)) := by
  have hlimits := hreachable.withinLimits
  refine ⟨?_, ?_, ?_, ?_⟩
  · intro hempty
    rw [encode, encodeWith_of_isEmpty hempty, Except.ok.injEq] at h
    subst h
    exact ⟨rfl, decode_eq_of_decodeWithTelemetry (decodeWithTelemetry_header _ _)⟩
  · intro hcode huri hscheme
    have hread := decodeWithTelemetry_encodeWith hlimits hcode huri hscheme h
    exact ⟨decode_eq_of_decodeWithTelemetry hread, hread⟩
  · intro hcode hproxy
    obtain ⟨uri, huri⟩ := Option.ne_none_iff_exists'.mp hproxy
    exact decode_eq_error_of_decodeWithTelemetry
      (decodeWithTelemetry_of_encode_proxyUri hlimits.token hcode huri h)
  · intro hcode huri hproxy
    obtain ⟨scheme, hscheme⟩ := Option.ne_none_iff_exists'.mp hproxy
    exact decode_eq_error_of_decodeWithTelemetry
      (decodeWithTelemetry_of_encode_proxyScheme hlimits.token hcode huri hscheme h)

theorem decode_encode_request :
    let message : Message :=
      { kind := .confirmable, code := .get, messageId := 7, uriPath := some "a/b", payload := [1, 2] }
    message.Reachable ∧
      message.encode = .ok [64, 1, 0, 7, 177, 97, 1, 98, 255, 1, 2] ∧
        decode [64, 1, 0, 7, 177, 97, 1, 98, 255, 1, 2] = .ok message := by
  intro message
  have hreachable : message.Reachable :=
    .set (.payload [1, 2]) (.set (.uriPath "/a/b") (.bare .confirmable .get 7))
  have hencode : message.encode = .ok [64, 1, 0, 7, 177, 97, 1, 98, 255, 1, 2] := by
    decide +kernel
  exact ⟨hreachable, hencode, ((decode_encode hreachable hencode).2.1 rfl rfl rfl).1⟩

end Message

end MeshTelemetry
