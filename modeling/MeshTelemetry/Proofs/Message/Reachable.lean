import MeshTelemetry.Proofs.Message.Grammar

/-!
# Messages that a program can hold

A message starts out bare or comes from the wire, and after that only setters touch it. Both ways in
and every setter keep token, tags and payload within their limits, so a program never holds a message
whose header or chunk could not be written for one of these.
-/

namespace MeshTelemetry

namespace Message

/-- A setter and its argument. -/
inductive Setter where
  | kind (kind : MessageKind)
  | code (code : Code)
  | messageId (id : UInt16)
  | token (token : Bytes)
  | payload (payload : Bytes)
  | contentFormat (format : UInt16)
  | accept (format : UInt16)
  | maxAge (age : UInt32)
  | etag (tag : Bytes)
  | etagOf (representation : Bytes)
  | ifMatch (tag : Bytes)
  | ifNoneMatch
  | proxyUri (uri : String)
  | proxyScheme (scheme : String)
  | uriHost (host : String)
  | uriPort (port : UInt16)
  | uriPath (path : String)
  | uriQuery (query : String)
  | locationPath (path : String)
  | locationQuery (query : String)
  | observe (value : UInt32)
  | block1 (number : Nat) (more : Bool) (size : Nat)
  | block2 (number : Nat) (more : Bool) (size : Nat)
  | size1 (size : UInt32)
  | size2 (size : UInt32)

/-- The message after the setter was called; a refused block leaves it as it was. -/
def set (message : Message) : Setter → Message
  | .kind kind => { message with kind := kind }
  | .code code => { message with code := code }
  | .messageId id => { message with messageId := id }
  | .token token => (message.setToken token).2
  | .payload payload => (message.setPayload payload).2
  | .contentFormat format => { message with contentFormat := some format }
  | .accept format => { message with accept := some format }
  | .maxAge age => { message with maxAge := some age }
  | .etag tag => (message.setEtag tag).2
  | .etagOf representation => message.setEtagOf representation
  | .ifMatch tag => (message.setIfMatch tag).2
  | .ifNoneMatch => { message with ifNoneMatch := true }
  | .proxyUri uri => (message.setProxyUri uri).2
  | .proxyScheme scheme => (message.setProxyScheme scheme).2
  | .uriHost host => (message.setUriHost host).2
  | .uriPort port => { message with uriPort := some port }
  | .uriPath path => (message.setUriPath path).2
  | .uriQuery query => (message.setUriQuery query).2
  | .locationPath path => (message.setLocationPath path).2
  | .locationQuery query => (message.setLocationQuery query).2
  | .observe value => { message with observe := some value }
  | .block1 number more size => (message.setBlock1 number more size).toOption.getD message
  | .block2 number more size => (message.setBlock2 number more size).toOption.getD message
  | .size1 size => { message with size1 := some size }
  | .size2 size => { message with size2 := some size }

/-- The messages that a program can hold: bare ones, those it has read, and what setters make of
them. -/
inductive Reachable : Message → Prop where
  | bare (kind : MessageKind) (code : Code) (messageId : UInt16) :
      Reachable { kind := kind, code := code, messageId := messageId }
  | decoded {bytes : Bytes} {message : Message} {telemetry : Option Bytes} :
      decodeWithTelemetry bytes = .ok (message, telemetry) → Reachable message
  | set {message : Message} (setter : Setter) : Reachable message → Reachable (message.set setter)

/-- Token, tags and payload are no longer than their limits. -/
structure WithinLimits (message : Message) : Prop where
  token : message.token.length ≤ maxTokenLength
  ifMatch : ∀ tag ∈ message.ifMatch, tag.length ≤ maxTagLength
  etag : ∀ tag ∈ message.etag, tag.length ≤ maxTagLength
  payload : message.payload.length ≤ maxPayloadLength

theorem length_le_of_mem_map_take {bytes : Option Bytes} {limit : Nat} {tag : Bytes}
    (hmem : tag ∈ bytes.map (·.take limit)) : tag.length ≤ limit := by
  obtain ⟨stored, _, rfl⟩ := Option.map_eq_some_iff.mp hmem
  exact List.length_take_le limit stored

/-- What is read is cut to the limits. -/
theorem withinLimits_of_decodeWithTelemetry {bytes : Bytes} {message : Message}
    {telemetry : Option Bytes} (h : decodeWithTelemetry bytes = .ok (message, telemetry)) :
    message.WithinLimits := by
  obtain ⟨parts, ⟨_, htoken, _, _, _⟩, _, rfl, _⟩ := exists_form_of_decodeWithTelemetry h
  exact
    { token := htoken
      ifMatch := fun _ hmem => length_le_of_mem_map_take hmem
      etag := fun _ hmem => length_le_of_mem_map_take hmem
      payload := List.length_take_le _ _ }

/-- A location path touches the two location fields only. -/
theorem setLocationPath_eq (message : Message) (path : String) :
    ∃ location query, (message.setLocationPath path).2
      = { message with locationPath := location, locationQuery := query } := by
  simp only [setLocationPath]
  cases Text.cutFirst? '?' (Text.dropLeading '/' path) with
  | none =>
    dsimp only
    split
    · exact ⟨message.locationPath, message.locationQuery, rfl⟩
    · exact ⟨some (Text.dropLeading '/' path), message.locationQuery, rfl⟩
  | some cut =>
    obtain ⟨before, query⟩ := cut
    dsimp only
    split
    · exact ⟨message.locationPath, some (Text.dropLeading '?' query), rfl⟩
    · exact ⟨some before, some (Text.dropLeading '?' query), rfl⟩

/-- A refused block leaves the one that was there. -/
theorem toOption_setBlock1_eq (message : Message) (number : Nat) (more : Bool) (size : Nat) :
    (message.setBlock1 number more size).toOption.getD message
      = { message with
          block1 := (Block.ofParts number more size).toOption.or message.block1 } := by
  unfold setBlock1
  cases Block.ofParts number more size with
  | error err => rfl
  | ok block => rfl

theorem toOption_setBlock2_eq (message : Message) (number : Nat) (more : Bool) (size : Nat) :
    (message.setBlock2 number more size).toOption.getD message
      = { message with
          block2 := (Block.ofParts number more size).toOption.or message.block2 } := by
  unfold setBlock2
  cases Block.ofParts number more size with
  | error err => rfl
  | ok block => rfl

namespace WithinLimits

theorem set {message : Message} (h : message.WithinLimits) (setter : Setter) :
    (message.set setter).WithinLimits := by
  cases setter
  case token token => exact { h with token := List.length_take_le _ _ }
  case payload payload => exact { h with payload := List.length_take_le _ _ }
  case etag tag =>
    refine { h with etag := ?_ }
    rintro _ ⟨rfl⟩
    exact List.length_take_le _ _
  case etagOf representation =>
    refine { h with etag := ?_ }
    rintro _ ⟨rfl⟩
    exact Nat.le_of_eq (bytesBE_length _ _)
  case ifMatch tag =>
    refine { h with ifMatch := ?_ }
    rintro _ ⟨rfl⟩
    exact List.length_take_le _ _
  case locationPath path =>
    obtain ⟨location, query, heq⟩ := message.setLocationPath_eq path
    rw [Message.set, heq]
    exact { h with }
  case block1 number more size =>
    rw [Message.set, toOption_setBlock1_eq]
    exact { h with }
  case block2 number more size =>
    rw [Message.set, toOption_setBlock2_eq]
    exact { h with }
  all_goals exact { h with }

end WithinLimits

/-- Every message that a program can hold is within the limits. -/
theorem Reachable.withinLimits {message : Message} (h : message.Reachable) :
    message.WithinLimits := by
  induction h with
  | bare =>
    exact
      { token := Nat.zero_le _
        ifMatch := fun _ hmem => nomatch hmem
        etag := fun _ hmem => nomatch hmem
        payload := Nat.zero_le _ }
  | decoded hread => exact withinLimits_of_decodeWithTelemetry hread
  | set setter _ ih => exact ih.set setter

end Message

end MeshTelemetry
