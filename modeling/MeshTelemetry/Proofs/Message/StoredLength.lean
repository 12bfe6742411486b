import MeshTelemetry.Message.Encoding
import MeshTelemetry.Proofs.Message.Reachable
import MeshTelemetry.Proofs.Text

/-!
# What a setter says it stored

Setters of tags and texts cut or trim what they are given, so they return how many bytes they stored,
and a caller who reads the field back finds as many. A setter writes its own field and leaves every
other one as it was; a location may bring its query along. The one call whose answer is wrong is that
of a location without a path: it says that nothing is stored, while the path from before stays.
-/

namespace MeshTelemetry

namespace Message

/-- A setter that reports how much it stored, and its argument. -/
inductive StoringSetter where
  | token (token : Bytes)
  | payload (payload : Bytes)
  | ifMatch (tag : Bytes)
  | etag (tag : Bytes)
  | uriHost (host : String)
  | uriPath (path : String)
  | uriQuery (query : String)
  | locationPath (path : String)
  | locationQuery (query : String)
  | proxyUri (uri : String)
  | proxyScheme (scheme : String)

/-- The path in the argument of a location. -/
def locationPart (path : String) : String :=
  Text.dropLeading '/' ((Text.cutFirst? '?' path).elim path Prod.fst)

/-- The query in the argument of a location. -/
def locationQueryPart? (path : String) : Option String :=
  (Text.cutFirst? '?' path).map fun (_, query) => Text.dropLeading '?' query

namespace StoringSetter

/-- The number that the call returns, and the message behind it. -/
def call (message : Message) : StoringSetter → Nat × Message
  | .token bytes => message.setToken bytes
  | .payload bytes => message.setPayload bytes
  | .ifMatch tag => message.setIfMatch tag
  | .etag tag => message.setEtag tag
  | .uriHost host => message.setUriHost host
  | .uriPath path => message.setUriPath path
  | .uriQuery query => message.setUriQuery query
  | .locationPath path => message.setLocationPath path
  | .locationQuery query => message.setLocationQuery query
  | .proxyUri uri => message.setProxyUri uri
  | .proxyScheme scheme => message.setProxyScheme scheme

/-- The field that the setter is for, read back. -/
def field? (message : Message) : StoringSetter → Option Bytes
  | .token _ => some message.token
  | .payload _ => some message.payload
  | .ifMatch _ => message.ifMatch
  | .etag _ => message.etag
  | .uriHost _ => message.uriHost.map Text.utf8
  | .uriPath _ => message.uriPath.map Text.utf8
  | .uriQuery _ => message.uriQuery.map Text.utf8
  | .locationPath _ => message.locationPath.map Text.utf8
  | .locationQuery _ => message.locationQuery.map Text.utf8
  | .proxyUri _ => message.proxyUri.map Text.utf8
  | .proxyScheme _ => message.proxyScheme.map Text.utf8

/-- The length of the field, which is zero if it is absent. -/
def fieldLength (setter : StoringSetter) (message : Message) : Nat :=
  (setter.field? message).elim 0 List.length

/-- All other fields: the message with this one cleared. -/
def others (message : Message) : StoringSetter → Message
  | .token _ => { message with token := [] }
  | .payload _ => { message with payload := [] }
  | .ifMatch _ => { message with ifMatch := none }
  | .etag _ => { message with etag := none }
  | .uriHost _ => { message with uriHost := none }
  | .uriPath _ => { message with uriPath := none }
  | .uriQuery _ => { message with uriQuery := none }
  | .locationPath _ => { message with locationPath := none }
  | .locationQuery _ => { message with locationQuery := none }
  | .proxyUri _ => { message with proxyUri := none }
  | .proxyScheme _ => { message with proxyScheme := none }

/-- The query that the call stores beside its own field. -/
def queryBeside? : StoringSetter → Option String
  | .locationPath path => locationQueryPart? path
  | _ => none

/-- The call of a location without a path, on a message that has one. -/
def LeavesOldPath (setter : StoringSetter) (message : Message) : Prop :=
  ∃ path old, setter = locationPath path ∧ locationPart path = "" ∧
    message.locationPath = some old ∧ old ≠ ""

end StoringSetter

theorem setLocationPath_eq_parts (message : Message) (path : String) :
    message.setLocationPath path = ((locationPart path).utf8ByteSize,
      { message with
        locationPath := if locationPart path = "" then message.locationPath
          else some (locationPart path)
        locationQuery := (locationQueryPart? path).or message.locationQuery }) := by
  have hstored : ∀ (stored : String) (queried : Message),
      (if stored.isEmpty then (0, queried)
        else (stored.utf8ByteSize, { queried with locationPath := some stored }))
      = (stored.utf8ByteSize, { queried with
          locationPath := if stored = "" then queried.locationPath else some stored }) := by
    intro stored queried
    by_cases hempty : stored = ""
    · subst hempty
      rfl
    · rw [if_neg (by simpa using hempty), if_neg hempty]
  have htrimmed : Text.cutFirst? '?' (Text.dropLeading '/' path)
      = (Text.cutFirst? '?' path).map (Prod.map (Text.dropLeading '/') id) :=
    Text.cutFirst?_dropLeading (by decide) path
  cases hcut : Text.cutFirst? '?' path with
  | none =>
    rw [hcut] at htrimmed
    simp only [setLocationPath, htrimmed, Option.map_none, locationPart, locationQueryPart?, hcut]
    exact hstored (Text.dropLeading '/' path) message
  | some cut =>
    rw [hcut] at htrimmed
    simp only [setLocationPath, htrimmed, Option.map_some, locationPart, locationQueryPart?, hcut]
    exact hstored (Text.dropLeading '/' cut.1) (message.setLocationQuery cut.2).2

namespace StoringSetter

variable {message : Message}

/-- The path that a location leaves is the one it stores, or else the old one. -/
theorem fieldLength_locationPath (path : String) :
    (locationPath path).fieldLength (message.setLocationPath path).2
      = if locationPart path = "" then (message.locationPath.map String.utf8ByteSize).getD 0
        else (locationPart path).utf8ByteSize := by
  rw [setLocationPath_eq_parts]
  simp only [fieldLength, field?]
  split
  · cases message.locationPath with
    | none => rfl
    | some old => exact Text.length_utf8 old
  · rw [Option.map_some, Option.elim_some, Text.length_utf8]

theorem leavesOldPath_locationPath_iff {path : String} :
    (locationPath path).LeavesOldPath message
      ↔ locationPart path = "" ∧ (message.locationPath.map String.utf8ByteSize).getD 0 ≠ 0 := by
  constructor
  · rintro ⟨_, old, heq, hpart, hold, hne⟩
    cases heq
    refine ⟨hpart, ?_⟩
    rw [hold]
    simpa using hne
  · rintro ⟨hpart, hlength⟩
    cases hold : message.locationPath with
    | none =>
      rw [hold] at hlength
      exact absurd rfl hlength
    | some old =>
      refine ⟨path, old, rfl, hpart, hold, ?_⟩
      rintro rfl
      rw [hold] at hlength
      exact hlength rfl

end StoringSetter

/-- **Setters report what they stored.** Every other field stays as it was, except for the query that
a location brings. The number returned is the length of the field, unless a location without a path
leaves an old one: then it is zero. -/
theorem storedLength_iff (message : Message) (setter : StoringSetter) :
    setter.others (setter.call message).2
      = setter.others
          { message with locationQuery := setter.queryBeside?.or message.locationQuery } ∧
    ((setter.call message).1 = setter.fieldLength (setter.call message).2
      ↔ ¬ setter.LeavesOldPath message) ∧
    (setter.LeavesOldPath message → (setter.call message).1 = 0 ∧
      (setter.call message).2.locationPath = message.locationPath) := by
  cases setter
  case locationPath path =>
    rw [StoringSetter.call, StoringSetter.fieldLength_locationPath,
      StoringSetter.leavesOldPath_locationPath_iff, setLocationPath_eq_parts]
    refine ⟨?_, ?_, ?_⟩
    · simp only [StoringSetter.others, StoringSetter.queryBeside?]
    · by_cases hpart : locationPart path = ""
      · simp [hpart, eq_comm]
      · simp [hpart]
    · rintro ⟨hpart, _⟩
      rw [hpart]
      exact ⟨rfl, rfl⟩
  all_goals
    refine ⟨rfl, iff_of_true rfl ?_, ?_⟩
    all_goals
      rintro ⟨_, _, heq, _⟩
      cases heq

/-- A location that is nothing but a query stores this one, and leaves the path `a`. -/
theorem storedLength_iff_bareQuery :
    let held : Message :=
      { kind := .acknowledgement, code := .created, messageId := 1, locationPath := some "a" }
    let setter := StoringSetter.locationPath "/?b"
    setter.LeavesOldPath held ∧ (setter.call held).1 = 0 ∧
      (setter.call held).1 ≠ setter.fieldLength (setter.call held).2 ∧
        (setter.call held).2 = { held with locationQuery := some "b" } := by
  intro held setter
  have hleaves : setter.LeavesOldPath held :=
    ⟨"/?b", "a", rfl, by decide +kernel, rfl, by decide⟩
  obtain ⟨_, hlength, hzero⟩ := storedLength_iff held setter
  exact ⟨hleaves, (hzero hleaves).1, fun heq => hlength.mp heq hleaves, by decide +kernel⟩

/-- A response that has the path `a` is given a slash: nothing is stored, it says, but the old path is
there as before and goes out. -/
theorem setLocationPath_keeps_old_path :
    let held : Message :=
      { kind := .acknowledgement, code := .created, messageId := 1, locationPath := some "a" }
    let setter := StoringSetter.locationPath "/"
    held.Reachable ∧ (setter.call held).1 = 0 ∧ setter.fieldLength (setter.call held).2 = 1 ∧
      (setter.call held).2.encode = .ok [0x60, 0x41, 0, 1, 0x81, 0x61] := by
  intro held setter
  let bare : Message := { kind := .acknowledgement, code := .created, messageId := 1 }
  have hheld : bare.set (.locationPath "a") = held := by decide +kernel
  have hreachable : held.Reachable :=
    hheld ▸ .set (.locationPath "a") (.bare .acknowledgement .created 1)
  exact ⟨hreachable, by decide +kernel, by decide +kernel, by decide +kernel⟩

end Message

end MeshTelemetry
