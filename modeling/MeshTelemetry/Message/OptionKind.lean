/-!
# The options a message can hold

Every known option has a number, which fixes its place in the ascending order on the wire, and a
name. An odd number marks an option that a receiver must understand.
-/

namespace MeshTelemetry

inductive OptionKind where
  | ifMatch
  | uriHost
  | etag
  | ifNoneMatch
  | observe
  | uriPort
  | locationPath
  | uriPath
  | contentFormat
  | maxAge
  | uriQuery
  | accept
  | locationQuery
  | block2
  | block1
  | size2
  | proxyUri
  | proxyScheme
  | size1
  deriving DecidableEq, Repr

namespace OptionKind

/-- The known options in ascending order of their numbers. -/
def all : List OptionKind :=
  [ifMatch, uriHost, etag, ifNoneMatch, observe, uriPort, locationPath, uriPath, contentFormat,
    maxAge, uriQuery, accept, locationQuery, block2, block1, size2, proxyUri, proxyScheme, size1]

def number : OptionKind → Nat
  | ifMatch => 1
  | uriHost => 3
  | etag => 4
  | ifNoneMatch => 5
  | observe => 6
  | uriPort => 7
  | locationPath => 8
  | uriPath => 11
  | contentFormat => 12
  | maxAge => 14
  | uriQuery => 15
  | accept => 17
  | locationQuery => 20
  | block2 => 23
  | block1 => 27
  | size2 => 28
  | proxyUri => 35
  | proxyScheme => 39
  | size1 => 60

def name : OptionKind → String
  | ifMatch => "If-Match"
  | uriHost => "Uri-Host"
  | etag => "ETag"
  | ifNoneMatch => "If-None-Match"
  | observe => "Observe"
  | uriPort => "Uri-Port"
  | locationPath => "Location-Path"
  | uriPath => "Uri-Path"
  | contentFormat => "Content-Format"
  | maxAge => "Max-Age"
  | uriQuery => "Uri-Query"
  | accept => "Accept"
  | locationQuery => "Location-Query"
  | block2 => "Block2"
  | block1 => "Block1"
  | size2 => "Size2"
  | proxyUri => "Proxy-Uri"
  | proxyScheme => "Proxy-Scheme"
  | size1 => "Size1"

def ofNumber? (number : Nat) : Option OptionKind :=
  all.find? fun kind => kind.number == number

theorem mem_all (kind : OptionKind) : kind ∈ all := by
  cases kind <;> decide

theorem ofNumber?_number (kind : OptionKind) : ofNumber? kind.number = some kind := by
  cases kind <;> rfl

theorem number_of_ofNumber? {n : Nat} {kind : OptionKind} (h : ofNumber? n = some kind) :
    kind.number = n := by
  simpa using List.find?_some h

end OptionKind

def optionName (number : Nat) : String :=
  match OptionKind.ofNumber? number with
  | some kind => kind.name
  | none => "unknown"

/-- An option number as it is shown: the name, and the number in brackets. -/
def optionLabel (number : Nat) : String := s!"{optionName number} ({number})"

/-- A receiver that does not know an option of odd number must refuse the message. -/
def isCritical (number : Nat) : Bool := number % 2 = 1

end MeshTelemetry
