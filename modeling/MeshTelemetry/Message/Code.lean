/-!
# Message codes

One byte holds a method or a response status: three bits of class and five of detail, written
`class.detail`. Class 0 holds the empty code 0.00 and the request methods, and the classes from 2 on
hold the responses.
-/

namespace MeshTelemetry

structure Code where
  byte : UInt8
  deriving DecidableEq, Repr

namespace Code

/-- The three high bits, the number before the point. -/
def major (code : Code) : Nat := code.byte.toNat / 32

/-- The five low bits, the number after the point. -/
def detail (code : Code) : Nat := code.byte.toNat % 32

def ofParts (major detail : Nat) : Code := ⟨UInt8.ofNat (major * 32 + detail % 32)⟩

def empty : Code := ⟨0⟩
def get : Code := ⟨1⟩
def post : Code := ⟨2⟩
def put : Code := ⟨3⟩
def delete : Code := ⟨4⟩

def created : Code := ofParts 2 1
def deleted : Code := ofParts 2 2
def valid : Code := ofParts 2 3
def changed : Code := ofParts 2 4
def content : Code := ofParts 2 5
def continued : Code := ofParts 2 31

def badRequest : Code := ofParts 4 0
def unauthorized : Code := ofParts 4 1
def badOption : Code := ofParts 4 2
def forbidden : Code := ofParts 4 3
def notFound : Code := ofParts 4 4
def methodNotAllowed : Code := ofParts 4 5
def notAcceptable : Code := ofParts 4 6
def requestEntityIncomplete : Code := ofParts 4 8
def preconditionFailed : Code := ofParts 4 12
def requestEntityTooLarge : Code := ofParts 4 13
def unsupportedContentFormat : Code := ofParts 4 15

def internalServerError : Code := ofParts 5 0
def notImplemented : Code := ofParts 5 1
def badGateway : Code := ofParts 5 2
def serviceUnavailable : Code := ofParts 5 3
def gatewayTimeout : Code := ofParts 5 4
def proxyingNotSupported : Code := ofParts 5 5

/-- The codes that have a name, by class and detail. -/
def named : List Code :=
  [empty, get, post, put, delete,
    created, deleted, valid, changed, content, continued,
    badRequest, unauthorized, badOption, forbidden, notFound, methodNotAllowed, notAcceptable,
    requestEntityIncomplete, preconditionFailed, requestEntityTooLarge, unsupportedContentFormat,
    internalServerError, notImplemented, badGateway, serviceUnavailable, gatewayTimeout,
    proxyingNotSupported]

def isEmpty (code : Code) : Bool := code = empty

def isRequest (code : Code) : Bool := code.major = 0 && !code.isEmpty

def isResponse (code : Code) : Bool := 2 ≤ code.major

def twoDigits (n : Nat) : String := if n < 10 then s!"0{n}" else s!"{n}"

/-- A method by its name, any other code as `class.detail` with two digits of detail. -/
def label (code : Code) : String :=
  if code = get then "GET"
  else if code = post then "POST"
  else if code = put then "PUT"
  else if code = delete then "DELETE"
  else s!"{code.major}." ++ twoDigits code.detail

end Code

end MeshTelemetry
