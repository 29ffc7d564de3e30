import VirtualNet.Bytes
import VirtualNet.IoError

/-!
# Messages of the guessing game

A message is five octets: a tag that tells guesses from responses, and a signed 32-bit number,
most significant octet first. `Message.decode` inverts `Message.encode` and refuses unknown tags.
-/

namespace VirtualNet

/-- What a message is. -/
inductive MessageKind where
  | guess
  | response
  deriving DecidableEq, Repr

namespace MessageKind

/-- The tag that travels in front of a message. -/
def tag : MessageKind → UInt8
  | .guess => 0
  | .response => 1

/-- The name of a kind. -/
def name : MessageKind → String
  | .guess => "Guess"
  | .response => "Response"

end MessageKind

/-- Why a message was not exchanged. -/
inductive FramingError where
  | transport (error : IoError)
  /-- The transport took no more octets of a message. -/
  | incompleteWrite (written expected : Nat)
  /-- The peer closed the stream when `received` octets of a message had arrived. -/
  | connectionClosed (received : Nat)
  | unknownKind (tag : UInt8)
  | unexpectedKind (expected found : MessageKind)
  deriving DecidableEq, Repr

namespace FramingError

/-- What is said of a message that was not exchanged. -/
def message : FramingError → String
  | .transport error => s!"Transport error: {error.text}"
  | .incompleteWrite written expected =>
    s!"Incomplete write: {written} of {expected} bytes accepted"
  | .connectionClosed received => s!"Connection closed after {received} bytes of a message"
  | .unknownKind tag => s!"Unknown message type: {tag}"
  | .unexpectedKind expected found => s!"Expected {expected.name} message, got {found.name}"

/-- Whether the failure is an ordinary end of a session and not a fault. -/
def isConnectionClosed : FramingError → Bool
  | .connectionClosed _ => true
  | _ => false

end FramingError

/-- A message of the guessing game. -/
structure Message where
  kind : MessageKind
  number : Int32
  deriving DecidableEq, Repr

namespace Message

/-- The length of a message as it travels. -/
def wireLength : Nat := 5

/-- The octets of a message. -/
def encode (message : Message) : Bytes :=
  message.kind.tag :: Bytes.ofWord32 message.number.toUInt32

@[simp]
theorem length_encode (message : Message) : message.encode.length = wireLength := rfl

/-- The message that the first five octets of a string hold. -/
def decode : Bytes → Except FramingError Message
  | tag :: first :: second :: third :: fourth :: _ =>
    let number := (Bytes.word32 first second third fourth).toInt32
    if tag = 0 then .ok ⟨.guess, number⟩
    else if tag = 1 then .ok ⟨.response, number⟩
    else .error (.unknownKind tag)
  | bytes => .error (.connectionClosed bytes.length)

/-- The message itself if it has the expected kind. -/
def expect (message : Message) (expected : MessageKind) : Except FramingError Message :=
  if message.kind = expected then .ok message
  else .error (.unexpectedKind expected message.kind)

end Message

end VirtualNet
