import VirtualNet.Proofs.Framing.Accounting
import VirtualNet.Proofs.Framing.Stream

/-!
# Messages sent one after another are received one after another

Where every call of a sender succeeds, the octets on the transport are the messages and nothing
else, however they were accepted. Where these octets are delivered, in whatever pieces, the calls
of a receiver return the messages in order, each call taking the octets of its message and no
more. A call waits for a transport that is not ready or is polled again: both sides may do either.
-/

namespace VirtualNet

/-- What a call does while the transport is not ready. -/
inductive Waiting where
  | blocking
  | polled

namespace Framing

/-- Flushes once, or polls a flush until it is decided. -/
def flushBy (waiting : Waiting) (flushes : List Flush) : Except FramingError Unit × List Flush :=
  match waiting with
  | .blocking => flush flushes
  | .polled => awaitFlush flushes

end Framing

namespace Transport

open Framing

/-- Sends one message. -/
def sendBy (waiting : Waiting) (transport : Transport) (message : Message) :
    Except FramingError Unit × Transport :=
  match waiting with
  | .blocking => transport.send message
  | .polled => transport.sendPolled message

/-- Receives one message. -/
def receiveBy (waiting : Waiting) (transport : Transport) :
    Except FramingError Message × Transport :=
  match waiting with
  | .blocking => transport.receive
  | .polled => transport.receivePolled

/-- Sends messages one after another; the result of every call comes with the transport at last. -/
def sendAll (waiting : Waiting) (transport : Transport) :
    List Message → List (Except FramingError Unit) × Transport
  | [] => ([], transport)
  | message :: rest =>
    let (result, transport) := transport.sendBy waiting message
    let (results, transport) := transport.sendAll waiting rest
    (result :: results, transport)

/-- Receives by so many calls, one after another. -/
def receiveAll (waiting : Waiting) (transport : Transport) :
    Nat → List (Except FramingError Message) × Transport
  | 0 => ([], transport)
  | count + 1 =>
    let (result, transport) := transport.receiveBy waiting
    let (results, transport) := transport.receiveAll waiting count
    (result :: results, transport)

theorem receiveBy_eq_receivePolled (waiting : Waiting) (transport : Transport) :
    transport.receiveBy waiting = transport.receivePolled := by
  cases waiting with
  | blocking => exact transport.receivePolled_eq_receive.symm
  | polled => rfl

theorem sendBy_eq (waiting : Waiting) (transport : Transport) (message : Message) :
    transport.sendBy waiting message =
      match write [] message.encode transport.writes with
      | (.error error, sent, writes) =>
        (.error error, { transport with writes := writes, written := transport.written ++ sent })
      | (.ok (), sent, writes) =>
        ((flushBy waiting transport.flushes).1,
          { transport with
            writes := writes
            flushes := (flushBy waiting transport.flushes).2
            written := transport.written ++ sent }) := by
  rcases wrote : write [] message.encode transport.writes with ⟨stopped | _, sent, writes⟩
  · cases waiting with
    | blocking => simp [sendBy, send, wrote]
    | polled => simp [sendBy, sendPolled, awaitWrite_eq_write, wrote]
  · cases waiting with
    | blocking => simp [sendBy, send, wrote, flushBy]
    | polled => simp [sendBy, sendPolled, awaitWrite_eq_write, wrote, flushBy]

/-- A call that succeeds has written the whole message. -/
theorem written_sendBy {waiting : Waiting} {transport : Transport} {message : Message}
    (sent : (transport.sendBy waiting message).1 = .ok ()) :
    (transport.sendBy waiting message).2.written = transport.written ++ message.encode := by
  have nonempty : message.encode ≠ [] := List.cons_ne_nil _ _
  have emission := @emission_write [] message.encode transport.writes nonempty
  rw [sendBy_eq] at sent ⊢
  rcases wrote : write [] message.encode transport.writes with ⟨result, accepted, writes⟩
  rw [List.nil_append, wrote] at emission
  rw [wrote] at sent
  cases result with
  | error error => cases sent
  | ok value =>
      cases emission with
      | complete => rfl

theorem written_sendAll {waiting : Waiting} {transport : Transport} {messages : List Message}
    (sent : ∀ result ∈ (transport.sendAll waiting messages).1, result = .ok ()) :
    (transport.sendAll waiting messages).2.written =
      transport.written ++ messages.flatMap Message.encode := by
  induction messages generalizing transport with
  | nil => simp [sendAll]
  | cons message rest ih =>
      simp only [sendAll] at sent ⊢
      rcases List.forall_mem_cons.mp sent with ⟨first, later⟩
      rw [ih later, written_sendBy first, List.flatMap_cons, List.append_assoc]

/-- A call on a stream returns the message that the stream begins with and leaves the rest. -/
theorem receiveBy_of_delivers {transport : Transport} {message : Message} {stream : Bytes}
    (waiting : Waiting) (delivers : Delivers (message.encode ++ stream) transport.reads) :
    (transport.receiveBy waiting).1 = .ok message ∧
      Delivers stream (transport.receiveBy waiting).2.reads ∧
      transport.unread = message.encode ++ (transport.receiveBy waiting).2.unread := by
  have room : ([] : Bytes).length < 5 := by decide
  rcases read_of_delivers room delivers with ⟨decoded, delivered⟩
  rcases transport.reception_receivePolled with ⟨taken, consumed, reception⟩
  have received : transport.receivePolled.1 = .ok message := by
    rw [receivePolled, awaitRead_eq_read]
    simpa only [List.nil_append, Message.decode_encode_append] using decoded
  rw [receiveBy_eq_receivePolled]
  refine ⟨received, ?_, ?_⟩
  · rw [receivePolled, awaitRead_eq_read]
    apply delivered
    simp [Message.wireLength]
  · rw [received] at reception
    rw [← reception.eq_encode]
    exact consumed

/-- A call at the end of a stream finds that the peer has left. -/
theorem receiveBy_of_ended {transport : Transport} (waiting : Waiting)
    (delivers : Delivers [] transport.reads) :
    (transport.receiveBy waiting).1 = .error (.connectionClosed 0) := by
  have room : ([] : Bytes).length < 5 := by decide
  rw [receiveBy_eq_receivePolled, receivePolled, awaitRead_eq_read]
  exact (read_of_delivers room delivers).1

theorem results_receiveAll {transport : Transport} {messages : List Message} (waiting : Waiting)
    (delivers : Delivers (messages.flatMap Message.encode) transport.reads) :
    (transport.receiveAll waiting (messages.length + 1)).1 =
      messages.map .ok ++ [.error (.connectionClosed 0)] := by
  induction messages generalizing transport with
  | nil => simp only [receiveAll, receiveBy_of_ended waiting delivers, List.length_nil,
      List.map_nil, List.nil_append]
  | cons message rest ih =>
      rw [List.flatMap_cons] at delivers
      rcases receiveBy_of_delivers waiting delivers with ⟨received, deliversRest, -⟩
      rw [List.length_cons, receiveAll]
      simp only [received, ih deliversRest, List.map_cons, List.cons_append]

theorem taken_receiveAll {transport : Transport} {messages : List Message} (waiting : Waiting)
    (delivers : Delivers (messages.flatMap Message.encode) transport.reads) {count : Nat}
    (enough : count ≤ messages.length) :
    ∃ taken : Bytes, taken.length = 5 * count ∧
      transport.unread = taken ++ (transport.receiveAll waiting count).2.unread := by
  induction count generalizing transport messages with
  | zero => exact ⟨[], rfl, rfl⟩
  | succ count ih =>
      cases messages with
      | nil => exact absurd enough (Nat.not_succ_le_zero count)
      | cons message rest =>
          rw [List.flatMap_cons] at delivers
          rcases receiveBy_of_delivers waiting delivers with ⟨-, deliversRest, consumed⟩
          rcases ih deliversRest (Nat.le_of_succ_le_succ enough) with ⟨taken, five, later⟩
          refine ⟨message.encode ++ taken, ?_, ?_⟩
          · rw [List.length_append, Message.length_encode, Message.wireLength, five]
            omega
          · rw [receiveAll, consumed, later, List.append_assoc]

/--
If every call succeeds, the messages have been written one after another and nothing else has. From
any pieces that they arrive in, calls of a receiver return these messages in order, each taking five
octets, and one more call finds that the peer has left.
-/
theorem receives_all_sent (writing reading : Waiting) {sender : Transport}
    {messages : List Message}
    (sent : ∀ result ∈ (sender.sendAll writing messages).1, result = .ok ()) :
    (sender.sendAll writing messages).2.written =
        sender.written ++ messages.flatMap Message.encode ∧
      ∀ receiver : Transport, Delivers (messages.flatMap Message.encode) receiver.reads →
        (receiver.receiveAll reading (messages.length + 1)).1 =
            messages.map .ok ++ [.error (.connectionClosed 0)] ∧
          ∀ count ≤ messages.length, ∃ taken : Bytes, taken.length = 5 * count ∧
            receiver.unread = taken ++ (receiver.receiveAll reading count).2.unread := by
  constructor
  · exact written_sendAll sent
  · intro receiver delivers
    constructor
    · exact results_receiveAll reading delivers
    · intro count enough
      exact taken_receiveAll reading delivers enough

/-- The extreme numbers, written in four calls and read in three pieces across their border. -/
theorem receives_extremes_sent :
    (∀ result ∈ ((⟨[], [.upTo 2, .failure ⟨.interrupted, "Interrupted"⟩, .upTo 9, .upTo 4, .whole],
        [], []⟩ : Transport).sendAll .blocking
          [⟨.guess, -2147483648⟩, ⟨.response, 2147483647⟩]).1, result = .ok ()) ∧
      Delivers [0, 128, 0, 0, 0, 1, 127, 255, 255, 255]
        [.bytes [0, 128, 0], .failure ⟨.interrupted, "Interrupted"⟩, .bytes [0, 0, 1, 127],
          .notReady, .bytes [255, 255, 255]] ∧
      ((Transport.ofReads [.bytes [0, 128, 0], .failure ⟨.interrupted, "Interrupted"⟩,
          .bytes [0, 0, 1, 127], .notReady, .bytes [255, 255, 255]]).receiveAll .polled 3).1 =
        [.ok ⟨.guess, -2147483648⟩, .ok ⟨.response, 2147483647⟩,
          .error (.connectionClosed 0)] := by
  have sent : ∀ result ∈ ((⟨[], [.upTo 2, .failure ⟨.interrupted, "Interrupted"⟩, .upTo 9,
      .upTo 4, .whole], [], []⟩ : Transport).sendAll .blocking
        [⟨.guess, -2147483648⟩, ⟨.response, 2147483647⟩]).1, result = .ok () := by
    simp [sendAll, sendBy, send, write, flush, Message.encode, Bytes.ofWord32]
  have delivers : Delivers ([0, 128, 0] ++ ([0, 0, 1, 127] ++ ([255, 255, 255] ++ [])))
      [.bytes [0, 128, 0], .failure ⟨.interrupted, "Interrupted"⟩, .bytes [0, 0, 1, 127],
        .notReady, .bytes [255, 255, 255]] :=
    .piece (by decide) (.interrupted rfl (.piece (by decide)
      (.notReady (.piece (by decide) .nothing))))
  rcases receives_all_sent .blocking .polled sent with ⟨-, received⟩
  exact ⟨sent, delivers, (received (.ofReads _) delivers).1⟩

end Transport

end VirtualNet
