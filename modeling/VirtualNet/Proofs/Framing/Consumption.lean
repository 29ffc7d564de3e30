import VirtualNet.Proofs.Framing.Polling

/-!
# What receiving a message consumes

Reads deliver octets until one of them ends the stream or fails; interruptions and waits on the way
deliver nothing. Receiving a message takes five octets and leaves everything after them alone, or it
takes all that is delivered and the read that stopped it. `read_eq` says so of a message of which a
part has arrived already, and everything else about the loop is read off it.
-/

namespace VirtualNet

namespace Message

theorem decode_append_of_length {bytes : Bytes} (whole : bytes.length = 5) (rest : Bytes) :
    decode (bytes ++ rest) = decode bytes := by
  match bytes with
  | [_, _, _, _, _] => rfl

theorem decode_take {bytes : Bytes} (enough : 5 ≤ bytes.length) :
    decode (bytes.take 5) = decode bytes := by
  have whole : (bytes.take 5).length = 5 := by
    rw [List.length_take]
    omega
  have same := decode_append_of_length whole (bytes.drop 5)
  rw [List.take_append_drop] at same
  exact same.symm

/-- Five octets are the message that they encode, or they begin with an unknown tag. -/
theorem decode_of_length {bytes : Bytes} (whole : bytes.length = 5) :
    if bytes.getD 0 0 < 2 then ∃ message, decode bytes = .ok message ∧ message.encode = bytes
    else decode bytes = .error (.unknownKind (bytes.getD 0 0)) := by
  match bytes with
  | [tag, first, second, third, fourth] =>
      have encoded := Bytes.ofWord32_word32 first second third fourth
      by_cases guess : tag = 0
      · simp [guess, decode, encode, MessageKind.tag, encoded]
      by_cases response : tag = 1
      · simp [response, decode, encode, MessageKind.tag, encoded]
      have unknown : ¬tag < 2 := by
        simp only [← UInt8.toNat_inj, UInt8.lt_iff_toNat_lt, UInt8.reduceToNat] at *
        omega
      simp [unknown, guess, response, decode]

end Message

namespace Framing

/-- What keeps reads from delivering more. -/
inductive Stop where
  | ended
  | failed (error : IoError)
  deriving DecidableEq, Repr

/-- What is said of a message of which so many octets arrived before the stop. -/
def Stop.error (received : Nat) : Stop → FramingError
  | .ended => .connectionClosed received
  | .failed error => .transport error

/-- The octets that reads deliver before they stop. -/
def delivered : List Arrival → Bytes
  | [] => []
  | .bytes data :: rest => if data.length = 0 then [] else data ++ delivered rest
  | .failure error :: rest => if error.kind = .interrupted then delivered rest else []
  | .notReady :: rest => delivered rest

/-- How reads stop, and the reads behind the one that stops them. -/
def stop : List Arrival → Stop × List Arrival
  | [] => (.ended, [])
  | .bytes data :: rest => if data.length = 0 then (.ended, rest) else stop rest
  | .failure error :: rest => if error.kind = .interrupted then stop rest else (.failed error, rest)
  | .notReady :: rest => stop rest

/-- The reads that are left when so many octets are taken and nothing behind the last of them. -/
def leaving : Nat → List Arrival → List Arrival
  | 0, reads => reads
  | _ + 1, [] => []
  | count + 1, .bytes data :: rest =>
    if count + 1 < data.length then .bytes (data.drop (count + 1)) :: rest
    else leaving (count + 1 - data.length) rest
  | count + 1, .failure _ :: rest => leaving (count + 1) rest
  | count + 1, .notReady :: rest => leaving (count + 1) rest

section Leaving

variable {count : Nat} {rest : List Arrival}

theorem leaving_bytes (some : 0 < count) (data : Bytes) :
    leaving count (.bytes data :: rest) =
      if count < data.length then .bytes (data.drop count) :: rest
      else leaving (count - data.length) rest := by
  cases count with
  | zero => contradiction
  | succ count => rfl

theorem leaving_failure (some : 0 < count) (error : IoError) :
    leaving count (.failure error :: rest) = leaving count rest := by
  cases count with
  | zero => contradiction
  | succ count => rfl

theorem leaving_notReady (some : 0 < count) :
    leaving count (.notReady :: rest) = leaving count rest := by
  cases count with
  | zero => contradiction
  | succ count => rfl

end Leaving

theorem afterTaking_eq_leaving {count : Nat} {data : Bytes} (some : 0 < count)
    (enough : count ≤ data.length) (rest : List Arrival) :
    afterTaking count data rest = leaving count (.bytes data :: rest) := by
  rw [leaving_bytes some, afterTaking]
  by_cases used : data.length ≤ count
  · have exactly : count - data.length = 0 := by omega
    rw [if_pos used, if_neg (by omega), exactly, leaving]
  · rw [if_neg used, if_pos (by omega)]

/-- Reading on needs the octets that are missing, or stops where the reads stop. -/
theorem read_eq {received : Bytes} (room : received.length < 5) (reads : List Arrival) :
    read received reads =
      if 5 ≤ received.length + (delivered reads).length then
        (Message.decode (received ++ delivered reads), leaving (5 - received.length) reads)
      else
        (.error ((stop reads).1.error (received.length + (delivered reads).length)),
          (stop reads).2) := by
  have missing : 0 < 5 - received.length := by omega
  fun_induction read received reads with
  | case1 received => simp [delivered, stop, Stop.error, Nat.not_le.mpr room]
  | case2 received data rest empty =>
      simp [delivered, stop, Stop.error, empty, Nat.not_le.mpr room]
  | case3 received data rest space nonempty short ih =>
      simp only [Message.wireLength, space] at short
      have stillRoom : (received ++ data).length < 5 := by
        rw [List.length_append]
        omega
      have whole : ¬5 - received.length < data.length := by omega
      have left : 5 - received.length - data.length = 5 - (received ++ data).length := by
        rw [List.length_append]
        omega
      simp only [delivered, stop, if_neg nonempty, leaving_bytes missing, if_neg whole, left]
      simpa [Nat.add_assoc] using ih stillRoom (by omega)
  | case4 received data rest space nonempty long =>
      simp only [Message.wireLength, space, Nat.not_lt] at long ⊢
      have enough : 5 ≤ received.length + (data ++ delivered rest).length := by
        rw [List.length_append]
        omega
      have five : (received ++ data.take (5 - received.length)).length = 5 := by
        rw [List.length_append, List.length_take]
        omega
      have joined : received ++ (data ++ delivered rest) =
          received ++ data.take (5 - received.length) ++
            (data.drop (5 - received.length) ++ delivered rest) := by
        rw [List.append_assoc received, ← List.append_assoc (data.take _),
          List.take_append_drop]
      simp only [delivered, if_neg nonempty, if_pos enough, joined,
        Message.decode_append_of_length five, afterTaking_eq_leaving missing long]
  | case5 received error rest interrupted ih =>
      simp only [delivered, stop, if_pos interrupted, leaving_failure missing]
      exact ih room missing
  | case6 received error rest failed =>
      simp [delivered, stop, Stop.error, failed, Nat.not_le.mpr room]
  | case7 received rest ih =>
      simp only [delivered, stop, leaving_notReady missing]
      exact ih room missing

/-- What is left delivers the octets that were not taken, up to the same stop. -/
theorem delivered_leaving {count : Nat} {reads : List Arrival}
    (enough : count ≤ (delivered reads).length) :
    delivered (leaving count reads) = (delivered reads).drop count ∧
      stop (leaving count reads) = stop reads := by
  induction reads generalizing count with
  | nil =>
      cases count with
      | zero => exact ⟨rfl, rfl⟩
      | succ count => simp [delivered] at enough
  | cons event rest ih =>
      rcases Nat.eq_zero_or_pos count with rfl | some
      · exact ⟨rfl, rfl⟩
      cases event with
      | bytes data =>
          by_cases empty : data.length = 0
          · simp [delivered, empty] at enough
            omega
          simp only [delivered, if_neg empty, List.length_append] at enough
          rw [leaving_bytes some]
          -- Either a part of this piece is left, or the rest of the count is taken behind it.
          by_cases part : count < data.length
          · have nonempty : ¬(data.drop count).length = 0 := by
              rw [List.length_drop]
              omega
            simp only [if_pos part, delivered, stop, if_neg nonempty, if_neg empty]
            exact ⟨(List.drop_append_of_le_length (Nat.le_of_lt part)).symm, trivial⟩
          · have later : count - data.length ≤ (delivered rest).length := by omega
            rcases ih later with ⟨octets, same⟩
            simp only [if_neg part, octets, same, delivered, stop, if_neg empty]
            refine ⟨?_, trivial⟩
            rw [List.drop_append, List.drop_eq_nil_of_le (Nat.le_of_not_lt part),
              List.nil_append]
      | failure error =>
          by_cases interrupted : error.kind = .interrupted
          · simp only [delivered, if_pos interrupted] at enough
            simp only [leaving_failure some, delivered, stop, if_pos interrupted]
            exact ih enough
          · simp [delivered, interrupted] at enough
            omega
      | notReady =>
          rw [leaving_notReady some]
          exact ih enough

end Framing

namespace Transport

open Framing

theorem receive_eq (transport : Transport) :
    transport.receive =
      if 5 ≤ (delivered transport.reads).length then
        (Message.decode (delivered transport.reads),
          { transport with reads := leaving 5 transport.reads })
      else
        (.error ((stop transport.reads).1.error (delivered transport.reads).length),
          { transport with reads := (stop transport.reads).2 }) := by
  have room : ([] : Bytes).length < 5 := by decide
  simp only [receive, read_eq room, List.length_nil, Nat.zero_add, Nat.sub_zero, List.nil_append]
  split
  · rfl
  · rfl

theorem receivePolled_eq_receive (transport : Transport) :
    transport.receivePolled = transport.receive := by
  rw [receivePolled, receive, awaitRead_eq_read]

/--
Receiving a message takes the first five of the octets that are delivered and leaves everything
behind them alone; it is the message that they encode, or their unknown tag. Where fewer are
delivered it takes them all and the read that stopped them, and reports that stop. A polled call
does the same.
-/
theorem consumes_what_it_reports (transport : Transport) :
    let octets := delivered transport.reads
    (if 5 ≤ octets.length then
        transport.receive =
          (Message.decode (octets.take 5), { transport with reads := leaving 5 transport.reads }) ∧
        (if octets.getD 0 0 < 2 then
          ∃ message, transport.receive.1 = .ok message ∧ message.encode = octets.take 5
        else transport.receive.1 = .error (.unknownKind (octets.getD 0 0))) ∧
        delivered transport.receive.2.reads = octets.drop 5 ∧
        stop transport.receive.2.reads = stop transport.reads
      else
        transport.receive =
          (.error (match (stop transport.reads).1 with
            | .ended => .connectionClosed octets.length
            | .failed error => .transport error),
          { transport with reads := (stop transport.reads).2 })) ∧
      transport.receivePolled = transport.receive := by
  intro octets
  refine ⟨?_, transport.receivePolled_eq_receive⟩
  rw [receive_eq]
  by_cases enough : 5 ≤ octets.length
  · have whole : (octets.take 5).length = 5 := by
      rw [List.length_take]
      omega
    have first : (octets.take 5).getD 0 0 = octets.getD 0 0 := by
      simp [List.getD_eq_getElem?_getD]
    have told := Message.decode_of_length whole
    rw [first, Message.decode_take enough] at told
    rw [if_pos enough, if_pos enough, Message.decode_take enough]
    exact ⟨rfl, told, delivered_leaving enough⟩
  · rw [if_neg enough, if_neg enough]
    rfl

/-- An interruption behind the fifth octet is left to the next call. -/
example :
    (ofReads [.bytes [0, 0], .notReady, .bytes [0, 0, 7, 1],
        .failure ⟨.interrupted, "again"⟩]).receive =
      (.ok ⟨.guess, 7⟩, ofReads [.bytes [1], .failure ⟨.interrupted, "again"⟩]) := by
  cbv

end Transport

end VirtualNet
