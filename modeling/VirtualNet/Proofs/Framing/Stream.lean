import VirtualNet.Proofs.Framing.Consumption

/-!
# Exchanging messages over a stream

A transport carries a stream if its reads deliver the octets of the stream in pieces of any size
and then its end, with interruptions and waits anywhere between, and if every write makes progress.
What is received over such a transport depends on the stream alone.
-/

namespace VirtualNet

/-- An acceptance that brings a write forward, or leaves it to be tried again. -/
def Acceptance.Willing : Acceptance → Prop
  | .whole => True
  | .upTo limit => 0 < limit
  | .failure error => error.kind = .interrupted
  | .notReady => True

/-- A flush that succeeds or is not ready yet. -/
def Flush.Willing : Flush → Prop
  | .failure _ => False
  | _ => True

namespace Message

theorem decode_encode_append (message : Message) (rest : Bytes) :
    decode (message.encode ++ rest) = .ok message := by
  have number := Bytes.word32_of_ofWord32 message.number.toUInt32
  cases message with
  | mk kind value =>
      cases kind with
      | guess => simp [decode, encode, MessageKind.tag, Bytes.ofWord32, number]
      | response => simp [decode, encode, MessageKind.tag, Bytes.ofWord32, number]

theorem decode_of_short {bytes : Bytes} (short : bytes.length < 5) :
    decode bytes = .error (.connectionClosed bytes.length) := by
  match bytes with
  | [] | [_] | [_, _] | [_, _, _] | [_, _, _, _] => rfl

end Message

namespace Framing

/--
Reads that deliver a stream: its octets in pieces that are not empty, then its end. Reads may be
interrupted or not ready on the way.
-/
inductive Delivers : Bytes → List Arrival → Prop where
  | nothing : Delivers [] []
  | ended {rest : List Arrival} : Delivers [] (.bytes [] :: rest)
  | piece {data stream : Bytes} {rest : List Arrival} (nonempty : data ≠ [])
      (later : Delivers stream rest) : Delivers (data ++ stream) (.bytes data :: rest)
  | interrupted {error : IoError} {stream : Bytes} {rest : List Arrival}
      (kind : error.kind = .interrupted) (later : Delivers stream rest) :
      Delivers stream (.failure error :: rest)
  | notReady {stream : Bytes} {rest : List Arrival} (later : Delivers stream rest) :
      Delivers stream (.notReady :: rest)

theorem delivered_of_delivers {stream : Bytes} {reads : List Arrival}
    (delivers : Delivers stream reads) :
    delivered reads = stream ∧ (stop reads).1 = .ended := by
  induction delivers with
  | nothing => exact ⟨rfl, rfl⟩
  | ended => exact ⟨rfl, rfl⟩
  | piece nonempty later ih => simpa [delivered, stop, nonempty] using ih
  | interrupted kind later ih => simpa [delivered, stop, kind] using ih
  | notReady later ih => exact ih

theorem delivers_of_ended {reads : List Arrival} (ended : (stop reads).1 = .ended) :
    Delivers (delivered reads) reads := by
  induction reads with
  | nil => exact .nothing
  | cons event rest ih =>
      cases event with
      | bytes data =>
          by_cases empty : data = []
          · simpa [delivered, empty] using Delivers.ended
          · simp only [stop, List.length_eq_zero_iff, if_neg empty] at ended
            simpa [delivered, empty] using Delivers.piece empty (ih ended)
      | failure error =>
          by_cases interrupted : error.kind = .interrupted
          · simp only [stop, if_pos interrupted] at ended
            simpa [delivered, interrupted] using Delivers.interrupted interrupted (ih ended)
          · simp [stop, interrupted] at ended
      | notReady => exact .notReady (ih ended)

/-- What is left of a stream is a stream again. -/
theorem delivers_leaving {stream : Bytes} {reads : List Arrival} {count : Nat}
    (delivers : Delivers stream reads) (enough : count ≤ stream.length) :
    Delivers (stream.drop count) (leaving count reads) := by
  rcases delivered_of_delivers delivers with ⟨rfl, ended⟩
  rcases delivered_leaving enough with ⟨octets, same⟩
  rw [← octets]
  apply delivers_of_ended
  rw [same]
  exact ended

/--
A message received from a stream is the one that the first five octets of the stream hold, and what
is delivered next is the stream after them.
-/
theorem read_of_delivers {received stream : Bytes} {reads : List Arrival}
    (room : received.length < 5) (delivers : Delivers stream reads) :
    (read received reads).1 = Message.decode (received ++ stream) ∧
      (5 ≤ received.length + stream.length →
        Delivers (stream.drop (5 - received.length)) (read received reads).2) := by
  rcases delivered_of_delivers delivers with ⟨octets, ended⟩
  rw [read_eq room, octets, ended]
  by_cases enough : 5 ≤ received.length + stream.length
  · rw [if_pos enough]
    exact ⟨rfl, fun _ => delivers_leaving delivers (by omega)⟩
  · have short : (received ++ stream).length < 5 := by
      rw [List.length_append]
      omega
    rw [if_neg enough, Message.decode_of_short short, List.length_append]
    exact ⟨rfl, fun whole => absurd whole enough⟩

theorem write_of_willing {accepted left : Bytes} {writes : List Acceptance}
    (willing : ∀ event ∈ writes, event.Willing) :
    ∃ rest, write accepted left writes = (.ok (), accepted ++ left, rest) ∧
      ∀ event ∈ rest, event.Willing := by
  fun_induction write accepted left writes with
  | case1 => exact ⟨[], rfl, nofun⟩
  | case2 accepted left rest =>
      rcases List.forall_mem_cons.mp willing with ⟨-, willingRest⟩
      exact ⟨rest, rfl, willingRest⟩
  | case3 accepted left rest =>
      rcases List.forall_mem_cons.mp willing with ⟨progress, -⟩
      exact absurd progress (Nat.lt_irrefl 0)
  | case4 accepted left limit rest progress fits ih =>
      rcases List.forall_mem_cons.mp willing with ⟨-, willingRest⟩
      rw [List.append_assoc, List.take_append_drop] at ih
      exact ih willingRest
  | case5 accepted left limit rest progress fits =>
      rcases List.forall_mem_cons.mp willing with ⟨-, willingRest⟩
      exact ⟨rest, rfl, willingRest⟩
  | case6 accepted left error rest interrupted ih =>
      rcases List.forall_mem_cons.mp willing with ⟨-, willingRest⟩
      exact ih willingRest
  | case7 accepted left error rest failed =>
      rcases List.forall_mem_cons.mp willing with ⟨interrupted, -⟩
      exact absurd interrupted failed
  | case8 accepted left rest ih =>
      rcases List.forall_mem_cons.mp willing with ⟨-, willingRest⟩
      exact ih willingRest

theorem awaitFlush_of_willing {flushes : List Flush} (willing : ∀ event ∈ flushes, event.Willing) :
    ∃ rest, awaitFlush flushes = (.ok (), rest) ∧ ∀ event ∈ rest, event.Willing := by
  induction flushes with
  | nil => exact ⟨[], awaitFlush_nil, nofun⟩
  | cons event rest ih =>
      rcases List.forall_mem_cons.mp willing with ⟨first, willingRest⟩
      cases event with
      | done => exact ⟨rest, awaitFlush_done rest, willingRest⟩
      | failure error => exact first.elim
      | notReady =>
          rw [awaitFlush_notReady]
          exact ih willingRest

end Framing

namespace Transport

open Framing

/-- A transport that delivers a stream and takes everything that is written to it. -/
structure Carries (transport : Transport) (stream : Bytes) : Prop where
  delivers : Delivers stream transport.reads
  accepts : ∀ event ∈ transport.writes, event.Willing
  flushes : ∀ event ∈ transport.flushes, event.Willing

theorem receivePolled_of_carries {transport : Transport} {stream : Bytes}
    (carries : transport.Carries stream) :
    ∃ after, transport.receivePolled = (Message.decode stream, after) ∧
      after.written = transport.written ∧
      (5 ≤ stream.length → after.Carries (stream.drop 5)) := by
  have room : ([] : Bytes).length < 5 := by decide
  rcases read_of_delivers room carries.delivers with ⟨decoded, delivered⟩
  refine ⟨transport.receivePolled.2, ?_, rfl, ?_⟩
  · rw [← List.nil_append stream, ← decoded, receivePolled, awaitRead_eq_read]
  · intro enough
    refine ⟨?_, carries.accepts, carries.flushes⟩
    rw [receivePolled, awaitRead_eq_read]
    apply delivered
    simpa using enough

theorem sendPolled_of_carries {transport : Transport} {stream : Bytes}
    (carries : transport.Carries stream) (message : Message) :
    ∃ after, transport.sendPolled message = (.ok (), after) ∧
      after.written = transport.written ++ message.encode ∧ after.Carries stream := by
  rcases @write_of_willing [] message.encode _ carries.accepts with ⟨writes, written, accepts⟩
  rcases awaitFlush_of_willing carries.flushes with ⟨rest, flushed, flushes⟩
  refine ⟨⟨transport.reads, writes, rest, transport.written ++ message.encode⟩, ?_, rfl,
    carries.delivers, accepts, flushes⟩
  rw [sendPolled, awaitWrite_eq_write, written]
  simp only [flushed, List.nil_append]

end Transport

end VirtualNet
