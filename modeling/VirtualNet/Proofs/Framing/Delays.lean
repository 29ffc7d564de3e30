import Mathlib.Data.List.Forall2
import VirtualNet.Proofs.Framing.Exchange

/-!
# Waiting changes nothing

A blocking call and a polled one come to the same on any transport, and a polled call comes to the
same however often the transport is not ready on the way. Each law is proved for one loop first,
then for one call, then for any calls made one after another on one transport, those that come
after a failure included.
-/

namespace VirtualNet

namespace Framing

/-- Events, and the same events with any number of waits put in anywhere. -/
inductive Delays {Event : Type} (wait : Event) : List Event → List Event → Prop where
  | nothing : Delays wait [] []
  | event {events delayed : List Event} (event : Event) (later : Delays wait events delayed) :
      Delays wait (event :: events) (event :: delayed)
  | wait {events delayed : List Event} (later : Delays wait events delayed) :
      Delays wait events (wait :: delayed)

variable {reads delayedReads : List Arrival} {writes delayedWrites : List Acceptance}
  {flushes delayedFlushes : List Flush}

theorem flatMap_of_delays (delays : Delays .notReady reads delayedReads) :
    delayedReads.flatMap Arrival.data = reads.flatMap Arrival.data := by
  induction delays with
  | nothing => rfl
  | event event later ih => simp [ih]
  | wait later ih => simpa [Arrival.data] using ih

theorem delays_afterTaking {count : Nat} {data : Bytes}
    (delays : Delays .notReady reads delayedReads) :
    Delays .notReady (afterTaking count data reads) (afterTaking count data delayedReads) := by
  simp only [afterTaking]
  split
  · exact delays
  · exact .event _ delays

theorem read_of_delays (delays : Delays .notReady reads delayedReads) (received : Bytes) :
    (read received delayedReads).1 = (read received reads).1 ∧
      Delays .notReady (read received reads).2 (read received delayedReads).2 := by
  induction delays generalizing received with
  | nothing => exact ⟨rfl, .nothing⟩
  | wait later ih => exact ih received
  | event event later ih =>
      cases event with
      | bytes data =>
          by_cases empty : data.length = 0
          · simp only [read, if_pos empty]
            exact ⟨trivial, later⟩
          · by_cases short : data.length < Message.wireLength - received.length
            · simp only [read, if_neg empty, if_pos short]
              exact ih (received ++ data)
            · simp only [read, if_neg empty, if_neg short]
              exact ⟨trivial, delays_afterTaking later⟩
      | failure error =>
          by_cases interrupted : error.kind = .interrupted
          · simp only [read, if_pos interrupted]
            exact ih received
          · simp only [read, if_neg interrupted]
            exact ⟨trivial, later⟩
      | notReady => exact ih received

theorem write_of_delays (delays : Delays .notReady writes delayedWrites) (accepted left : Bytes) :
    (write accepted left delayedWrites).1 = (write accepted left writes).1 ∧
      (write accepted left delayedWrites).2.1 = (write accepted left writes).2.1 ∧
      Delays .notReady (write accepted left writes).2.2
        (write accepted left delayedWrites).2.2 := by
  induction delays generalizing accepted left with
  | nothing => exact ⟨rfl, rfl, .nothing⟩
  | wait later ih => exact ih accepted left
  | event event later ih =>
      cases event with
      | whole => exact ⟨rfl, rfl, later⟩
      | upTo limit =>
          by_cases refused : limit = 0
          · simp only [write, if_pos refused]
            exact ⟨trivial, trivial, later⟩
          · by_cases short : limit < left.length
            · simp only [write, if_neg refused, if_pos short]
              exact ih (accepted ++ left.take limit) (left.drop limit)
            · simp only [write, if_neg refused, if_neg short]
              exact ⟨trivial, trivial, later⟩
      | failure error =>
          by_cases interrupted : error.kind = .interrupted
          · simp only [write, if_pos interrupted]
            exact ih accepted left
          · simp only [write, if_neg interrupted]
            exact ⟨trivial, trivial, later⟩
      | notReady => exact ih accepted left

theorem awaitFlush_of_delays (delays : Delays .notReady flushes delayedFlushes) :
    (awaitFlush delayedFlushes).1 = (awaitFlush flushes).1 ∧
      Delays .notReady (awaitFlush flushes).2 (awaitFlush delayedFlushes).2 := by
  induction delays with
  | nothing => simpa using Delays.nothing
  | wait later ih => simpa using ih
  | event event later ih =>
      cases event with
      | done => simpa using later
      | failure error => simpa using later
      | notReady => simpa using ih

/-- A flush that is decided at once is not waited for. -/
theorem awaitFlush_eq_flush (decided : .notReady ∉ flushes) :
    awaitFlush flushes = flush flushes := by
  cases flushes with
  | nil => simp [flush]
  | cons event rest =>
      cases event with
      | done => simp [flush]
      | failure error => simp [flush]
      | notReady => simp at decided

theorem flush_subset (flushes : List Flush) : (flush flushes).2 ⊆ flushes := by
  cases flushes with
  | nil => simp [flush]
  | cons event rest => cases event <;> simp [flush]

end Framing

namespace Transport

open Framing

/-- A transport, and the same transport where it is not ready more often. -/
structure Delayed (transport delayed : Transport) : Prop where
  reads : Delays .notReady transport.reads delayed.reads
  writes : Delays .notReady transport.writes delayed.writes
  flushes : Delays .notReady transport.flushes delayed.flushes
  written : delayed.written = transport.written

variable {transport delayed : Transport}

theorem Delayed.unread (delays : transport.Delayed delayed) :
    delayed.unread = transport.unread :=
  flatMap_of_delays delays.reads

theorem Delayed.receivePolled (delays : transport.Delayed delayed) :
    delayed.receivePolled.1 = transport.receivePolled.1 ∧
      transport.receivePolled.2.Delayed delayed.receivePolled.2 := by
  simp only [Transport.receivePolled, awaitRead_eq_read]
  rcases read_of_delays delays.reads [] with ⟨same, left⟩
  exact ⟨same, left, delays.writes, delays.flushes, delays.written⟩

theorem Delayed.sendPolled (delays : transport.Delayed delayed) (message : Message) :
    (delayed.sendPolled message).1 = (transport.sendPolled message).1 ∧
      (transport.sendPolled message).2.Delayed (delayed.sendPolled message).2 := by
  rcases write_of_delays delays.writes [] message.encode with ⟨sameResult, sameOctets, left⟩
  simp only [Transport.sendPolled, awaitWrite_eq_write, sameResult, sameOctets, delays.written]
  cases (write [] message.encode transport.writes).1 with
  | error error => exact ⟨rfl, delays.reads, left, delays.flushes, rfl⟩
  | ok value =>
      rcases awaitFlush_of_delays delays.flushes with ⟨same, leftFlushes⟩
      exact ⟨same, delays.reads, left, leftFlushes, rfl⟩

theorem sendPolled_eq_send (decided : .notReady ∉ transport.flushes) (message : Message) :
    transport.sendPolled message = transport.send message := by
  rcases written : write [] message.encode transport.writes with ⟨result, accepted, left⟩
  cases result with
  | error error => simp [Transport.sendPolled, send, awaitWrite_eq_write, written]
  | ok value =>
      simp [Transport.sendPolled, send, awaitWrite_eq_write, written, awaitFlush_eq_flush decided]

theorem flushes_send_subset (transport : Transport) (message : Message) :
    (transport.send message).2.flushes ⊆ transport.flushes := by
  simp only [send]
  split
  · simp
  · apply flush_subset

/-- A call on a transport. -/
inductive Call where
  | send (message : Message)
  | receive
  deriving DecidableEq, Repr

/-- What a call comes to. -/
inductive Answer where
  | sent (result : Except FramingError Unit)
  | received (result : Except FramingError Message)
  deriving DecidableEq, Repr

/-- Makes a call. -/
def answer (waiting : Waiting) (transport : Transport) : Call → Answer × Transport
  | .send message =>
    let (result, after) := transport.sendBy waiting message
    (.sent result, after)
  | .receive =>
    let (result, after) := transport.receiveBy waiting
    (.received result, after)

/-- Makes calls one after another; what each comes to is listed with the transport it leaves. -/
def conduct (waiting : Waiting) (transport : Transport) : List Call → List (Answer × Transport)
  | [] => []
  | call :: calls =>
    let made := transport.answer waiting call
    made :: made.2.conduct waiting calls

theorem answer_polled_eq_blocking (decided : .notReady ∉ transport.flushes) (call : Call) :
    transport.answer .polled call = transport.answer .blocking call := by
  cases call with
  | send message => simp only [answer, sendBy, sendPolled_eq_send decided]
  | receive => simp only [answer, receiveBy, receivePolled_eq_receive]

theorem decided_of_answer (decided : .notReady ∉ transport.flushes) (call : Call) :
    .notReady ∉ (transport.answer .blocking call).2.flushes := by
  cases call with
  | send message => exact fun waits => decided (transport.flushes_send_subset message waits)
  | receive => exact decided

theorem Delayed.answer (delays : transport.Delayed delayed) (call : Call) :
    (delayed.answer .polled call).1 = (transport.answer .polled call).1 ∧
      (transport.answer .polled call).2.Delayed (delayed.answer .polled call).2 := by
  cases call with
  | send message =>
      rcases delays.sendPolled message with ⟨same, left⟩
      exact ⟨congrArg Answer.sent same, left⟩
  | receive =>
      rcases delays.receivePolled with ⟨same, left⟩
      exact ⟨congrArg Answer.received same, left⟩

theorem conduct_polled_eq_blocking (decided : .notReady ∉ transport.flushes) (calls : List Call) :
    transport.conduct .polled calls = transport.conduct .blocking calls := by
  induction calls generalizing transport with
  | nil => rfl
  | cons call calls ih =>
      simp only [conduct, answer_polled_eq_blocking decided]
      rw [ih (decided_of_answer decided call)]

theorem Delayed.conduct (delays : transport.Delayed delayed) (calls : List Call) :
    List.Forall₂
      (fun made late => late.1 = made.1 ∧ late.2.written = made.2.written ∧
        late.2.unread = made.2.unread ∧ made.2.Delayed late.2)
      (transport.conduct .polled calls) (delayed.conduct .polled calls) := by
  induction calls generalizing transport delayed with
  | nil => exact .nil
  | cons call calls ih =>
      rcases delays.answer call with ⟨same, left⟩
      exact .cons ⟨same, left.written, left.unread, left⟩ (ih left)

/--
Calls made one after another on a transport come to the same and leave the same, whether they block
or are polled, if no flush finds the transport not ready: a blocking flush would not wait for it.
Polled calls come to the same, write and read the same octets and leave the same to come on a
transport that is not ready more often.
-/
theorem conducts_alike_despite_waiting (transport : Transport) (calls : List Call) :
    (.notReady ∉ transport.flushes →
      transport.conduct .polled calls = transport.conduct .blocking calls) ∧
    ∀ delayed, transport.Delayed delayed →
      List.Forall₂
        (fun made late => late.1 = made.1 ∧ late.2.written = made.2.written ∧
          late.2.unread = made.2.unread ∧ made.2.Delayed late.2)
        (transport.conduct .polled calls) (delayed.conduct .polled calls) := by
  constructor
  · intro decided
    exact conduct_polled_eq_blocking decided calls
  · intro delayed delays
    exact delays.conduct calls

/-- Calls go on alike after a write that stalls, a failed flush and a failed read. -/
theorem conducts_alike_past_failures :
    let reset : IoError := ⟨.named "ConnectionReset", "reset"⟩
    let again : IoError := ⟨.interrupted, "again"⟩
    let plain : Transport :=
      ⟨[.bytes [0, 0, 0], .failure again, .bytes [0, 7, 1], .failure reset, .bytes [2]],
        [.upTo 2, .upTo 0, .failure again], [.failure reset], []⟩
    let late : Transport :=
      ⟨[.notReady, .bytes [0, 0, 0], .failure again, .notReady, .notReady, .bytes [0, 7, 1],
          .notReady, .failure reset, .bytes [2], .notReady],
        [.upTo 2, .notReady, .upTo 0, .failure again], [.notReady, .failure reset], []⟩
    let calls : List Call :=
      [.send ⟨.guess, 7⟩, .receive, .send ⟨.response, -1⟩, .receive, .receive]
    let answers : List Answer :=
      [.sent (.error (.incompleteWrite 2 5)), .received (.ok ⟨.guess, 7⟩),
        .sent (.error (.transport reset)), .received (.error (.transport reset)),
        .received (.error (.connectionClosed 1))]
    .notReady ∉ plain.flushes ∧ plain.Delayed late ∧
      (plain.conduct .blocking calls).map Prod.fst = answers ∧
      (plain.conduct .polled calls).map Prod.fst = answers ∧
      (late.conduct .polled calls).map Prod.fst = answers := by
  intro reset again plain late calls answers
  have decided : .notReady ∉ plain.flushes := by decide
  have delays : plain.Delayed late :=
    ⟨.wait (.event _ (.event _ (.wait (.wait (.event _ (.wait (.event _ (.event _
        (.wait .nothing))))))))),
      .event _ (.wait (.event _ (.event _ .nothing))), .wait (.event _ .nothing), rfl⟩
  have blocking : (plain.conduct .blocking calls).map Prod.fst = answers := rfl
  rcases conducts_alike_despite_waiting plain calls with ⟨alike, alikeLate⟩
  have polled : (plain.conduct .polled calls).map Prod.fst = answers := by
    rw [alike decided]
    exact blocking
  refine ⟨decided, delays, blocking, polled, ?_⟩
  rw [← polled, eq_comm, ← List.forall₂_eq_eq_eq, List.forall₂_map_left_iff,
    List.forall₂_map_right_iff]
  apply (alikeLate late delays).imp
  intro made after same
  exact same.1.symm

end Transport

end VirtualNet
