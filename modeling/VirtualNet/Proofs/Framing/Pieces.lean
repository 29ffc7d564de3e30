import VirtualNet.Conversation
import VirtualNet.Proofs.Framing.Stream

/-!
# The pieces of a stream

Reads bring octets if they deliver them in front of whatever is delivered next. A stream that is
handed over piece by piece brings its octets, and receiving a message takes the octets of that
message off what the reads bring.
-/

namespace VirtualNet

namespace Framing

/-- Reads that deliver these octets and then what is delivered after them. -/
def Brings (octets : Bytes) (reads : List Arrival) : Prop :=
  ∀ (stream : Bytes) (rest : List Arrival), Delivers stream rest →
    Delivers (octets ++ stream) (reads ++ rest)

theorem brings_nil : Brings [] [] := by
  intro stream rest delivers
  exact delivers

theorem Brings.append {first second : Bytes} {reads later : List Arrival}
    (brings : Brings first reads) (bringsLater : Brings second later) :
    Brings (first ++ second) (reads ++ later) := by
  intro stream rest delivers
  rw [List.append_assoc, List.append_assoc]
  exact brings _ _ (bringsLater stream rest delivers)

theorem Brings.delivers {octets : Bytes} {reads : List Arrival} (brings : Brings octets reads) :
    Delivers octets reads := by
  simpa using brings [] [] .nothing

theorem brings_deliver (pieces : List Piece) (octets : Bytes) :
    Brings octets (Piece.deliver pieces octets) := by
  intro stream rest delivers
  fun_induction Piece.deliver pieces octets with
  | case1 => exact delivers
  | case2 octets some => exact .piece some delivers
  | case3 more pieces ih => exact ih
  | case4 more pieces octets some ih =>
      have first : octets.take (more + 1) ≠ [] := by
        intro nothing
        apply some
        simpa using nothing
      rw [← List.take_append_drop (more + 1) octets, List.append_assoc]
      simpa using Delivers.piece first ih
  | case5 text pieces octets ih => exact .interrupted rfl ih
  | case6 pieces octets ih => exact .notReady ih

theorem afterTaking_append (count : Nat) (data : Bytes) (rest later : List Arrival) :
    afterTaking count data rest ++ later = afterTaking count data (rest ++ later) := by
  rw [afterTaking, afterTaking]
  split
  · rfl
  · rfl

/-- A read that has its message does not depend on what arrives after it. -/
theorem read_append_of_ok {received : Bytes} {reads left : List Arrival} {message : Message}
    (arrived : read received reads = (.ok message, left)) (later : List Arrival) :
    read received (reads ++ later) = (.ok message, left ++ later) := by
  fun_induction read received reads with
  | case1 => cases arrived
  | case2 => cases arrived
  | case3 received data rest room some short ih =>
      rw [List.cons_append, read, if_neg some, if_pos short]
      exact ih arrived
  | case4 received data rest room some long =>
      rw [List.cons_append, read, if_neg some, if_neg long]
      rcases Prod.mk.inj arrived with ⟨whole, rfl⟩
      rw [← afterTaking_append]
      exact congrArg (·, afterTaking room data rest ++ later) whole
  | case5 received error rest interrupted ih =>
      rw [List.cons_append, read, if_pos interrupted]
      exact ih arrived
  | case6 => cases arrived
  | case7 received rest ih => exact ih arrived

/-- Receiving a message takes its octets off those that the reads bring. -/
theorem read_of_brings {message : Message} {octets : Bytes} {reads : List Arrival}
    (brings : Brings (message.encode ++ octets) reads) :
    ∃ left, read [] reads = (.ok message, left) ∧ Brings octets left := by
  have room : ([] : Bytes).length < 5 := by decide
  have arrived : (read [] reads).1 = .ok message := by
    rw [(read_of_delivers room brings.delivers).1]
    exact Message.decode_encode_append message octets
  refine ⟨(read [] reads).2, Prod.ext arrived rfl, ?_⟩
  intro stream rest delivers
  have five : message.encode.length = 5 := rfl
  have enough : 5 ≤ ([] : Bytes).length + (message.encode ++ octets ++ stream).length := by
    simp [five]
  have left := (read_of_delivers room (brings stream rest delivers)).2 enough
  rw [read_append_of_ok (Prod.ext arrived rfl) rest] at left
  rwa [List.append_assoc, List.length_nil, Nat.sub_zero, List.drop_left' five] at left

end Framing

end VirtualNet
