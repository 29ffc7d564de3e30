import VirtualNet.Proofs.Framing.Consumption

/-!
# What an exchange takes from a transport and what it leaves there

`Reception` lists the ways in which receiving a message can end, with the octets that it took;
`Emission` lists the ways in which writing one can end, with the octets that it wrote. Every call
ends in one of them, whatever the transport does.
-/

namespace VirtualNet

namespace Framing

/-- How receiving a message that took the given octets may end. -/
inductive Reception : Bytes → Except FramingError Message → Prop where
  | received (message : Message) : Reception message.encode (.ok message)
  | unknown {tag : UInt8} {number : Bytes} (whole : number.length = 4) (notGuess : tag ≠ 0)
      (notResponse : tag ≠ 1) : Reception (tag :: number) (.error (.unknownKind tag))
  | closed {part : Bytes} (short : part.length < 5) :
      Reception part (.error (.connectionClosed part.length))
  | failed {part : Bytes} {error : IoError} (short : part.length < 5)
      (final : error.kind ≠ .interrupted) : Reception part (.error (.transport error))

theorem Reception.eq_encode {taken : Bytes} {message : Message}
    (reception : Reception taken (.ok message)) : taken = message.encode := by
  cases reception
  rfl

theorem reception_decode {bytes : Bytes} (whole : bytes.length = 5) :
    Reception bytes (Message.decode bytes) := by
  have told := Message.decode_of_length whole
  split at told
  · rcases told with ⟨message, decoded, encoded⟩
    rw [decoded, ← encoded]
    exact .received message
  · rename_i unknown
    match bytes with
    | [tag, first, second, third, fourth] =>
        rw [told]
        apply Reception.unknown rfl
        · rintro rfl
          exact unknown (show (0 : UInt8) < 2 by decide)
        · rintro rfl
          exact unknown (show (1 : UInt8) < 2 by decide)

theorem flatMap_afterTaking (count : Nat) (data : Bytes) (rest : List Arrival) :
    data ++ rest.flatMap Arrival.data =
      data.take count ++ (afterTaking count data rest).flatMap Arrival.data := by
  by_cases used : data.length ≤ count
  · rw [afterTaking, if_pos used, List.take_of_length_le used]
  · rw [afterTaking, if_neg used, List.flatMap_cons, Arrival.data, ← List.append_assoc,
      List.take_append_drop]

theorem reception_read {received : Bytes} {reads : List Arrival} (room : received.length < 5) :
    ∃ taken, reads.flatMap Arrival.data =
        taken ++ (read received reads).2.flatMap Arrival.data ∧
      Reception (received ++ taken) (read received reads).1 := by
  fun_induction read received reads with
  | case1 received => exact ⟨[], rfl, by simpa using Reception.closed room⟩
  | case2 received data rest empty =>
      rcases List.eq_nil_of_length_eq_zero empty with rfl
      exact ⟨[], rfl, by simpa using Reception.closed room⟩
  | case3 received data rest space nonempty short ih =>
      have stillRoom : (received ++ data).length < 5 := by
        simp only [Message.wireLength, space] at short
        rw [List.length_append]
        omega
      rcases ih stillRoom with ⟨taken, consumed, reception⟩
      refine ⟨data ++ taken, ?_, by simpa using reception⟩
      simp [Arrival.data, consumed]
  | case4 received data rest space nonempty long =>
      have whole : (received ++ data.take space).length = 5 := by
        simp only [Message.wireLength, space] at long ⊢
        rw [List.length_append, List.length_take]
        omega
      exact ⟨data.take space, flatMap_afterTaking space data rest, reception_decode whole⟩
  | case5 received error rest interrupted ih => exact ih room
  | case6 received error rest failed =>
      exact ⟨[], rfl, by simpa using Reception.failed room failed⟩
  | case7 received rest ih => exact ih room

/-- How writing the given octets may end, with those that were accepted. -/
inductive Emission (whole : Bytes) : Except FramingError Unit → Bytes → Prop where
  | complete : Emission whole (.ok ()) whole
  | refused {part : Bytes} (first : part <+: whole) (short : part.length < whole.length) :
      Emission whole (.error (.incompleteWrite part.length whole.length)) part
  | failed {part : Bytes} {error : IoError} (first : part <+: whole)
      (short : part.length < whole.length) (final : error.kind ≠ .interrupted) :
      Emission whole (.error (.transport error)) part

theorem emission_write {accepted left : Bytes} {writes : List Acceptance} (more : left ≠ []) :
    Emission (accepted ++ left) (write accepted left writes).1
      (write accepted left writes).2.1 := by
  have first : accepted <+: accepted ++ left := List.prefix_append accepted left
  have short : accepted.length < (accepted ++ left).length := by
    rw [List.length_append]
    have := List.length_pos_iff.mpr more
    omega
  fun_induction write accepted left writes with
  | case1 => exact .complete
  | case2 => exact .complete
  | case3 accepted left rest => simpa using Emission.refused first short
  | case4 accepted left limit rest progress fits ih =>
      have whole : accepted ++ left.take limit ++ left.drop limit = accepted ++ left := by
        rw [List.append_assoc, List.take_append_drop]
      have still : left.drop limit ≠ [] := by
        intro nothing
        have := List.drop_eq_nil_iff.mp nothing
        omega
      rw [whole] at ih
      apply ih still ⟨left.drop limit, whole⟩
      rw [List.length_append, List.length_append, List.length_take]
      omega
  | case5 => exact .complete
  | case6 accepted left error rest interrupted ih => exact ih more first short
  | case7 accepted left error rest failed => exact .failed first short failed
  | case8 accepted left rest ih => exact ih more first short

end Framing

namespace Transport

open Framing

theorem reception_receivePolled (transport : Transport) :
    ∃ taken, transport.unread = taken ++ transport.receivePolled.2.unread ∧
      Reception taken transport.receivePolled.1 := by
  rw [receivePolled, awaitRead_eq_read]
  exact reception_read (by decide)

end Transport

end VirtualNet
