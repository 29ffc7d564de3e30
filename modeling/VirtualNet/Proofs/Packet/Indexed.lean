import VirtualNet.Indexed
import VirtualNet.Proofs.Checksum.Arithmetic
import VirtualNet.Proofs.Packet.Reassembly
import VirtualNet.Proofs.Tcp.Grammar

/-!
# Reading by index never breaks off

Every index that a reader of headers and packets uses was checked against the length of its string
before, here or in the function that the reader called. So no reading breaks off, and what is read
by index is what is read by matching. The sums of checksums stay within the machine word for every
string that is summed.
-/

namespace VirtualNet

namespace Indexed

/-! ### Fields and parts of a string -/

section Fields

variable {bytes : Bytes} {length index : Nat} (long : length ≤ bytes.length)

include long

theorem octet_eq_ok (inside : index < length) : octet bytes index = .ok (bytes.getD index 0) := by
  have within : index < bytes.length := by omega
  simp [octet, within]

theorem word16_eq_ok (inside : index + 1 < length) :
    word16 bytes index =
      .ok (Bytes.word16 (bytes.getD index 0) (bytes.getD (index + 1) 0)) := by
  rw [word16, octet_eq_ok long (by omega), octet_eq_ok long inside]
  rfl

theorem word32_eq_ok (inside : index + 3 < length) :
    word32 bytes index =
      .ok (Bytes.word32 (bytes.getD index 0) (bytes.getD (index + 1) 0) (bytes.getD (index + 2) 0)
        (bytes.getD (index + 3) 0)) := by
  rw [word32, octet_eq_ok long (by omega), octet_eq_ok long (by omega), octet_eq_ok long (by omega),
    octet_eq_ok long inside]
  rfl

theorem checksum_eq_ok (inside : index + 1 < length) :
    checksum bytes index =
      .ok (Checksum.load (bytes.getD index 0) (bytes.getD (index + 1) 0)) := by
  rw [checksum, octet_eq_ok long (by omega), octet_eq_ok long inside]
  rfl

theorem address_eq_ok (inside : index + 3 < length) :
    address bytes index =
      .ok ⟨bytes.getD index 0, bytes.getD (index + 1) 0, bytes.getD (index + 2) 0,
        bytes.getD (index + 3) 0⟩ := by
  rw [address, octet_eq_ok long (by omega), octet_eq_ok long (by omega),
    octet_eq_ok long (by omega), octet_eq_ok long inside]
  rfl

end Fields

section Parts

variable {bytes : Bytes} {index : Nat}

theorem slice_eq_ok {first last : Nat} (ordered : first ≤ last) (inside : last ≤ bytes.length) :
    slice bytes first last = .ok ((bytes.take last).drop first) := by
  rw [slice, if_neg (Nat.not_lt.mpr ordered), if_neg (Nat.not_lt.mpr inside)]

theorem sliceFrom_eq_ok (inside : index ≤ bytes.length) :
    sliceFrom bytes index = .ok (bytes.drop index) := by
  rw [sliceFrom, if_neg (Nat.not_lt.mpr inside)]

end Parts

/-! ### Sums in a machine word -/

theorem add_eq_ok_of_fits {left right : UInt64} (fits : left.toNat + right.toNat < UInt64.size) :
    add left right = .ok (left + right) := by
  rw [add, if_neg (Nat.not_le.mpr fits)]

theorem accumulate_of_adds {sum total : UInt64} {bytes : Bytes}
    (adds : Checksum.Adds sum bytes total) : accumulate sum bytes = .ok total := by
  induction adds with
  | none => rfl
  | last fits =>
      rw [accumulate, add_eq_ok_of_fits]
      exact fits
  | word fits later ih =>
      rw [accumulate, add_eq_ok_of_fits fits]
      exact ih

theorem fold_of_folds {turns : Nat} {sum folded : UInt64}
    (folds : Checksum.Folds turns sum folded) : fold sum = .ok folded := by
  induction folds with
  | done small => rw [fold, if_pos small]
  | carry large fits later ih =>
      rw [fold, if_neg large, add_eq_ok_of_fits fits]
      exact ih

theorem verify_eq_ok {bytes : Bytes} (short : bytes.length ≤ Checksum.maxLength) :
    verify bytes = .ok (Checksum.verify bytes) := by
  have room : (0 : UInt64).toNat + Checksum.wordSum bytes < UInt64.size := by
    simpa using Checksum.wordSum_lt_of_short short
  rcases Checksum.folds_fold (Checksum.accumulate 0 bytes) with ⟨turns, -, folds⟩
  rw [verify, accumulate_of_adds (Checksum.adds_accumulate room)]
  simp only [bind, Except.bind, fold_of_folds folds]
  rfl

theorem ipChecksumRight_eq (packet : Packet) :
    ipChecksumRight packet = .ok packet.ipChecksumRight :=
  verify_eq_ok (Nat.le_trans (Nat.le_of_eq packet.header.length_toBytes) (by decide))

/-! ### Headers and packets -/

/-- What was read is handed on. -/
theorem ok_bind {α β : Type} (value : α) (next : α → Inspection β) :
    (liftM (Except.ok value : Except Fault α) >>= next) = next value := rfl

/-- A check that stands before the rest of a reading. -/
theorem run_ite {α : Type} {condition : Prop} [Decidable condition] {error : PacketError}
    {reading : Inspection α} {result : Except PacketError α}
    (passed : ¬condition → reading.run = .ok result) :
    (if condition then throw error else reading : Inspection α).run =
      .ok (if condition then .error error else result) := by
  by_cases refused : condition
  · rw [if_pos refused, if_pos refused]
    rfl
  · rw [if_neg refused, if_neg refused, passed refused]

theorem run_bind {α β : Type} {reading : Inspection α} {result : Except PacketError α}
    {next : α → Inspection β} {final : α → Except PacketError β}
    (read : reading.run = .ok result)
    (later : ∀ value, result = .ok value → (next value).run = .ok (final value)) :
    (reading >>= next).run = .ok (result >>= final) := by
  cases result with
  | error error =>
      rw [ExceptT.run_bind, read]
      rfl
  | ok value =>
      rw [ExceptT.run_bind, read]
      exact later value rfl

theorem run_ipHeader (bytes : Bytes) : (ipHeader bytes).run = .ok (Ipv4.Header.parse bytes) := by
  by_cases short : bytes.length < 20
  · rw [Ipv4.Header.parse_of_short short, ipHeader, Ipv4.Header.wireLength, if_pos short]
    rfl
  · have long : 20 ≤ bytes.length := Nat.le_of_not_lt short
    rw [Ipv4.Header.parse_of_long long, ipHeader, Ipv4.Header.wireLength, if_neg short,
      ← Ipv4.Header.toNat_totalLength_ofOctets]
    -- Every index is one of the twenty that the length was checked for.
    simp (disch := decide) only [octet_eq_ok long, word16_eq_ok long, checksum_eq_ok long,
      address_eq_ok long, ok_bind, Bytes.shiftRight_four, Bytes.and_fifteen]
    exact run_ite fun _ => run_ite fun _ => run_ite fun _ => rfl

theorem run_tcpHeader (bytes : Bytes) : (tcpHeader bytes).run = .ok (Tcp.Header.parse bytes) := by
  rw [Tcp.Header.parse_eq, tcpHeader, Tcp.Header.wireLength]
  apply run_ite
  intro notShort
  have long : 20 ≤ bytes.length := Nat.le_of_not_lt notShort
  simp (disch := decide) only [octet_eq_ok long, word16_eq_ok long, word32_eq_ok long,
    checksum_eq_ok long, ok_bind, Bytes.shiftRight_four]
  exact run_ite fun _ => rfl

theorem run_packet (bytes : Bytes) : (packet bytes).run = .ok (Packet.parse bytes) := by
  apply run_bind (run_ipHeader bytes)
  intro header read
  rcases Packet.wellFormed_of_parse (Packet.parse_of_read read) with ⟨wellFormed, -, inside⟩
  -- The range ends where the total length says, and that was checked against the string.
  have told := wellFormed.totalLength
  simp only [Packet.length, Ipv4.Header.wireLength] at told inside ⊢
  rw [slice_eq_ok (by omega) (by omega)]
  rfl

theorem run_receive (link : Link) (datagram : Bytes) :
    (receive link datagram).run = .ok (link.receive datagram) := by
  have received : slice (datagram.take link.assembler.mtu ++
      List.replicate (link.assembler.mtu - datagram.length) 0) 0
        (min datagram.length link.assembler.mtu) = .ok (datagram.take link.assembler.mtu) := by
    rw [slice_eq_ok (Nat.zero_le _) (by simp; omega), List.drop_zero,
      List.take_left' (by simp [Nat.min_comm])]
  simp only [receive, received, ok_bind]
  exact run_packet _

theorem run_tcpSegment (packet : Packet) : (tcpSegment packet).run = .ok packet.tcpSegment := by
  apply run_ite
  intro _
  apply run_bind (run_tcpHeader packet.payload)
  intro header read
  -- The parser has checked the length that the range starts at.
  have long : Tcp.Header.wireLength ≤ packet.payload.length := (Tcp.Header.kept_of_parse read).1
  rw [sliceFrom_eq_ok long]
  rfl

theorem length_le_of_covered {source destination : Ipv4Address} {header payload bytes : Bytes}
    (wireLength : header.length = 20)
    (covers : Tcp.covered source destination header payload = .ok bytes) :
    bytes.length ≤ Checksum.maxLength := by
  rw [Tcp.covered_eq source destination wireLength] at covers
  split at covers
  · contradiction
  · rename_i fits
    cases covers
    exact Tcp.length_addressed wireLength (Nat.le_of_not_lt fits) source destination

theorem run_tcpChecksumRight (packet : Packet) :
    (tcpChecksumRight packet).run = .ok packet.tcpChecksumRight := by
  apply run_bind (run_tcpSegment packet)
  intro segment carried
  rcases Packet.tcpSegment_eq_ok_iff.mp carried with ⟨-, read, -⟩
  have long : Tcp.Header.wireLength ≤ packet.payload.length := (Tcp.Header.kept_of_parse read).1
  have wireLength : (packet.payload.take Tcp.Header.wireLength).length = 20 :=
    List.length_take_of_le long
  simp only [slice_eq_ok (Nat.zero_le _) long, sliceFrom_eq_ok long, ok_bind, List.drop_zero]
  apply run_bind rfl
  intro bytes covers
  rw [verify_eq_ok (length_le_of_covered wireLength covers)]
  rfl

end Indexed

end VirtualNet
