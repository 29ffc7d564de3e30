import VirtualNet.Ipv4.Operation
import VirtualNet.Proofs.Ipv4.Header

/-!
# What preparing a header keeps

A header that was made or read is of version 4 and five words, and its total length covers it. No
operation on the header takes this away, whether it is carried out or refused; so neither length of
the header ever leaves the machine word, however long its owner goes on preparing it.

`outcome_cases` is the step, `prepare_of_regular` the run, by induction on the operations.
-/

namespace VirtualNet.Ipv4

namespace Header

/-- A header is of version 4 and five words, and its total length covers it. -/
structure Regular (header : Header) : Prop where
  version : header.version = 4
  headerWords : header.headerWords = 5
  covers : 20 ≤ header.totalLength.toNat

/-- Headers are made, or read from the front of a string. -/
inductive Obtained : Header → Prop where
  | made (protocol : Protocol) (source destination : Ipv4Address) :
      Obtained (.create protocol source destination)
  | read {bytes : Bytes} {header : Header} (parsed : parse bytes = .ok header) : Obtained header

theorem regular_of_parse {bytes : Bytes} {header : Header} (parsed : parse bytes = .ok header) :
    header.Regular := by
  rcases toBytes_of_parse parsed with ⟨rest, rfl⟩
  rcases parse_toBytes_append_eq_ok_iff.mp parsed with ⟨-, covers, -, same⟩
  have version := congrArg Header.version same
  have headerWords := congrArg Header.headerWords same
  exact ⟨version.symm, headerWords.symm, covers⟩

theorem Obtained.regular {header : Header} (obtained : header.Obtained) : header.Regular := by
  cases obtained with
  | made protocol source destination => exact ⟨rfl, rfl, Nat.le_refl 20⟩
  | read parsed => exact regular_of_parse parsed

namespace Regular

variable {header : Header}

theorem headerLength_eq (regular : header.Regular) : header.headerLength = .ok 20 := by
  simp [headerLength, regular.headerWords]

theorem payloadLength_eq (regular : header.Regular) :
    header.payloadLength = .ok (header.totalLength.toNat - 20) := by
  have covers : ¬header.totalLength.toNat < wireLength := Nat.not_lt.mpr regular.covers
  rw [payloadLength, if_neg covers, wireLength]

theorem parse_toBytes_append (regular : header.Regular) {pad : Bytes}
    (room : header.totalLength.toNat ≤ 20 + pad.length) :
    parse (header.toBytes ++ pad) =
      .ok { header with protocol := header.protocol.canonical } :=
  Header.parse_toBytes_append regular.version regular.headerWords regular.covers room

theorem withTotalLength (regular : header.Regular) {totalLength : UInt16}
    (covers : 20 ≤ totalLength.toNat) : { header with totalLength := totalLength }.Regular :=
  ⟨regular.version, regular.headerWords, covers⟩

theorem sealed (regular : header.Regular) : header.sealed.Regular :=
  ⟨regular.version, regular.headerWords, regular.covers⟩

end Regular

end Header

namespace Operation

open Header

/-- The length that an operation is given leaves room for the header in the machine word. -/
def InRange : Operation → Prop
  | .setPayloadLength length _ => 20 + length < UInt64.size
  | _ => True

theorem outcome_setPayloadLength {length : Nat} (inRange : 20 + length < UInt64.size) (mtu : Nat)
    (header : Header) :
    (setPayloadLength length mtu).outcome header =
      if 20 + length ≤ min mtu 65535 then
        (.ok (), { header with totalLength := (20 + length).toUInt16 })
      else (.error (.tooLarge (20 + length) mtu), header) := by
  have noOverflow : ¬UInt64.size ≤ wireLength + length := Nat.not_le.mpr inRange
  simp only [outcome, perform, run_setPayloadLength, withPayloadLength, if_neg noOverflow,
    Header.withTotalLength]
  by_cases fits : 20 + length ≤ min mtu 65535
  · have small : ¬(mtu < wireLength + length ∨ 65535 < wireLength + length) := by
      simp only [wireLength]
      omega
    simp only [if_neg small, if_pos fits]
    rfl
  · have large : mtu < wireLength + length ∨ 65535 < wireLength + length := by
      simp only [wireLength]
      omega
    simp only [if_pos large, if_neg fits]
    rfl

theorem toNat_totalLength_of_fits {length mtu : Nat} (fits : 20 + length ≤ min mtu 65535) :
    (20 + length).toUInt16.toNat = 20 + length := by
  have bound : 20 + length < 65536 := by omega
  exact Nat.mod_eq_of_lt bound

theorem outcome_reread (pad : Bytes) (header : Header) :
    (reread pad).outcome header =
      match parse (header.toBytes ++ pad) with
      | .ok read => (.ok (), read)
      | .error error => (.error error, header) :=
  run_reread header pad

theorem outcome_fillChecksum (header : Header) :
    fillChecksum.outcome header = (.ok (), header.sealed) := by
  change ((fun _ => ()) <$> Header.fillChecksum).run.run header = _
  rw [ExceptT.run_map, StateT.run_map, run_fillChecksum]
  rfl

/-- An operation is carried out and leaves a regular header, or is refused and changes nothing. -/
theorem outcome_cases {operation : Operation} {header : Header} (regular : header.Regular)
    (inRange : operation.InRange) :
    (∃ changed, operation.outcome header = (.ok (), changed) ∧ changed.Regular) ∨
      ∃ error, operation.outcome header = (.error error, header) ∧
        ∀ cause, error ≠ .overflow cause := by
  cases operation with
  | setTimeToLive timeToLive =>
      left
      exact ⟨_, rfl, regular.version, regular.headerWords, regular.covers⟩
  | setIdentification identification =>
      left
      exact ⟨_, rfl, regular.version, regular.headerWords, regular.covers⟩
  | setProtocol protocol =>
      left
      exact ⟨_, rfl, regular.version, regular.headerWords, regular.covers⟩
  | setPayloadLength length mtu =>
      rw [outcome_setPayloadLength inRange]
      by_cases fits : 20 + length ≤ min mtu 65535
      · left
        rw [if_pos fits]
        refine ⟨_, rfl, regular.withTotalLength ?_⟩
        rw [toNat_totalLength_of_fits fits]
        omega
      · right
        rw [if_neg fits]
        refine ⟨_, rfl, ?_⟩
        intro cause
        simp
  | fillChecksum =>
      left
      exact ⟨header.sealed, outcome_fillChecksum header, regular.sealed⟩
  | reread pad =>
      rw [outcome_reread]
      -- A regular header is refused only for octets that are missing behind it.
      by_cases room : header.totalLength.toNat ≤ 20 + pad.length
      · left
        rw [regular.parse_toBytes_append room]
        exact ⟨_, rfl, regular.version, regular.headerWords, regular.covers⟩
      · right
        rw [parse_toBytes_append_of_cut regular.version regular.headerWords (Nat.lt_of_not_le room)]
        refine ⟨_, rfl, ?_⟩
        intro cause
        simp

theorem advance_of_regular {operation : Operation} {header : Header} (regular : header.Regular)
    (inRange : operation.InRange) :
    ∃ changed, advance header operation = .ok changed ∧ changed.Regular := by
  rcases outcome_cases regular inRange with ⟨changed, done, regular'⟩ | ⟨error, refused, other⟩
  · exact ⟨changed, by simp only [advance, done], regular'⟩
  · refine ⟨header, ?_, regular⟩
    simp only [advance, refused]
    cases error with
    | overflow cause => exact absurd rfl (other cause)
    | _ => rfl

end Operation

namespace Header

open Operation

theorem prepare_of_regular {start : Header} {operations : List Operation} (regular : start.Regular)
    (inRange : ∀ operation ∈ operations, operation.InRange) :
    ∃ header, start.prepare operations = .ok header ∧ header.Regular := by
  -- The invariant holds whether an operation is refused or not, so the run never stops early.
  induction operations generalizing start with
  | nil => exact ⟨start, rfl, regular⟩
  | cons operation rest ih =>
      rw [List.forall_mem_cons] at inRange
      rcases advance_of_regular regular inRange.1 with ⟨changed, done, regular'⟩
      rcases ih regular' inRange.2 with ⟨header, prepared, regular''⟩
      refine ⟨header, ?_, regular''⟩
      rw [prepare, List.foldlM_cons, done]
      exact prepared

theorem verifyChecksum_of_prepare {start header : Header} {earlier : List Operation}
    (prepared : start.prepare (earlier ++ [.fillChecksum]) = .ok header) :
    header.verifyChecksum = true := by
  rw [prepare, List.foldlM_append] at prepared
  cases before : earlier.foldlM advance start with
  | error cause =>
      rw [before] at prepared
      contradiction
  | ok unsealed =>
      have done : advance unsealed .fillChecksum = .ok unsealed.sealed := by
        simp only [advance, outcome_fillChecksum]
      rw [before] at prepared
      change (advance unsealed .fillChecksum >>= pure) = .ok header at prepared
      rw [done] at prepared
      cases prepared
      exact unsealed.verifyChecksum_sealed

/--
A header that was made or read can be prepared by any operations in range, and stays of version 4
and five words with a total length that covers it. So both of its lengths are told, and it is read
from its octets in front of as many as it tells. A payload length is set if the packet fits the MTU
and 16 bits, and otherwise refused with the header left as it was. A header that was sealed last
verifies.
-/
theorem stays_regular_while_prepared {start : Header} {operations : List Operation}
    (obtained : start.Obtained) (inRange : ∀ operation ∈ operations, operation.InRange) :
    ∃ header, start.prepare operations = .ok header ∧
      header.version = 4 ∧ header.headerWords = 5 ∧ 20 ≤ header.totalLength.toNat ∧
      header.headerLength = .ok 20 ∧
      header.payloadLength = .ok (header.totalLength.toNat - 20) ∧
      (∀ length mtu, 20 + length < UInt64.size →
        if 20 + length ≤ min mtu 65535 then
          ∃ totalLength : UInt16, totalLength.toNat = 20 + length ∧
            (Operation.setPayloadLength length mtu).outcome header =
              (.ok (), { header with totalLength := totalLength })
        else (Operation.setPayloadLength length mtu).outcome header =
          (.error (.tooLarge (20 + length) mtu), header)) ∧
      (∀ pad, header.totalLength.toNat - 20 ≤ pad.length →
        parse (header.toBytes ++ pad) =
          .ok { header with protocol := header.protocol.canonical }) ∧
      (operations.getLast? = some .fillChecksum → header.verifyChecksum = true) := by
  rcases prepare_of_regular obtained.regular inRange with ⟨header, prepared, regular⟩
  refine ⟨header, prepared, regular.version, regular.headerWords, regular.covers,
    regular.headerLength_eq, regular.payloadLength_eq, ?_, ?_, ?_⟩
  · intro length mtu lengthInRange
    have outcome := outcome_setPayloadLength lengthInRange mtu header
    split
    · rename_i fits
      rw [if_pos fits] at outcome
      exact ⟨_, toNat_totalLength_of_fits fits, outcome⟩
    · rename_i large
      rw [if_neg large] at outcome
      exact outcome
  · intro pad room
    apply regular.parse_toBytes_append
    omega
  · intro last
    rcases List.getLast?_eq_some_iff.mp last with ⟨earlier, rfl⟩
    exact verifyChecksum_of_prepare prepared

/-- Operations that are refused in between, and a bare number that comes back as its protocol. -/
theorem stays_regular_despite_refusals :
    let start : Header := .create .udp ⟨10, 0, 0, 1⟩ ⟨10, 0, 0, 2⟩
    let operations : List Operation := [.setPayloadLength 1381 1400, .setPayloadLength 3 1400,
      .reread [7], .setProtocol (.other 6), .reread [7, 7, 7], .setIdentification 0xFFFF,
      .fillChecksum]
    start.Obtained ∧ (∀ operation ∈ operations, operation.InRange) ∧
      ∃ header, start.prepare operations = .ok header ∧ header.protocol = .tcp ∧
        header.totalLength = 23 ∧ header.headerLength = .ok 20 ∧ header.payloadLength = .ok 3 ∧
        parse (header.toBytes ++ [7, 7, 7]) = .ok header ∧ header.verifyChecksum = true := by
  intro start operations
  have obtained : start.Obtained := .made _ _ _
  have inRange : ∀ operation ∈ operations, operation.InRange := by
    simp [operations, InRange, UInt64.size]
  let unsealed : Header :=
    ⟨4, 5, 0, 23, 0xFFFF, 0, 16, .tcp, 0, ⟨10, 0, 0, 1⟩, ⟨10, 0, 0, 2⟩⟩
  have prepared : start.prepare operations = .ok unsealed.sealed := by
    dsimp only [start, operations, unsealed]
    rfl
  rcases stays_regular_while_prepared obtained inRange with
    ⟨header, prepared', -, -, -, headerLength, payloadLength, -, read, verified⟩
  cases prepared.symm.trans prepared'
  exact ⟨obtained, inRange, _, prepared, rfl, rfl, headerLength, payloadLength,
    read [7, 7, 7] (by decide), verified rfl⟩

end Header

end VirtualNet.Ipv4
