import VirtualNet.Framing.Polling

/-!
# Polled transfers come to what blocking ones come to

A transfer that is polled until it is decided reads and writes exactly as a blocking one: a poll
that finds the transport not ready leaves off where the blocking call waits. Flushes differ, since
a blocking flush that is not ready is over at once.
-/

namespace VirtualNet

namespace Framing

/-- One poll does a part of the blocking read. -/
theorem read_of_pollRead (received : Bytes) (reads : List Arrival) :
    match pollRead received reads with
    | (.ready result, rest) => read received reads = (result, rest)
    | (.pending received', rest) => read received reads = read received' rest := by
  fun_induction pollRead received reads with
  | case1 => rfl
  | case2 received data rest empty => simp only [read, if_pos empty]
  | case3 received data rest room nonempty short ih =>
      have step : read received (.bytes data :: rest) = read (received ++ data) rest := by
        rw [read, if_neg nonempty, if_pos short]
      rw [step]
      exact ih
  | case4 received data rest room nonempty long =>
      show read received (.bytes data :: rest) = _
      rw [read, if_neg nonempty, if_neg long]
  | case5 received error rest interrupted ih =>
      simpa only [read, if_pos interrupted] using ih
  | case6 received error rest failed => simp only [read, if_neg failed]
  | case7 => rfl

/-- What a poll has taken it keeps, as long as the message is not complete. -/
theorem taken_of_pollRead_eq_pending {received received' : Bytes} {reads rest : List Arrival}
    (room : received.length < 5) (polled : pollRead received reads = (.pending received', rest)) :
    received'.length < 5 ∧
      received ++ reads.flatMap Arrival.data = received' ++ rest.flatMap Arrival.data := by
  fun_induction pollRead received reads with
  | case1 => cases polled
  | case2 => cases polled
  | case3 received data rest' space nonempty short ih =>
      have stillRoom : (received ++ data).length < 5 := by
        simp only [Message.wireLength, space] at short
        rw [List.length_append]
        omega
      rcases ih stillRoom polled with ⟨fewer, same⟩
      refine ⟨fewer, ?_⟩
      rw [← same, List.flatMap_cons, Arrival.data, List.append_assoc]
  | case4 => cases polled
  | case5 received error rest' interrupted ih => exact ih room polled
  | case6 => cases polled
  | case7 received rest' =>
      cases polled
      exact ⟨room, rfl⟩

theorem awaitRead_eq_read (received : Bytes) (reads : List Arrival) :
    awaitRead received reads = read received reads := by
  fun_induction awaitRead received reads with
  | case1 received reads result rest polled =>
      have step := read_of_pollRead received reads
      rw [polled] at step
      exact step.symm
  | case2 received reads received' rest polled ih =>
      have step := read_of_pollRead received reads
      rw [polled] at step
      exact ih.trans step.symm

/-- One poll does a part of the blocking write. -/
theorem write_of_pollWrite (accepted left : Bytes) (writes : List Acceptance) :
    match pollWrite accepted left writes with
    | (.ready (result, accepted'), rest) => write accepted left writes = (result, accepted', rest)
    | (.pending writing, rest) =>
      write accepted left writes = write writing.accepted writing.left rest := by
  fun_induction pollWrite accepted left writes with
  | case1 => rfl
  | case2 => rfl
  | case3 accepted left rest => simp only [write, if_true]
  | case4 accepted left limit rest progress short ih =>
      simpa only [write, if_neg progress, if_pos short] using ih
  | case5 accepted left limit rest progress long =>
      simp only [write, if_neg progress, if_neg long]
  | case6 accepted left error rest interrupted ih =>
      simpa only [write, if_pos interrupted] using ih
  | case7 accepted left error rest failed => simp only [write, if_neg failed]
  | case8 => rfl

/-- A poll moves octets from those that are left to those that are accepted. -/
theorem whole_of_pollWrite_eq_pending {accepted left : Bytes} {progress : Writing}
    {writes rest : List Acceptance}
    (polled : pollWrite accepted left writes = (.pending progress, rest)) :
    progress.accepted ++ progress.left = accepted ++ left := by
  fun_induction pollWrite accepted left writes with
  | case1 => cases polled
  | case2 => cases polled
  | case3 => cases polled
  | case4 accepted left limit rest' some short ih =>
      rw [ih polled, List.append_assoc, List.take_append_drop]
  | case5 => cases polled
  | case6 accepted left error rest' interrupted ih => exact ih polled
  | case7 => cases polled
  | case8 accepted left rest' =>
      cases polled
      rfl

theorem awaitWrite_eq_write (accepted left : Bytes) (writes : List Acceptance) :
    awaitWrite accepted left writes = write accepted left writes := by
  fun_induction awaitWrite accepted left writes with
  | case1 accepted left writes result accepted' rest polled =>
      have step := write_of_pollWrite accepted left writes
      rw [polled] at step
      exact step.symm
  | case2 accepted left writes writing rest polled ih =>
      have step := write_of_pollWrite accepted left writes
      rw [polled] at step
      exact ih.trans step.symm

@[simp]
theorem awaitFlush_nil : awaitFlush [] = (.ok (), []) := by
  simp [awaitFlush, pollFlush]

@[simp]
theorem awaitFlush_done (rest : List Flush) : awaitFlush (.done :: rest) = (.ok (), rest) := by
  simp [awaitFlush, pollFlush]

@[simp]
theorem awaitFlush_failure (error : IoError) (rest : List Flush) :
    awaitFlush (.failure error :: rest) = (.error (.transport error), rest) := by
  simp [awaitFlush, pollFlush]

@[simp]
theorem awaitFlush_notReady (rest : List Flush) :
    awaitFlush (.notReady :: rest) = awaitFlush rest := by
  rw [awaitFlush]
  simp [pollFlush]

/-- One poll does a part of the flush that is awaited. -/
theorem awaitFlush_of_pollFlush (flushes : List Flush) :
    match pollFlush flushes with
    | (.ready result, rest) => awaitFlush flushes = (result, rest)
    | (.pending (), rest) => awaitFlush flushes = awaitFlush rest := by
  cases flushes with
  | nil => exact awaitFlush_nil
  | cons flush rest =>
      cases flush with
      | done => exact awaitFlush_done rest
      | failure error => exact awaitFlush_failure error rest
      | notReady => exact awaitFlush_notReady rest

end Framing

end VirtualNet
