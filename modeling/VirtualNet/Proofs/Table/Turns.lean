import VirtualNet.Table
import VirtualNet.Proofs.Session.Steps

/-!
# A turn is a step of the session or a part of one

The steps of a session receive or send a whole message. `Follows` ties a task in the middle of a
message to the session before the step that the message belongs to: what the task has taken and
written since, and that the step will end as the task is going to. A turn that leaves a message
undecided keeps the session, and one that decides it is the step. So whatever steps keep holds of
tasks between any two turns, and a task that has the turns to itself comes to the end that the
session comes to when it runs.
-/

namespace VirtualNet

open Framing

namespace Session

theorem receive_of_read {session : Session} {result : Except FramingError Message}
    {reads : List Arrival} (decided : read [] session.transport.reads = (result, reads)) :
    session.receive =
      afterReceiving { session with transport := { session.transport with reads } } result := by
  simp only [receive, Transport.receivePolled, awaitRead_eq_read, decided]

theorem respond_of_stopped {session : Session} {outcome : Outcome} {error : FramingError}
    {accepted : Bytes} {writes : List Acceptance}
    (stopped : write [] (Message.encode ⟨.response, outcome.wireValue⟩) session.transport.writes =
      (.error error, accepted, writes)) :
    session.respond outcome =
      afterSending
        { session with
          transport :=
            { session.transport with
              writes
              written := session.transport.written ++ accepted } }
        (.error error) := by
  simp only [respond, Transport.sendPolled, awaitWrite_eq_write, stopped]

theorem respond_of_flushed {session : Session} {outcome : Outcome} {accepted : Bytes}
    {writes : List Acceptance} {result : Except FramingError Unit} {flushes : List Flush}
    (wrote : write [] (Message.encode ⟨.response, outcome.wireValue⟩) session.transport.writes =
      (.ok (), accepted, writes))
    (flushed : awaitFlush session.transport.flushes = (result, flushes)) :
    session.respond outcome =
      afterSending
        { session with
          transport :=
            { session.transport with
              writes
              flushes
              written := session.transport.written ++ accepted } }
        result := by
  simp only [respond, Transport.sendPolled, awaitWrite_eq_write, wrote, flushed]

end Session

namespace Task

/-- A task that has come some way with the step that its session takes next. -/
inductive Follows (session : Session) : Task → Prop where
  | idle (still : Transfer.begin session.phase = .idle) : Follows session ⟨session, .idle⟩
  | reading {received : Bytes} {reads : List Arrival} (phase : session.phase = .receiving)
      (room : received.length < 5)
      (taken : session.transport.unread = received ++ reads.flatMap Arrival.data)
      (same : read [] session.transport.reads = read received reads) :
      Follows session
        ⟨{ session with transport := { session.transport with reads } }, .reading received⟩
  | writing {outcome : Outcome} {progress : Writing} {writes : List Acceptance}
      (phase : session.phase = .responding outcome)
      (whole : progress.accepted ++ progress.left = Message.encode ⟨.response, outcome.wireValue⟩)
      (same : write [] (Message.encode ⟨.response, outcome.wireValue⟩) session.transport.writes =
        write progress.accepted progress.left writes) :
      Follows session
        ⟨{ session with transport := { session.transport with writes } }, .writing progress⟩
  | flushing {outcome : Outcome} {accepted : Bytes} {writes : List Acceptance}
      {flushes : List Flush} (phase : session.phase = .responding outcome)
      (wrote : write [] (Message.encode ⟨.response, outcome.wireValue⟩) session.transport.writes =
        (.ok (), accepted, writes))
      (same : awaitFlush session.transport.flushes = awaitFlush flushes) :
      Follows session
        ⟨{ session with
            transport :=
              { session.transport with
                writes
                flushes
                written := session.transport.written ++ accepted } },
          .flushing⟩

theorem follows_enter (session : Session) : Follows session (enter session) := by
  unfold enter
  cases phase : session.phase with
  | receiving => exact .reading phase (by decide) rfl rfl
  | submitting guess => exact .idle (by rw [phase, Transfer.begin])
  | responding outcome => exact .writing phase rfl rfl
  | finished result => exact .idle (by rw [phase, Transfer.begin])

/-- How many more turns a message can take, at most. -/
def load (task : Task) : Nat :=
  let transport := task.session.transport
  match task.transfer with
  | .idle => 0
  | .reading _ => transport.reads.length
  | .writing _ => transport.writes.length + transport.flushes.length + 1
  | .flushing => transport.flushes.length

/-- A task after a turn: in the middle of the same step still, or at its end. -/
inductive Advances (session : Session) (game : Game) (load : Nat) : Task × Game → Prop where
  | goes {after : Task} (follows : Follows session after) (less : after.load < load) :
      Advances session game load (after, game)
  | ends {after : Session} {next : Game} (stepped : session.step game = (after, next)) :
      Advances session game load (enter after, next)

theorem advances_pollReceive {session : Session} (game : Game) {received : Bytes}
    {reads : List Arrival} (phase : session.phase = .receiving) (room : received.length < 5)
    (taken : session.transport.unread = received ++ reads.flatMap Arrival.data)
    (same : read [] session.transport.reads = read received reads) :
    Advances session game reads.length
      (pollReceive { session with transport := { session.transport with reads } } received,
        game) := by
  have part := read_of_pollRead received reads
  unfold pollReceive
  rcases polled : pollRead received reads with ⟨poll, rest⟩
  rw [polled] at part
  cases poll with
  | ready result =>
      apply Advances.ends
      rw [Session.step_of_receiving game phase, Session.receive_of_read (same.trans part)]
  | pending received' =>
      rcases taken_of_pollRead_eq_pending room polled with ⟨roomLeft, kept⟩
      apply Advances.goes (.reading phase roomLeft (taken.trans kept) (same.trans part))
      exact length_lt_of_pollRead_eq_pending polled

theorem advances_pollSend {session : Session} (game : Game) {outcome : Outcome}
    {progress : Writing} {writes : List Acceptance} (phase : session.phase = .responding outcome)
    (whole : progress.accepted ++ progress.left = Message.encode ⟨.response, outcome.wireValue⟩)
    (same : write [] (Message.encode ⟨.response, outcome.wireValue⟩) session.transport.writes =
      write progress.accepted progress.left writes) :
    Advances session game (writes.length + session.transport.flushes.length + 1)
      (pollSend { session with transport := { session.transport with writes } } progress,
        game) := by
  have part := write_of_pollWrite progress.accepted progress.left writes
  unfold pollSend
  rcases polled : pollWrite progress.accepted progress.left writes with ⟨poll, rest⟩
  rw [polled] at part
  cases poll with
  | ready decided =>
      rcases decided with ⟨result, accepted⟩
      cases result with
      | ok _ =>
          -- All of the response is written, but the step is not over before the flush.
          apply Advances.goes (.flushing phase (same.trans part) rfl)
          simp only [load]
          omega
      | error error =>
          apply Advances.ends
          rw [Session.step_of_responding game phase, Session.respond_of_stopped (same.trans part)]
  | pending progress' =>
      have whole' := (whole_of_pollWrite_eq_pending polled).trans whole
      have fewer := length_lt_of_pollWrite_eq_pending polled
      apply Advances.goes (.writing phase whole' (same.trans part))
      simp only [load]
      omega

theorem advances_pollFlush {session : Session} (game : Game) {outcome : Outcome}
    {accepted : Bytes} {writes : List Acceptance} {flushes : List Flush}
    (phase : session.phase = .responding outcome)
    (wrote : write [] (Message.encode ⟨.response, outcome.wireValue⟩) session.transport.writes =
      (.ok (), accepted, writes))
    (same : awaitFlush session.transport.flushes = awaitFlush flushes) :
    Advances session game flushes.length
      (pollFlush
        { session with
          transport :=
            { session.transport with
              writes
              flushes
              written := session.transport.written ++ accepted } },
        game) := by
  have part := awaitFlush_of_pollFlush flushes
  unfold pollFlush
  rcases polled : Framing.pollFlush flushes with ⟨poll, rest⟩
  rw [polled] at part
  cases poll with
  | ready result =>
      apply Advances.ends
      rw [Session.step_of_responding game phase,
        Session.respond_of_flushed wrote (same.trans part)]
  | pending _ =>
      apply Advances.goes (.flushing phase wrote (same.trans part))
      exact length_lt_of_pollFlush_eq_pending polled

/-- A turn goes on with the step of the session or ends it. -/
theorem advances_turn {session : Session} {task : Task} (game : Game)
    (follows : Follows session task) : Advances session game task.load (task.turn game) := by
  cases follows with
  | idle still => exact .ends rfl
  | reading phase room taken same => exact advances_pollReceive game phase room taken same
  | writing phase whole same => exact advances_pollSend game phase whole same
  | flushing phase wrote same => exact advances_pollFlush game phase wrote same

/-- Enough turns in a row end the step of a session. -/
theorem step_of_turns {session : Session} {task : Task} (game : Game)
    (follows : Follows session task) :
    ∃ count, task.turns game count = (enter (session.step game).1, (session.step game).2) := by
  -- A turn that does not end the step leaves the session what it was and takes from the load.
  induction bound : task.load using Nat.strongRecOn generalizing task with
  | ind load ih =>
      have advances := advances_turn game follows
      generalize turned : task.turn game = after at advances
      cases advances with
      | ends stepped =>
          refine ⟨1, ?_⟩
          rw [stepped]
          exact turned
      | goes going less =>
          rw [bound] at less
          rcases ih _ less going rfl with ⟨count, ended⟩
          refine ⟨count + 1, ?_⟩
          simp only [turns, turned]
          exact ended

theorem turns_add (task : Task) (game : Game) (first second : Nat) :
    task.turns game (first + second) =
      (task.turns game first).1.turns (task.turns game first).2 second := by
  induction first generalizing task game with
  | zero => rw [Nat.zero_add, turns]
  | succ first ih =>
      rw [Nat.succ_add, turns, turns]
      exact ih _ _

/-- A session that has the turns to itself comes to the end that it runs to. -/
theorem run_of_turns (session : Session) (game : Game) :
    ∃ count, (enter session).turns game count =
      (enter (session.run game).2.1, (session.run game).2.2) := by
  fun_induction Session.run session game with
  | case1 session game result finished => exact ⟨0, rfl⟩
  | case2 session game unfinished ih =>
      rcases step_of_turns game (follows_enter session) with ⟨first, stepped⟩
      rcases ih with ⟨second, ended⟩
      refine ⟨first + second, ?_⟩
      rw [turns_add, stepped]
      exact ended

end Task

end VirtualNet
