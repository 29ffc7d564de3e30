import VirtualNet.Proofs.Table.Account

/-!
# The guesses around a game have one order

However the sessions around a game take their turns, the game has seen their guesses in some order,
one after another, and each session has seen the outcomes that its guesses have in this order.
`Ordered` says so between two turns. A turn that submits a guess puts it at the end of the order,
and any other turn leaves the order as it is.
-/

namespace VirtualNet

open Framing Session

namespace Task

/-- A task whose session has kept its account and has submitted these guesses. -/
def Serves (origin : Transport) (submissions : List Submission) (task : Task) : Prop :=
  ∃ session, Follows session task ∧ Accounted origin session ∧ session.submissions = submissions

end Task

namespace Table

/-- The guesses of one client in an order of guesses, each with its client. -/
def submissionsOf (client : Nat) (order : List (Nat × Submission)) : List Submission :=
  (order.filter fun entry => entry.1 = client).map Prod.snd

/-- An order of all the guesses submitted at a table since its game was `first`. -/
structure Ordered (first : Game) (clients : List (SessionMode × Transport))
    (order : List (Nat × Submission)) (table : Table) : Prop where
  played : first.submitAll (order.map fun entry => entry.2.guess) =
    .ok (order.map fun entry => entry.2.outcome, table.game)
  known : ∀ entry ∈ order, entry.1 < clients.length
  seats : table.tasks.length = clients.length
  serves : ∀ client seat task, clients[client]? = some seat → table.tasks[client]? = some task →
    Task.Serves seat.2 (submissionsOf client order) task

/-- One task has had a turn, and the order of the guesses has grown by no guess of another. -/
theorem Ordered.set {first : Game} {clients : List (SessionMode × Transport)}
    {order later : List (Nat × Submission)} {table : Table} {client : Nat} {task : Task}
    {game : Game} (ordered : Ordered first clients order table)
    (played : first.submitAll (later.map fun entry => entry.2.guess) =
      .ok (later.map fun entry => entry.2.outcome, game))
    (known : ∀ entry ∈ later, entry.1 < clients.length)
    (own : ∀ seat, clients[client]? = some seat → task.Serves seat.2 (submissionsOf client later))
    (others : ∀ other, other ≠ client → submissionsOf other later = submissionsOf other order) :
    Ordered first clients later ⟨game, table.tasks.set client task⟩ := by
  refine ⟨played, known, ?_, ?_⟩
  · rw [List.length_set]
    exact ordered.seats
  · intro other seat found' found taken
    by_cases same : other = client
    · subst same
      rw [List.getElem?_set_self'] at taken
      rcases Option.map_eq_some_iff.mp taken with ⟨_, _, rfl⟩
      exact own seat found
    · rw [List.getElem?_set_ne (Ne.symm same)] at taken
      rw [others other same]
      exact ordered.serves other seat found' found taken

end Table

end VirtualNet
