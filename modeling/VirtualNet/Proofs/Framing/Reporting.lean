import VirtualNet.Proofs.Framing.Exchange

/-!
# What sending a message reports

A send meets the acceptances and the flushes of its transport one after another. A write goes on
while the acceptances are willing and leave something to write; the first that is not willing stops
it. Where none stops it, the message is accepted whole and the flush decides. Interruptions count
for nothing, except in a flush. `Transport.Sends` says all this of one call by what it met.
-/

namespace VirtualNet

namespace Acceptance

/-- Whether a write that meets this is tried again as if nothing had happened. -/
def interrupted : Acceptance → Bool
  | .failure error => error.kind = .interrupted
  | _ => false

/-- The failure that a write which meets this stops with. -/
def failure? : Acceptance → Option IoError
  | .failure error => if error.kind = .interrupted then none else some error
  | _ => none

end Acceptance

namespace Framing

/--
Of the events in store, and of the one that stands past the end of the store, these were met in
turn, and those are left in store.
-/
structure Meets {Event : Type} (beyond : Event) (store met left : List Event) : Prop where
  front : met <+: store ++ [beyond]
  rest : left = store.drop met.length

section Meets

variable {Event : Type} {beyond event : Event} {store met left : List Event}

theorem Meets.nothing (beyond : Event) (store : List Event) : Meets beyond store [] store :=
  ⟨List.nil_prefix, rfl⟩

theorem Meets.cons (event : Event) (later : Meets beyond store met left) :
    Meets beyond (event :: store) (event :: met) left :=
  ⟨(List.prefix_cons_inj event).mpr later.front, later.rest⟩

theorem Meets.single (beyond event : Event) (store : List Event) :
    Meets beyond (event :: store) [event] store :=
  (Meets.nothing beyond store).cons event

end Meets

/-- The octets that acceptances take one after another where a whole message would be taken. -/
def granted : List Acceptance → Nat
  | [] => 0
  | .whole :: rest => Message.wireLength + granted rest
  | .upTo limit :: rest => limit + granted rest
  | .failure _ :: rest => granted rest
  | .notReady :: rest => granted rest

theorem granted_append (events later : List Acceptance) :
    granted (events ++ later) = granted events + granted later := by
  fun_induction granted events with
  | case1 => simp
  | case2 rest ih => simp [granted, ih, Nat.add_assoc]
  | case3 limit rest ih => simp [granted, ih, Nat.add_assoc]
  | case4 error rest ih => simp [granted, ih]
  | case5 rest ih => simp [granted, ih]

/--
How a write may end that has so many octets to write, with the acceptances that it meets. All of
them but the last leave it something to write, and the last ends it.
-/
inductive Ending (size : Nat) : Except FramingError Unit → List Acceptance → Prop where
  | complete {last : Acceptance} (used : List Acceptance)
      (willing : ∀ event ∈ used ++ [last], event.Willing) (more : granted used < size)
      (enough : size ≤ granted (used ++ [last])) : Ending size (.ok ()) (used ++ [last])
  | refused {written expected : Nat} (used : List Acceptance)
      (willing : ∀ event ∈ used, event.Willing) (more : granted used < size) :
      Ending size (.error (.incompleteWrite written expected)) (used ++ [.upTo 0])
  | failed {error : IoError} (used : List Acceptance) (willing : ∀ event ∈ used, event.Willing)
      (more : granted used < size) (final : error.kind ≠ .interrupted) :
      Ending size (.error (.transport error)) (used ++ [.failure error])

section Ending

variable {size : Nat} {result : Except FramingError Unit} {used : List Acceptance}
  {event : Acceptance}

theorem Ending.atOnce (willing : event.Willing) (more : 0 < size)
    (enough : size ≤ granted [event]) : Ending size (.ok ()) [event] :=
  .complete [] (List.forall_mem_singleton.mpr willing) more enough

/-- A write that goes on after an acceptance ends as the rest of it does. -/
theorem Ending.cons (willing : event.Willing) (less : granted [event] < size)
    (ending : Ending (size - granted [event]) result used) :
    Ending size result (event :: used) := by
  have total (passed : List Acceptance) :
      granted (event :: passed) = granted [event] + granted passed := granted_append [event] passed
  cases ending with
  | complete passed later more enough =>
      apply Ending.complete (event :: passed) (List.forall_mem_cons.mpr ⟨willing, later⟩)
      · rw [total]
        omega
      · rw [List.cons_append, total]
        omega
  | refused passed later more =>
      apply Ending.refused (event :: passed) (List.forall_mem_cons.mpr ⟨willing, later⟩)
      rw [total]
      omega
  | failed passed later more final =>
      refine Ending.failed (event :: passed) (List.forall_mem_cons.mpr ⟨willing, later⟩) ?_ final
      rw [total]
      omega

end Ending

/--
The flushes that one call meets. The last of them decides; a polled call waits for those that are
not ready, a blocking one does not.
-/
inductive Decisive : Waiting → List Flush → Prop where
  | blocking (last : Flush) : Decisive .blocking [last]
  | polled (waits : Nat) {last : Flush} (ready : last ≠ .notReady) :
      Decisive .polled (List.replicate waits .notReady ++ [last])

/-- How a flush ends that meets the given events. -/
structure Flushing (waiting : Waiting) (result : Except FramingError Unit) (met : List Flush) :
    Prop where
  decisive : Decisive waiting met
  failed_iff : ∀ error, result = .error (.transport error) ↔ .failure error ∈ met
  decided : result = .ok () ∨ ∃ error, result = .error (.transport error)

section Flushing

variable {waiting : Waiting} {result : Except FramingError Unit} {met : List Flush}

theorem Flushing.wait (flushing : Flushing .polled result met) :
    Flushing .polled result (.notReady :: met) := by
  rcases flushing with ⟨decisive, failed_iff, decided⟩
  cases decisive with
  | polled waits ready => exact ⟨.polled (waits + 1) ready, by simpa using failed_iff, decided⟩

end Flushing

/--
A result that tells the truth about a send, which wrote these octets and met these acceptances and
flushes. The message was written whole and flushed, or a write was refused after the octets that are
counted, or the result is the first failure that is final.
-/
structure Truthful (waiting : Waiting) (message : Message) (result : Except FramingError Unit)
    (sent : Bytes) (used : List Acceptance) (flushed : List Flush) : Prop where
  first : sent <+: message.encode
  counted : sent.length = min 5 (granted used)
  /-- All acceptances but the last let the write go on, and left it something to write. -/
  willing : ∀ event ∈ used.dropLast, event.Willing
  unfinished : granted used.dropLast < 5
  flushes : if sent = message.encode then Decisive waiting flushed else flushed = []
  ok_iff : result = .ok () ↔ sent = message.encode ∧ ∀ error, .failure error ∉ flushed
  refused_iff : ∀ count size, result = .error (.incompleteWrite count size) ↔
    .upTo 0 ∈ used ∧ count = sent.length ∧ size = 5
  short_of_refused : .upTo 0 ∈ used → sent.length < 5
  failed_iff : ∀ error, result = .error (.transport error) ↔
    used.findSome? Acceptance.failure? = some error ∨ .failure error ∈ flushed
  decided : result = .ok () ∨ .upTo 0 ∈ used ∨ ∃ error, result = .error (.transport error)

section Truthful

variable {waiting : Waiting} {message : Message} {result : Except FramingError Unit} {sent : Bytes}
  {used : List Acceptance} {flushed : List Flush}

end Truthful

end Framing

namespace Transport

open Framing

/--
What a call that sends a message makes of a transport: it writes octets, and the acceptances and
flushes that it meets are taken off the transport. Nothing is said about the reads.
-/
def Sends (waiting : Waiting) (message : Message) (before : Transport)
    (result : Except FramingError Unit) (after : Transport) : Prop :=
  ∃ sent used flushed, after.written = before.written ++ sent ∧
    Meets .whole before.writes used after.writes ∧
    Meets .done before.flushes flushed after.flushes ∧
    Truthful waiting message result sent used flushed

theorem reads_sendBy (waiting : Waiting) (transport : Transport) (message : Message) :
    (transport.sendBy waiting message).2.reads = transport.reads := by
  rw [sendBy_eq]
  split
  · rfl
  · rfl

/--
Messages were sent one after another since the transport was `origin`, each with success, whatever
was read meanwhile.
-/
inductive SentAll (waiting : Waiting) (origin : Transport) : List Message → Transport → Prop where
  | none {now : Transport} (written : now.written = origin.written)
      (writes : now.writes = origin.writes) (flushes : now.flushes = origin.flushes) :
      SentAll waiting origin [] now
  | more {messages : List Message} {message : Message} {between now : Transport}
      (earlier : SentAll waiting origin messages between)
      (last : Sends waiting message between (.ok ()) now) :
      SentAll waiting origin (messages ++ [message]) now

section SentAll

variable {waiting : Waiting} {message : Message} {origin now after : Transport}
  {messages : List Message} {result : Except FramingError Unit}

theorem Sends.written (sends : Sends waiting message origin result now) :
    ∃ sent, now.written = origin.written ++ sent ∧ sent <+: message.encode := by
  rcases sends with ⟨sent, used, flushed, written, -, -, truthful⟩
  exact ⟨sent, written, truthful.first⟩

theorem Sends.written_of_ok (sends : Sends waiting message origin (.ok ()) now) :
    now.written = origin.written ++ message.encode := by
  rcases sends with ⟨sent, used, flushed, written, -, -, truthful⟩
  rcases truthful.ok_iff.mp rfl with ⟨whole, -⟩
  rw [written, whole]

theorem SentAll.written (sent : SentAll waiting origin messages now) :
    now.written = origin.written ++ messages.flatMap Message.encode := by
  induction sent with
  | none written _ _ => rw [written, List.flatMap_nil, List.append_nil]
  | more earlier last ih =>
      rw [last.written_of_ok, ih, List.flatMap_append, List.flatMap_singleton, List.append_assoc]

end SentAll

/-- An interruption is not counted, and a write that is refused is. -/
example :
    ((⟨[], [.upTo 2, .failure ⟨.interrupted, "again"⟩, .upTo 0, .whole], [], []⟩ :
      Transport).sendBy .blocking ⟨.guess, 7⟩) =
        (.error (.incompleteWrite 2 5), ⟨[], [.whole], [], [0, 0]⟩) := by
  rfl

end Transport

end VirtualNet
