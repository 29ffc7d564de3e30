import VirtualNet.Bytes
import VirtualNet.IoError

/-!
# Byte stream transports

A transport is described by what its calls meet: a list of events for the reads, one for the
writes and one for the flushes, each used up from the front, and the octets that it has accepted
so far. Past the end of its list a read finds the end of the stream, a write is accepted whole and
a flush succeeds.

A call may find the transport not ready. A blocking call then waits, which uses the event up; a
polled call hands control back and is polled again.
-/

namespace VirtualNet

/-- What a read meets. -/
inductive Arrival where
  /-- Octets that have arrived; an empty string is the end of the stream. -/
  | bytes (data : Bytes)
  | failure (error : IoError)
  | notReady
  deriving DecidableEq, Repr

/-- What a write meets. -/
inductive Acceptance where
  /-- All the octets offered are accepted. -/
  | whole
  /-- At most so many of the octets offered are accepted. -/
  | upTo (limit : Nat)
  | failure (error : IoError)
  | notReady
  deriving DecidableEq, Repr

/-- What a flush meets. -/
inductive Flush where
  | done
  | failure (error : IoError)
  | notReady
  deriving DecidableEq, Repr

/-- The octets that a read meets. -/
def Arrival.data : Arrival → Bytes
  | .bytes data => data
  | _ => []

/-- A transport by what its calls will meet, and the octets it has accepted. -/
structure Transport where
  reads : List Arrival
  writes : List Acceptance
  flushes : List Flush
  written : Bytes
  deriving DecidableEq, Repr

namespace Transport

/-- A transport that delivers the given arrivals and accepts everything. -/
def ofReads (reads : List Arrival) : Transport := ⟨reads, [], [], []⟩

/-- The octets that have arrived and have not been read. -/
def unread (transport : Transport) : Bytes :=
  transport.reads.flatMap Arrival.data

end Transport

end VirtualNet
