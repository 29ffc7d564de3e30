import VirtualNet.Address.Socket
import VirtualNet.Bytes
import VirtualNet.IoError

/-!
# Datagram sockets

A socket through which datagrams are sent is described by what its sends will meet, each of them
using up the first of a list, and by the datagrams that have left through it. Past the end of the
list a datagram leaves whole. Of a datagram that leaves in part the socket reports how many octets
have left, and no failure.
-/

namespace VirtualNet

/-- What the sending of a datagram meets. -/
inductive Dispatch where
  /-- The datagram leaves whole. -/
  | whole
  /-- At most so many of its octets leave. -/
  | upTo (limit : Nat)
  | failure (error : IoError)
  deriving DecidableEq, Repr

/-- A datagram that has left for a peer. -/
structure Transmission where
  peer : SocketAddress
  datagram : Bytes
  deriving DecidableEq, Repr

/-- A socket by what its sends will meet, and what has left through it. -/
structure DatagramSocket where
  sends : List Dispatch
  transmitted : List Transmission
  deriving DecidableEq, Repr

namespace DatagramSocket

/-- A socket through which nothing leaves at the next attempt. -/
def failing (error : IoError) : DatagramSocket := ⟨[.failure error], []⟩

/-- Sends a datagram; the result is the number of its octets that have left. -/
def sendTo (socket : DatagramSocket) (peer : SocketAddress) (datagram : Bytes) :
    Except IoError Nat × DatagramSocket :=
  match socket.sends with
  | [] => (.ok datagram.length, ⟨[], socket.transmitted ++ [⟨peer, datagram⟩]⟩)
  | .whole :: rest => (.ok datagram.length, ⟨rest, socket.transmitted ++ [⟨peer, datagram⟩]⟩)
  | .upTo limit :: rest =>
    (.ok (min limit datagram.length),
      ⟨rest, socket.transmitted ++ [⟨peer, datagram.take limit⟩]⟩)
  | .failure error :: rest => (.error error, ⟨rest, socket.transmitted⟩)

end DatagramSocket

end VirtualNet
