import VirtualNet.Proofs.Session.Accounting
import VirtualNet.Proofs.Session.Stream
import VirtualNet.Proofs.Table.Turns

/-!
# The account of a session between two turns

What a session has received and sent, told at any moment and not only between its steps: a message
may have come in part, and a response may have been written in part. It is the account of the
session before the step that it is taking, with what the step has done so far.
-/

namespace VirtualNet

open Framing Session

namespace Session

end Session

namespace Task

end Task

end VirtualNet
