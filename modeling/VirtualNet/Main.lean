import VirtualNet.CommandLine.GuessTool
import VirtualNet.CommandLine.LinkTool

/-!
# The command line

`vip` and `guess`, as the first argument, select the link tool and the guess tool. The program
opens no sockets: it runs as on a host from which no peer can be reached, so that everything short
of sending is done and what would leave the host is reported as a failure.
-/

namespace VirtualNet.CommandLine

/-- What a command reports; `input` is all that the player types. -/
def run (input : Bytes) : List String → Report
  | "vip" :: words =>
    match LinkTool.command words with
    | .error stop => .stopped stop
    | .ok (.send request) =>
      LinkTool.sendReport (LinkTool.send (.failing .networkUnreachable) request).1
    | .ok (.receive bindAddress) => LinkTool.receiveReport bindAddress []
  | "guess" :: words =>
    match GuessTool.command words with
    | .error stop => .stopped stop
    | .ok (.server config) =>
      (GuessTool.serverReport config [] (toString config.bindAddress) "" []).1
    | .ok (.client _) =>
      let ask := Client.guessOnce (.error .networkUnreachable)
      (GuessTool.play ask (Transport.ofReads []) (Text.lines input)).1
  | _ => .stopped .misuse

/-- Whether a command reads what the player types. -/
def readsInput : List String → Bool
  | "guess" :: "client" :: _ => true
  | _ => false

end VirtualNet.CommandLine

open VirtualNet.CommandLine in
/-- Runs the command that the arguments name. -/
def main (arguments : List String) : IO UInt32 := do
  let input ←
    if readsInput arguments then (← IO.getStdin).readToEnd else pure ""
  let report := run input.toUTF8.toList arguments
  for emission in report.emissions do
    match emission with
    | .output text => IO.print text
    | .log entry => IO.eprintln (toString entry)
    | .notice text => IO.eprintln text
  return report.exitCode.toUInt32
