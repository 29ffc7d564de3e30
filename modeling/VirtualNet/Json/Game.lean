import VirtualNet.Config
import VirtualNet.Json.Form

/-!
# Serialized messages, games and configurations
-/

namespace VirtualNet.Json

instance : Form MessageKind where
  toJson kind := .string kind.name
  ofJson? json :=
    match variant? json with
    | some "Guess" => some .guess
    | some "Response" => some .response
    | _ => none

instance : Form Message where
  toJson message := .object [
    ("message_type", toJson message.kind),
    ("number", toJson message.number)]
  ofJson? json := do
    let record ← record? ["message_type", "number"] json
    return {
      kind := ← record.field? "message_type"
      number := ← record.field? "number" }

instance : Form Outcome where
  toJson
    | .lower => .string "Lower"
    | .higher => .string "Higher"
    | .hit => .string "Match"
  ofJson? json :=
    match variant? json with
    | some "Lower" => some .lower
    | some "Higher" => some .higher
    | some "Match" => some .hit
    | _ => none

instance : Form Snapshot where
  toJson snapshot := .object [
    ("target", toJson snapshot.target),
    ("total_guesses", toJson snapshot.totalGuesses),
    ("rounds_won", toJson snapshot.roundsWon)]
  ofJson? json := do
    let record ← record? ["target", "total_guesses", "rounds_won"] json
    return {
      target := ← record.field? "target"
      totalGuesses := ← record.field? "total_guesses"
      roundsWon := ← record.field? "rounds_won" }

instance : Form TargetRange where
  toJson range := .object [
    ("target_min", toJson range.lower),
    ("target_max", toJson range.upper)]
  ofJson? json := do
    let record ← record? ["target_min", "target_max"] json
    return {
      lower := ← record.field? "target_min"
      upper := ← record.field? "target_max" }

instance : Form SessionMode where
  toJson
    | .singleGuess => .string "SingleGuess"
    | .persistent => .string "Persistent"
  ofJson? json :=
    match variant? json with
    | some "SingleGuess" => some .singleGuess
    | some "Persistent" => some .persistent
    | _ => none

/-- A limit on the connections that is missing or null is no limit. -/
instance : Form ServerConfig where
  toJson config := .object [
    ("bind_addr", toJson config.bindAddress),
    ("max_connections", (config.maxConnections.map toJson).getD .null),
    ("session_mode", toJson config.sessionMode),
    ("game", toJson config.range)]
  ofJson? json := do
    let record ← record? ["bind_addr", "max_connections", "session_mode", "game"] json
    return {
      bindAddress := ← record.field? "bind_addr"
      maxConnections := ← record.optionalField? "max_connections"
      sessionMode := ← record.field? "session_mode"
      range := ← record.field? "game" }

instance : Form LinkConfig where
  toJson config := .object [
    ("bind_addr", toJson config.bindAddress),
    ("mtu", toJson config.mtu),
    ("ttl", toJson config.timeToLive)]
  ofJson? json := do
    let record ← record? ["bind_addr", "mtu", "ttl"] json
    return {
      bindAddress := ← record.field? "bind_addr"
      mtu := ← record.field? "mtu"
      timeToLive := ← record.field? "ttl" }

end VirtualNet.Json
