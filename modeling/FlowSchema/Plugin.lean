import FlowSchema.Answer
import FlowSchema.Wire.Form.Request

namespace FlowSchema.Plugin

def respond (q : Request) : Answer :=
  let options := readOptions (q.parameter?.getD "")
  match options.outcome with
  | .ok o =>
    let a := answer o q
    { a with log := options.log ++ a.log }
  | .error e => ⟨options.log, { error? := some e.message }⟩

/-- What a run leaves. Of the `log` its errors are written to `stderr`, a line each. The time that
comes in front of such a line is left out here. -/
structure Result where
  exitCode : UInt8
  stdout : List UInt8
  stderr : String
  log : List Record
deriving DecidableEq

def errorLines (log : List Record) : String :=
  String.join ((log.filter (·.level = "ERROR")).map (·.text ++ "\n"))

def run (input : List UInt8) : Result :=
  match Wire.decodeAs Request input with
  | .ok q =>
    let a := respond q
    ⟨0, Wire.encode a.response, errorLines a.log, a.log⟩
  | .error e => ⟨1, [], "invalid CodeGeneratorRequest: " ++ e.message ++ "\n", []⟩

end FlowSchema.Plugin
