import FlowSchema.Generation
import FlowSchema.Request

namespace FlowSchema

def readOptions (parameter : String) : Traced Options := do
  let o ← Options.parse parameter
  Traced.record (.options o)
  return o

def Output.file (o : Output) : OutputFile where
  name? := some o.name
  content? := some o.content

/-- Fields that are marked optional in proto3 are understood. -/
def features : UInt64 := 1

structure Answer where
  log : List Record
  response : Response

def answer (o : Options) (q : Request) : Answer :=
  let run := generate o q.files q.requested
  match run.outcome with
  | .ok outputs =>
    ⟨run.log, { supportedFeatures? := some features, files := outputs.map Output.file }⟩
  | .error e =>
    ⟨run.log ++ [.failure e], { error? := some e.message, supportedFeatures? := some features }⟩

end FlowSchema
