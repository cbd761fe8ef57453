import FlowSchema.Plugin

open FlowSchema

def main : IO UInt32 := do
  let input ← (← IO.getStdin).readBinToEnd
  let result := Plugin.run input.toList
  let stdout ← IO.getStdout
  stdout.write ⟨result.stdout.toArray⟩
  stdout.flush
  IO.eprint result.stderr
  return result.exitCode.toUInt32
