import FlowSchema.Descriptor

namespace FlowSchema

structure Version where
  major? : Option Int32 := none
  minor? : Option Int32 := none
  patch? : Option Int32 := none
  suffix? : Option String := none
deriving DecidableEq

structure Request where
  requested : List String := []
  parameter? : Option String := none
  compilerVersion? : Option Version := none
  files : List FileDescriptor := []

structure OutputFile where
  name? : Option String := none
  insertionPoint? : Option String := none
  content? : Option String := none
deriving DecidableEq

structure Response where
  error? : Option String := none
  supportedFeatures? : Option UInt64 := none
  files : List OutputFile := []
deriving DecidableEq

end FlowSchema
