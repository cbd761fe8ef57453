import FlowSchema.Request
import FlowSchema.Wire.Form.Descriptor

namespace FlowSchema.Wire

open FlowSchema.Wire.Field

instance : Form Version where
  type := .version
  read fs :=
    { major? := int32? 1 fs, minor? := int32? 2 fs, patch? := int32? 3 fs, suffix? := text? 4 fs }
  fields v :=
    ofInt32 1 v.major? ++ ofInt32 2 v.minor? ++ ofInt32 3 v.patch? ++ ofText 4 v.suffix?

instance : Form Request where
  type := .request
  read fs :=
    { requested := texts 1 fs
      parameter? := text? 2 fs
      compilerVersion? := record? 3 fs
      files := records 15 fs }
  fields q :=
    ofTexts 1 q.requested ++ ofText 2 q.parameter? ++ ofRecord 3 q.compilerVersion?
      ++ ofRecords 15 q.files

instance : Form OutputFile where
  type := .responseFile
  read fs := { name? := text? 1 fs, insertionPoint? := text? 2 fs, content? := text? 15 fs }
  fields f := ofText 1 f.name? ++ ofText 2 f.insertionPoint? ++ ofText 15 f.content?

instance : Form Response where
  type := .response
  read fs :=
    { error? := text? 1 fs, supportedFeatures? := uint64? 2 fs, files := records 15 fs }
  fields r := ofText 1 r.error? ++ ofUInt64 2 r.supportedFeatures? ++ ofRecords 15 r.files

end FlowSchema.Wire
