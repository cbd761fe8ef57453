import FlowSchema.Descriptor
import FlowSchema.Wire.Form

namespace FlowSchema.Wire

open FlowSchema.Wire.Field

instance : Form FieldOptions where
  type := .fieldOptions
  read fs := { ctype? := int32? 1 fs, jsType? := int32? 6 fs }
  fields o := ofInt32 1 o.ctype? ++ ofInt32 6 o.jsType?

instance : Form FieldDescriptor where
  type := .field
  read fs :=
    { name? := text? 1 fs
      extendee? := text? 2 fs
      number? := int32? 3 fs
      label? := int32? 4 fs
      type? := int32? 5 fs
      typeName? := text? 6 fs
      defaultValue? := text? 7 fs
      options? := record? 8 fs
      oneofIndex? := int32? 9 fs
      jsonName? := text? 10 fs
      proto3Optional? := bool? 17 fs }
  fields f :=
    ofText 1 f.name? ++ ofText 2 f.extendee? ++ ofInt32 3 f.number? ++ ofInt32 4 f.label?
      ++ ofInt32 5 f.type? ++ ofText 6 f.typeName? ++ ofText 7 f.defaultValue?
      ++ ofRecord 8 f.options? ++ ofInt32 9 f.oneofIndex? ++ ofText 10 f.jsonName?
      ++ ofBool 17 f.proto3Optional?

instance : Form EnumValueDescriptor where
  type := .enumValue
  read fs := { name? := text? 1 fs, number? := int32? 2 fs }
  fields v := ofText 1 v.name? ++ ofInt32 2 v.number?

instance : Form EnumDescriptor where
  type := .enum
  read fs := { name? := text? 1 fs, values := records 2 fs }
  fields e := ofText 1 e.name? ++ ofRecords 2 e.values

instance : Form OneofDescriptor where
  type := .oneof
  read fs := { name? := text? 1 fs }
  fields o := ofText 1 o.name?

instance : Form MessageOptions where
  type := .messageOptions
  read fs := { deprecated? := bool? 3 fs, mapEntry? := bool? 7 fs }
  fields o := ofBool 3 o.deprecated? ++ ofBool 7 o.mapEntry?

namespace MessageForm

def assemble (nested : List MessageDescriptor) (fs : List Field) : MessageDescriptor where
  name? := text? 1 fs
  fields := records 2 fs
  nested := nested
  enums := records 4 fs
  extensions := records 6 fs
  options? := record? 7 fs
  oneofs := records 8 fs

mutual

def nestedIn : Field → List MessageDescriptor
  | message 3 part => [assemble (nested part) part]
  | _ => []

def nested : List Field → List MessageDescriptor
  | [] => []
  | f :: fs => nestedIn f ++ nested fs

end

def read (fs : List Field) : MessageDescriptor := assemble (nested fs) fs

mutual

def fields : MessageDescriptor → List Field
  | { name?, fields, nested, enums, extensions, options?, oneofs } =>
    ofText 1 name? ++ ofRecords 2 fields ++ ofNested nested ++ ofRecords 4 enums
      ++ ofRecords 6 extensions ++ ofRecord 7 options? ++ ofRecords 8 oneofs

def ofNested : List MessageDescriptor → List Field
  | [] => []
  | m :: ms => message 3 (fields m) :: ofNested ms

end

end MessageForm

instance : Form MessageDescriptor where
  type := .message
  read := MessageForm.read
  fields := MessageForm.fields

instance : Form ServiceDescriptor where
  type := .service
  read _ := {}
  fields _ := []

instance : Form FileDescriptor where
  type := .file
  read fs :=
    { name? := text? 1 fs
      package? := text? 2 fs
      dependencies := texts 3 fs
      messages := records 4 fs
      enums := records 5 fs
      services := records 6 fs
      extensions := records 7 fs
      dialect? := text? 12 fs }
  fields f :=
    ofText 1 f.name? ++ ofText 2 f.package? ++ ofTexts 3 f.dependencies ++ ofRecords 4 f.messages
      ++ ofRecords 5 f.enums ++ ofRecords 6 f.services ++ ofRecords 7 f.extensions
      ++ ofText 12 f.dialect?

end FlowSchema.Wire
