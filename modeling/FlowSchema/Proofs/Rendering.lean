import FlowSchema.Generation
import FlowSchema.Proofs.Outcome

namespace FlowSchema

open Identifier Traced

def EnumDescriptor.table (outer : String) (e : EnumDescriptor) : Declaration :=
  .table (nested outer e.name) (e.values.map fun v => (v.name, v.number))

@[simp] theorem EnumDescriptor.declaration_outcome (outer : String) (e : EnumDescriptor) :
    (e.declaration outer).outcome = .ok (e.table outer) := rfl

theorem OneofDescriptor.isSynthetic_iff {members : List FieldDescriptor} :
    isSynthetic members = true ↔ members ≠ [] ∧ ∀ f ∈ members, f.proto3Optional = true := by
  simp [isSynthetic]

def OneofDescriptor.table (outer : String) (o : OneofDescriptor)
    (members : List FieldDescriptor) : Declaration :=
  .table (nested outer (oneofName o.name ++ "Case"))
    ((constantName o.name ++ "_NOT_SET", 0)
      :: members.map fun f => (constantName f.name, f.number))

theorem OneofDescriptor.declarations_outcome (outer : String) (o : OneofDescriptor)
    (members : List FieldDescriptor) :
    (o.declarations outer members).outcome =
      .ok (if isSynthetic members then [] else [o.table outer members]) := by
  unfold declarations
  split <;> rfl

namespace MessageDescriptor

def tables (outer : String) (m : MessageDescriptor) : List Declaration :=
  m.oneofs.zipIdx.flatMap fun (o, i) =>
    if OneofDescriptor.isSynthetic (m.members i) then [] else [o.table outer (m.members i)]

theorem oneofDeclarations_outcome (outer : String) (m : MessageDescriptor) :
    (m.oneofDeclarations outer).outcome = .ok (m.tables outer) := by
  simp only [oneofDeclarations, bind_outcome, mapM_outcome, OneofDescriptor.declarations_outcome,
    mapM_ok, ok_bind, pure_outcome]
  rfl

end MessageDescriptor

namespace FileScope

variable (s : FileScope) (outer : String)

theorem messagesDeclarations_eq (ms : List MessageDescriptor) :
    s.messagesDeclarations outer ms = List.flatten <$> ms.mapM (s.messageDeclarations outer) := by
  induction ms with
  | nil => rfl
  | cons m ms ih => simp [messagesDeclarations, ih, List.mapM_cons]

theorem messagesDeclarations_outcome (ms : List MessageDescriptor) :
    (s.messagesDeclarations outer ms).outcome =
      List.flatten <$> ms.mapM fun m => (s.messageDeclarations outer m).outcome := by
  rw [messagesDeclarations_eq, map_outcome, mapM_outcome]

theorem messageDeclarations_eq (m : MessageDescriptor) : s.messageDeclarations outer m = (do
    record (.message m.name)
    if m.isMapEntry then return []
    let properties ← m.fields.mapM s.property
    let messages ← s.messagesDeclarations (nested outer m.name) m.nested
    let enums ← m.enums.mapM (·.declaration (nested outer m.name))
    let tables ← m.oneofDeclarations (nested outer m.name)
    let extensions ← m.extensions.mapM (s.extension (nested outer m.name))
    return .object (nested outer m.name) properties
      :: (messages ++ enums ++ tables ++ extensions)) := by
  cases m
  rw [messageDeclarations]

theorem messageDeclarations_of_isMapEntry {m : MessageDescriptor} (h : m.isMapEntry = true) :
    (s.messageDeclarations outer m).outcome = .ok [] := by
  rw [messageDeclarations_eq, record_bind_outcome, if_pos h]
  rfl

theorem messageDeclarations_outcome {m : MessageDescriptor} (h : m.isMapEntry = false) :
    (s.messageDeclarations outer m).outcome = do
      let properties ← m.fields.mapM fun f => (s.property f).outcome
      let messages ← (s.messagesDeclarations (nested outer m.name) m.nested).outcome
      let extensions ← m.extensions.mapM fun f => (s.extension (nested outer m.name) f).outcome
      return .object (nested outer m.name) properties
        :: (messages ++ m.enums.map (·.table (nested outer m.name))
          ++ m.tables (nested outer m.name) ++ extensions) := by
  rw [messageDeclarations_eq, record_bind_outcome, if_neg (by simp [h])]
  simp only [bind_outcome, mapM_outcome, pure_outcome, EnumDescriptor.declaration_outcome,
    MessageDescriptor.oneofDeclarations_outcome, mapM_ok, ok_bind]
  rfl

theorem fileDeclarations_outcome (f : FileDescriptor) :
    (s.fileDeclarations f).outcome = do
      let messages ← (s.messagesDeclarations "" f.messages).outcome
      let extensions ← f.extensions.mapM fun e => (s.extension "" e).outcome
      return messages ++ extensions ++ f.enums.map (·.table "") := by
  simp only [fileDeclarations, bind_outcome, mapM_outcome, pure_outcome,
    EnumDescriptor.declaration_outcome, mapM_ok, ok_bind]
  rfl

theorem extension_outcome (f : FieldDescriptor) :
    (s.extension outer f).outcome = do
      let type ← s.fieldType f
      return .object (nested outer (fieldName f.name))
        [⟨"fieldNumber", false, .numberLiteral f.number⟩,
          ⟨"extendee", false, .textLiteral (QualifiedName.ofTypeName f.extendee).bare⟩,
          ⟨"value", f.isOptional s.dialect, type.repeatedIf f.isRepeated⟩] := by
  rw [extension, record_bind_outcome, bind_outcome]
  rfl

theorem property_outcome (f : FieldDescriptor) :
    (s.property f).outcome = do
      match ← s.mapSides? f with
      | some sides =>
        let key ← s.sideType sides.key
        let value ← s.sideType sides.value
        return ⟨fieldName f.name, false, .array (.pair key value)⟩
      | none =>
        let type ← s.fieldType f
        return ⟨fieldName f.name, f.isOptional s.dialect, type.repeatedIf f.isRepeated⟩ := by
  rw [property, bind_outcome, lift_outcome]
  congr 1
  funext sides?
  cases sides? with
  | none =>
    simp only [plainProperty, bind_outcome, lift_outcome, pure_outcome]
    rfl
  | some sides =>
    simp only [mapProperty, bind_outcome, lift_outcome, pure_outcome]
    rfl

end FileScope

theorem FlowModule.ofFile_outcome (o : Options) (r : Registry) (f : FileDescriptor) :
    (FlowModule.ofFile o r f).outcome = do
      let dialect ← Dialect.ofFile f
      let imports ← Import.ofDependencies o f.name f.dependencies
      let declarations ← (FileScope.fileDeclarations ⟨r, f.name, dialect⟩ f).outcome
      return ⟨f.package, f.name, imports, declarations⟩ := by
  simp only [ofFile, bind_outcome, lift_outcome, pure_outcome]
  rfl

theorem Registry.addAll_outcome (r : Registry) (files : List FileDescriptor) :
    (r.addAll files).outcome = .ok (files.foldl insert r) := by
  induction files generalizing r with
  | nil => rfl
  | cons f files ih =>
    have h : (r.addAll (f :: files)).outcome = ((r.insert f).addAll files).outcome := by
      rw [addAll, List.foldlM_cons, bind_outcome]
      rfl
    rw [h, ih, List.foldl_cons]

theorem Registry.addAll_log (r : Registry) (files : List FileDescriptor) :
    (r.addAll files).log = files.map fun f => .exports f.name := by
  induction files generalizing r with
  | nil => rfl
  | cons f files ih =>
    have step : r.add f = ⟨[.exports f.name], .ok (r.insert f)⟩ := rfl
    have rest := ih (r.insert f)
    rw [addAll] at rest ⊢
    rw [List.foldlM_cons, step, bind_of_ok rfl, rest]
    rfl

theorem generateFile_outcome (o : Options) (r : Registry) (files : List FileDescriptor)
    (name : String) :
    (generateFile o r files name).outcome = do
      let f ← findFile files name
      let m ← (FlowModule.ofFile o r f).outcome
      return ⟨SourcePath.outputName name, m.render o.exactObjects⟩ := by
  simp only [generateFile, bind_outcome, lift_outcome, pure_outcome]
  rfl

theorem generate_outcome (o : Options) (files : List FileDescriptor) (requested : List String) :
    (generate o files requested).outcome =
      requested.mapM fun name => (generateFile o (Registry.ofFiles files) files name).outcome := by
  rw [generate, bind_outcome, Registry.addAll_outcome, ok_bind, mapM_outcome]
  rfl

end FlowSchema
