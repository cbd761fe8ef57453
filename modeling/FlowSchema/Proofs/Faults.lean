import FlowSchema.Proofs.Uses

namespace FlowSchema

def TypeUse.fault? (r : Registry) (u : TypeUse) : Option Failure :=
  if u.type = .enum then
    if (r.enum? u.name).isSome then none else some (.unknownEnum u.name.bare)
  else if (r.message? u.name).isSome then none else some (.unknownMessage u.name.bare)

def Slot.malformed (r : Registry) : Slot → List Failure
  | .field f =>
    match r.entryOf? f with
    | some ⟨_, _, _, none⟩ => [.malformedMapEntry (QualifiedName.ofTypeName f.typeName).bare]
    | _ => []
  | .extension _ => []

def Slot.faults (r : Registry) (x : Slot) : List Failure :=
  x.malformed r ++ (x.uses r).filterMap (TypeUse.fault? r)

def aliasFault? (earlier : List String) (d : String) : Option Failure :=
  (earlier.find? (SourcePath.moduleAlias · = SourcePath.moduleAlias d)).map
    fun first => .aliasCollision (SourcePath.moduleAlias d) first d

namespace FileDescriptor

def dialectFaults (f : FileDescriptor) : List Failure :=
  match f.dialect? with
  | none => []
  | some d => if d ∈ ["", "proto2", "proto3", "editions"] then [] else [.unknownDialect f.name d]

def aliasFaults (f : FileDescriptor) : List Failure :=
  f.dependencies.zipIdx.filterMap fun x => aliasFault? (f.dependencies.take x.2) x.1

def faults (r : Registry) (f : FileDescriptor) : List Failure :=
  f.dialectFaults ++ f.aliasFaults ++ f.slots.flatMap (Slot.faults r)

end FileDescriptor

def requestFaults (files : List FileDescriptor) (requested : List String) : List Failure :=
  requested.flatMap fun name =>
    match (files.filter (·.name = name)).getLast? with
    | none => [.unknownFile name]
    | some f => f.faults (Registry.ofFiles files)

namespace FileScope

variable (s : FileScope)

theorem failureOf_resolve (t : FieldType) (typeName? : Option String) :
    failureOf (s.resolve t typeName?) =
      ((TypeUse.ofType t (typeName?.getD "")).filterMap (TypeUse.fault? s.registry)).head? := by
  have message (n : QualifiedName) : failureOf (s.messageEntry n) =
      if (s.registry.message? n).isSome then none else some (.unknownMessage n.bare) := by
    unfold messageEntry
    cases s.registry.message? n <;> rfl
  have enum (n : QualifiedName) : failureOf (s.enumEntry n) =
      if (s.registry.enum? n).isSome then none else some (.unknownEnum n.bare) := by
    unfold enumEntry
    cases s.registry.enum? n <;> rfl
  have messageReference (n : String) : failureOf (s.messageReference n) =
      failureOf (s.messageEntry (.ofTypeName n)) := by
    rw [FileScope.messageReference, failureOf_bind (fun _ _ => failureOf_pure _), Option.or_none]
  have enumReference (n : String) : failureOf (s.enumReference n) =
      failureOf (s.enumEntry (.ofTypeName n)) := by
    rw [FileScope.enumReference, failureOf_bind (fun _ _ => failureOf_pure _), Option.or_none]
  cases t <;>
    simp only [resolve, failureOf_ok, failureOf_map, messageReference, enumReference, message, enum,
      TypeUse.ofType, TypeUse.fault?, List.filterMap_nil, List.filterMap_cons, reduceCtorEq,
      ↓reduceIte, List.head?_nil]
  all_goals split <;> simp_all

theorem failureOf_fieldType (f : FieldDescriptor) :
    failureOf (s.fieldType f) =
      ((TypeUse.ofType f.type f.typeName).filterMap (TypeUse.fault? s.registry)).head? := by
  unfold fieldType
  split
  · rename_i h _
    rw [TypeUse.ofType_of_isInteger h]
    rfl
  · rename_i h _
    rw [TypeUse.ofType_of_isInteger h]
    rfl
  · exact s.failureOf_resolve f.type f.typeName?

theorem failureOf_extension (outer : String) (f : FieldDescriptor) :
    failureOf (s.extension outer f).outcome = ((Slot.extension f).faults s.registry).head? := by
  rw [extension_outcome, failureOf_bind (fun _ _ => failureOf_pure _), failureOf_fieldType,
    Option.or_none]
  rfl

theorem failureOf_property (f : FieldDescriptor) :
    failureOf (s.property f).outcome = ((Slot.field f).faults s.registry).head? := by
  rw [property_outcome]
  cases h : s.registry.entryOf? f with
  | none =>
    have hx : (Slot.field f).faults s.registry =
        (TypeUse.ofType f.type f.typeName).filterMap (TypeUse.fault? s.registry) := by
      simp [Slot.faults, Slot.malformed, Slot.uses, h]
    rcases mapSides?_of_no_entry h with hm | ⟨ht, hn, hm⟩
    · rw [hm, ok_bind, failureOf_bind (fun _ _ => failureOf_pure _), failureOf_fieldType, hx,
        Option.or_none]
    · rw [hm, hx, ht]
      simp only [TypeUse.ofType, TypeUse.fault?, hn, List.filterMap_cons, List.filterMap_nil]
      rfl
  | some e =>
    rw [mapSides?_of_entry h]
    cases hs : e.mapSides? with
    | none =>
      obtain ⟨file, package, isMapEntry, sides?⟩ := e
      cases hs
      simp only [Slot.faults, Slot.malformed, h]
      rfl
    | some sides =>
      obtain ⟨file, package, isMapEntry, sides?⟩ := e
      cases hs
      simp only [ok_bind, Slot.faults, Slot.malformed, Slot.uses, h, List.nil_append,
        List.filterMap_append, List.head?_append]
      rw [failureOf_bind (fun _ _ => failureOf_bind fun _ _ => failureOf_pure _), Option.or_none]
      exact congrArg₂ Option.or (s.failureOf_resolve _ _) (s.failureOf_resolve _ _)

theorem failureOf_messagesDeclarations {outer : String} {ms : List MessageDescriptor}
    (h : ∀ m ∈ ms, failureOf (s.messageDeclarations outer m).outcome =
      (m.slots.flatMap (Slot.faults s.registry)).head?) :
    failureOf (s.messagesDeclarations outer ms).outcome =
      ((MessageDescriptor.slotsAll ms).flatMap (Slot.faults s.registry)).head? := by
  rw [messagesDeclarations_outcome, failureOf_map, failureOf_mapM h,
    MessageDescriptor.slotsAll_eq, List.flatMap_assoc]

theorem failureOf_messageDeclarations (outer : String) (m : MessageDescriptor) :
    failureOf (s.messageDeclarations outer m).outcome =
      (m.slots.flatMap (Slot.faults s.registry)).head? := by
  induction m using MessageDescriptor.nested_induction generalizing outer with
  | step m ih =>
    cases hm : m.isMapEntry with
    | true =>
      rw [messageDeclarations_of_isMapEntry s outer hm, MessageDescriptor.slots_of_isMapEntry hm]
      rfl
    | false =>
      rw [messageDeclarations_outcome s outer hm, MessageDescriptor.slots_eq hm]
      have fields : failureOf (m.fields.mapM fun f => (s.property f).outcome) = _ :=
        failureOf_mapM fun f _ => s.failureOf_property f
      have messages := s.failureOf_messagesDeclarations
        fun n hn => ih n hn (Identifier.nested outer m.name)
      have extensions : failureOf (m.extensions.mapM fun f =>
          (s.extension (Identifier.nested outer m.name) f).outcome) = _ :=
        failureOf_mapM fun f _ => s.failureOf_extension _ f
      rw [failureOf_bind fun _ _ => failureOf_bind fun _ _ =>
        failureOf_bind fun _ _ => failureOf_pure _]
      simp only [fields, messages, extensions, Option.or_none, List.flatMap_append,
        List.flatMap_map, List.head?_append, Option.or_assoc]

theorem failureOf_fileDeclarations (f : FileDescriptor) :
    failureOf (s.fileDeclarations f).outcome =
      (f.slots.flatMap (Slot.faults s.registry)).head? := by
  have messages := s.failureOf_messagesDeclarations
    fun m (_ : m ∈ f.messages) => s.failureOf_messageDeclarations "" m
  have extensions : failureOf (f.extensions.mapM fun e => (s.extension "" e).outcome) = _ :=
    failureOf_mapM fun e _ => s.failureOf_extension "" e
  rw [fileDeclarations_outcome,
    failureOf_bind fun _ _ => failureOf_bind fun _ _ => failureOf_pure _]
  simp only [messages, extensions, Option.or_none, FileDescriptor.slots, List.flatMap_append,
    List.flatMap_map, List.head?_append]

end FileScope

namespace FileDescriptor

theorem failureOf_dialect (f : FileDescriptor) :
    failureOf (Dialect.ofFile f) = f.dialectFaults.head? := by
  unfold Dialect.ofFile dialectFaults
  cases f.dialect? with
  | none => rfl
  | some d =>
    simp only [Option.getD_some]
    split <;> simp_all

theorem failureOf_checkAliases (seen ds : List String) :
    failureOf (Import.checkAliases seen ds) =
      ((ds.zipIdx seen.length).filterMap fun x =>
        aliasFault? ((seen ++ ds).take x.2) x.1).head? := by
  induction ds generalizing seen with
  | nil => rfl
  | cons d ds ih =>
    rw [Import.checkAliases, List.zipIdx_cons, List.filterMap_cons, List.take_left, aliasFault?]
    cases seen.find? (SourcePath.moduleAlias · = SourcePath.moduleAlias d) with
    | some first => rfl
    | none =>
      have h := ih (seen ++ [d])
      rw [List.length_append, List.append_assoc] at h
      exact h

theorem failureOf_imports (o : Options) (f : FileDescriptor) :
    failureOf (Import.ofDependencies o f.name f.dependencies) = f.aliasFaults.head? := by
  rw [Import.ofDependencies, failureOf_bind fun _ _ => failureOf_pure _, failureOf_checkAliases,
    Option.or_none]
  rfl

theorem failureOf_module (o : Options) (r : Registry) (f : FileDescriptor) :
    failureOf (FlowModule.ofFile o r f).outcome = (f.faults r).head? := by
  have declarations (dialect : Dialect) (imports : List Import) : failureOf (do
      let declarations ← (FileScope.fileDeclarations ⟨r, f.name, dialect⟩ f).outcome
      return (⟨f.package, f.name, imports, declarations⟩ : FlowModule)) =
        (f.slots.flatMap (Slot.faults r)).head? := by
    rw [failureOf_bind fun _ _ => failureOf_pure _, FileScope.failureOf_fileDeclarations,
      Option.or_none]
  rw [FlowModule.ofFile_outcome, failureOf_bind fun dialect _ =>
    failureOf_bind fun imports _ => declarations dialect imports]
  rw [failureOf_dialect, failureOf_imports, faults, List.head?_append, List.head?_append,
    Option.or_assoc]

end FileDescriptor

theorem findFile_eq (files : List FileDescriptor) (name : String) :
    findFile files name = match (files.filter (·.name = name)).getLast? with
      | some f => .ok f
      | none => .error (.unknownFile name) := by
  have last : files.findRev? (·.name = name) = (files.filter (·.name = name)).getLast? := by
    rw [List.findRev?_eq_find?_reverse, ← List.head?_filter, List.filter_reverse,
      List.head?_reverse]
  cases hl : (files.filter (·.name = name)).getLast? with
  | none | some f => simp only [findFile, last, hl]

theorem failureOf_generate (o : Options) (files : List FileDescriptor) (requested : List String) :
    failureOf (generate o files requested).outcome = (requestFaults files requested).head? := by
  rw [generate_outcome]
  refine failureOf_mapM fun name _ => ?_
  rw [generateFile_outcome, findFile_eq]
  cases (files.filter (·.name = name)).getLast? with
  | none => rfl
  | some f =>
    rw [ok_bind, failureOf_bind fun _ _ => failureOf_pure _, FileDescriptor.failureOf_module,
      Option.or_none]

end FlowSchema
