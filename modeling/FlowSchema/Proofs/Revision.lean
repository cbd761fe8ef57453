import FlowSchema.Proofs.Alike
import FlowSchema.Proofs.Batches
import FlowSchema.Proofs.Registered

namespace FlowSchema

open Traced

/-- A way to rewrite the fields of a schema. The fields of a map entry are seen together. -/
structure Revision where
  field : FieldDescriptor → FieldDescriptor
  extension : FieldDescriptor → FieldDescriptor
  entryFields : List FieldDescriptor → List FieldDescriptor
  entryExtensions : List FieldDescriptor → List FieldDescriptor
  entryOneofs : List OneofDescriptor → List OneofDescriptor

namespace MessageDescriptor

mutual

def revise (v : Revision) : MessageDescriptor → MessageDescriptor
  | m@{ nested := inner, .. } =>
    if m.isMapEntry then
      { m with
        fields := v.entryFields m.fields
        nested := reviseAll v inner
        extensions := v.entryExtensions m.extensions
        oneofs := v.entryOneofs m.oneofs }
    else
      { m with
        fields := m.fields.map v.field
        nested := reviseAll v inner
        extensions := m.extensions.map v.extension }

def reviseAll (v : Revision) : List MessageDescriptor → List MessageDescriptor
  | [] => []
  | m :: ms => m.revise v :: reviseAll v ms

end

variable (v : Revision) (m : MessageDescriptor)

theorem reviseAll_eq (ms : List MessageDescriptor) : reviseAll v ms = ms.map (revise v) := by
  induction ms with
  | nil => rfl
  | cons m ms ih => rw [reviseAll, ih, List.map_cons]

theorem revise_of_isMapEntry {m : MessageDescriptor} (h : m.isMapEntry = true) : m.revise v =
    { m with
      fields := v.entryFields m.fields
      nested := m.nested.map (revise v)
      extensions := v.entryExtensions m.extensions
      oneofs := v.entryOneofs m.oneofs } := by
  cases m
  rw [revise, if_pos h, reviseAll_eq]

theorem revise_of_plain {m : MessageDescriptor} (h : m.isMapEntry = false) : m.revise v =
    { m with
      fields := m.fields.map v.field
      nested := m.nested.map (revise v)
      extensions := m.extensions.map v.extension } := by
  cases m
  rw [revise, if_neg (by simp [h]), reviseAll_eq]

theorem revise_kept : (m.revise v).name = m.name ∧ (m.revise v).isMapEntry = m.isMapEntry ∧
    (m.revise v).enums = m.enums ∧ (m.revise v).nested = m.nested.map (revise v) := by
  cases h : m.isMapEntry with
  | true =>
    rw [revise_of_isMapEntry v h]
    exact ⟨rfl, h, rfl, rfl⟩
  | false =>
    rw [revise_of_plain v h]
    exact ⟨rfl, h, rfl, rfl⟩

@[simp] theorem name_revise : (m.revise v).name = m.name := (revise_kept v m).1

@[simp] theorem isMapEntry_revise : (m.revise v).isMapEntry = m.isMapEntry := (revise_kept v m).2.1

@[simp] theorem enums_revise : (m.revise v).enums = m.enums := (revise_kept v m).2.2.1

@[simp] theorem nested_revise : (m.revise v).nested = m.nested.map (revise v) :=
  (revise_kept v m).2.2.2

theorem declared_revise (scope : QualifiedName) :
    (m.revise v).declared scope = (m.declared scope).map fun d => (d.1, d.2.revise v) := by
  induction m using nested_induction generalizing scope with
  | step m ih =>
    rw [declared_eq, declared_eq, declaredAll_eq, declaredAll_eq, name_revise, nested_revise,
      List.flatMap_map, List.map_append, List.map_flatMap,
      List.flatMap_congr fun n hn => ih n hn (scope.join m.name)]
    rfl

end MessageDescriptor

namespace FileDescriptor

def revise (v : Revision) (f : FileDescriptor) : FileDescriptor :=
  { f with
    messages := MessageDescriptor.reviseAll v f.messages
    extensions := f.extensions.map v.extension }

variable (v : Revision) (f : FileDescriptor)

theorem declaredMessages_revise : (f.revise v).declaredMessages =
    f.declaredMessages.map fun d => (d.1, d.2.revise v) := by
  simp only [declaredMessages, MessageDescriptor.declaredAll_eq, List.map_flatMap]
  rw [revise, MessageDescriptor.reviseAll_eq, List.flatMap_map]
  exact List.flatMap_congr fun m _ => m.declared_revise v f.scope

theorem declaredEnums_revise : (f.revise v).declaredEnums = f.declaredEnums := by
  rw [declaredEnums, declaredMessages_revise, List.flatMap_map]
  simp only [MessageDescriptor.enums_revise]
  rfl

end FileDescriptor

structure Revision.Unread (v : Revision) : Prop where
  field : ∀ f, (v.field f).Alike f
  member : ∀ f, f.oneofIndex?.isSome → (v.field f).number = f.number ∧
    (v.field f).proto3Optional = f.proto3Optional
  extension : ∀ f, (v.extension f).AlikeExtension f
  side : ∀ name ∈ ["key", "value"], ∀ fs, Option.Rel MapSide.Alike
    (((v.entryFields fs).find? (·.name = name)).map .ofField)
    ((fs.find? (·.name = name)).map .ofField)

theorem lookup_rel {κ α β : Type} [BEq κ] {R : α → β → Prop} {l : List (κ × α)} {l' : List (κ × β)}
    (h : List.Forall₂ (fun u v => u.1 = v.1 ∧ R u.2 v.2) l l') (k : κ) :
    Option.Rel R (l.lookup k) (l'.lookup k) := by
  induction h with
  | nil => exact .none
  | @cons u v _ _ huv _ ih =>
    rw [List.lookup_cons, List.lookup_cons, huv.1]
    cases k == v.1 with
    | true => exact .some huv.2
    | false => exact ih

theorem OneofDescriptor.declarations_map (outer : String) (o : OneofDescriptor)
    {members : List FieldDescriptor} {g : FieldDescriptor → FieldDescriptor}
    (same : ∀ f ∈ members, (g f).name = f.name ∧ (g f).number = f.number ∧
      (g f).proto3Optional = f.proto3Optional) :
    o.declarations outer (members.map g) = o.declarations outer members := by
  have synthetic : isSynthetic (members.map g) = isSynthetic members := by
    rw [isSynthetic, isSynthetic, List.isEmpty_map, List.all_map]
    congr 1
    rw [Bool.eq_iff_iff, List.all_eq_true, List.all_eq_true]
    exact forall₂_congr fun f hf => by rw [Function.comp_apply, (same f hf).2.2]
  have constants : (members.map g).map (fun f => (Identifier.constantName f.name, f.number)) =
      members.map fun f => (Identifier.constantName f.name, f.number) := by
    rw [List.map_map]
    refine List.map_congr_left fun f hf => ?_
    obtain ⟨name, number, -⟩ := same f hf
    simp only [Function.comp_apply, name, number]
  rw [declarations, declarations, synthetic, constants, List.length_map]

namespace Revision.Unread

variable {v : Revision} (h : v.Unread)
include h

theorem alike_mapSides? (m : MessageDescriptor) :
    Option.Rel MapSides.Alike (m.revise v).mapSides? m.mapSides? := by
  cases entry : m.isMapEntry with
  | false =>
    rw [MessageDescriptor.mapSides?, MessageDescriptor.mapSides?,
      MessageDescriptor.isMapEntry_revise, entry]
    exact .none
  | true =>
    have key := h.side "key" (by decide) m.fields
    have value := h.side "value" (by decide) m.fields
    have fields : (m.revise v).fields = v.entryFields m.fields := by
      rw [MessageDescriptor.revise_of_isMapEntry v entry]
    rw [MessageDescriptor.mapSides?, MessageDescriptor.mapSides?,
      MessageDescriptor.isMapEntry_revise, entry, if_pos rfl, if_pos rfl, fields]
    rcases eq_some_of_rel key with ⟨hk, hk'⟩ | ⟨k, k', hk, hk', key⟩
    · rw [Option.map_eq_none_iff.mp hk, Option.map_eq_none_iff.mp hk']
      exact .none
    · obtain ⟨f, hf, rfl⟩ := Option.map_eq_some_iff.mp hk
      obtain ⟨f', hf', rfl⟩ := Option.map_eq_some_iff.mp hk'
      rw [hf, hf']
      rcases eq_some_of_rel value with ⟨hv, hv'⟩ | ⟨w, w', hv, hv', value⟩
      · rw [Option.map_eq_none_iff.mp hv, Option.map_eq_none_iff.mp hv']
        exact .none
      · obtain ⟨g, hg, rfl⟩ := Option.map_eq_some_iff.mp hv
        obtain ⟨g', hg', rfl⟩ := Option.map_eq_some_iff.mp hv'
        rw [hg, hg']
        exact .some ⟨key, value⟩

theorem alike_messageEntries (f : FileDescriptor) :
    List.Forall₂ (fun u w => u.1 = w.1 ∧ MessageEntry.Alike u.2 w.2)
      (Registry.messageEntries (f.revise v)) (Registry.messageEntries f) := by
  simp only [Registry.messageEntries, FileDescriptor.declaredMessages_revise, List.map_map,
    List.forall₂_map_left_iff, List.forall₂_map_right_iff, Function.comp_def]
  exact List.forall₂_same.mpr fun d _ =>
    ⟨rfl, rfl, rfl, d.2.isMapEntry_revise v, h.alike_mapSides? d.2⟩

theorem alike_ofFiles (files : List FileDescriptor) :
    (Registry.ofFiles (files.map (·.revise v))).Alike (Registry.ofFiles files) where
  message n := by
    rw [Registry.message?, Registry.message?, Registry.ofFiles_eq, Registry.ofFiles_eq,
      List.flatMap_map]
    apply lookup_rel
    rw [List.forall₂_reverse_iff]
    refine List.rel_flatMap (List.forall₂_same.mpr fun f _ => rfl) ?_
    rintro f _ rfl
    exact h.alike_messageEntries f
  enum n := by
    have entries (f : FileDescriptor) :
        Registry.enumEntries (f.revise v) = Registry.enumEntries f := by
      rw [Registry.enumEntries, Registry.enumEntries, FileDescriptor.declaredEnums_revise]
      rfl
    simp only [Registry.enum?, Registry.ofFiles_eq, List.flatMap_map, entries]

theorem oneofDeclarations_revise (outer : String) {m : MessageDescriptor}
    (plain : m.isMapEntry = false) :
    (m.revise v).oneofDeclarations outer = m.oneofDeclarations outer := by
  have oneofs : (m.revise v).oneofs = m.oneofs := by rw [MessageDescriptor.revise_of_plain v plain]
  have members (i : Nat) : (m.revise v).members i = (m.members i).map v.field := by
    rw [MessageDescriptor.revise_of_plain v plain, MessageDescriptor.members_eq,
      MessageDescriptor.members_eq, List.filter_map]
    simp only [Function.comp_def, (h.field _).oneofIndex]
  have tables (o : OneofDescriptor) (i : Nat) :
      o.declarations outer ((m.members i).map v.field) = o.declarations outer (m.members i) := by
    apply OneofDescriptor.declarations_map
    intro f hf
    rw [MessageDescriptor.members_eq] at hf
    have index := of_decide_eq_true (List.mem_filter.mp hf).2
    exact ⟨(h.field f).name, h.member f (by rw [index]; rfl)⟩
  simp only [MessageDescriptor.oneofDeclarations, oneofs, members, tables]

end Revision.Unread

namespace FileScope

variable {v : Revision} (h : v.Unread) {r r' : Registry} (alike : r'.Alike r) (file : String)
  (dialect : Dialect)
include h alike

theorem mapM_extension_revise (outer : String) (fs : List FieldDescriptor) :
    (fs.map v.extension).mapM (extension ⟨r', file, dialect⟩ outer) =
      fs.mapM (extension ⟨r, file, dialect⟩ outer) := by
  rw [List.mapM_map]
  simp only [Function.comp_def, extension_alike alike file dialect (h.extension _)]

theorem rendersAlike_revise :
    RendersAlike ⟨r, file, dialect⟩ ⟨r', file, dialect⟩ (MessageDescriptor.revise v) where
  name := MessageDescriptor.name_revise v
  isMapEntry := MessageDescriptor.isMapEntry_revise v
  nested := MessageDescriptor.nested_revise v
  enums := MessageDescriptor.enums_revise v
  properties m plain := by
    rw [MessageDescriptor.revise_of_plain v plain, List.mapM_map]
    simp only [Function.comp_def, property_alike alike file dialect (h.field _)]
  oneofs m plain outer := h.oneofDeclarations_revise outer plain
  extensions m plain outer := by
    rw [MessageDescriptor.revise_of_plain v plain]
    exact mapM_extension_revise h alike file dialect outer m.extensions

theorem fileDeclarations_revise (f : FileDescriptor) :
    fileDeclarations ⟨r', file, dialect⟩ (f.revise v) = fileDeclarations ⟨r, file, dialect⟩ f :=
  (rendersAlike_revise h alike file dialect).fileDeclarations_eq
    (MessageDescriptor.reviseAll_eq v f.messages)
    (mapM_extension_revise h alike file dialect "" f.extensions) rfl

end FileScope

section

variable {v : Revision} (h : v.Unread)

theorem findFile_revise (files : List FileDescriptor) (name : String) :
    findFile (files.map (·.revise v)) name = (·.revise v) <$> findFile files name := by
  have last : (files.map (·.revise v)).findRev? (·.name = name) =
      (files.findRev? (·.name = name)).map (·.revise v) := by
    rw [List.findRev?_eq_find?_reverse, List.findRev?_eq_find?_reverse, ← List.map_reverse,
      List.find?_map]
    rfl
  rw [findFile, findFile, last]
  cases files.findRev? (·.name = name) <;> rfl

include h

theorem FlowModule.ofFile_revise {r r' : Registry} (alike : r'.Alike r) (o : Options)
    (f : FileDescriptor) : ofFile o r' (f.revise v) = ofFile o r f := by
  have declarations (dialect : Dialect) :=
    FileScope.fileDeclarations_revise h alike f.name dialect f
  have name : (f.revise v).name = f.name := rfl
  have kept : Dialect.ofFile (f.revise v) = Dialect.ofFile f := rfl
  simp only [ofFile, name, kept, declarations]
  rfl

theorem generateFile_revise (o : Options) (files : List FileDescriptor) (name : String) :
    generateFile o (Registry.ofFiles (files.map (·.revise v))) (files.map (·.revise v)) name =
      generateFile o (Registry.ofFiles files) files name := by
  have lifted (f : FileDescriptor) : (liftM (.ok f : Except Failure _) : Traced _) = pure f := rfl
  rw [generateFile, generateFile, findFile_revise]
  cases findFile files name with
  | error e =>
    have failed (k : FileDescriptor → Traced Output) :
        (liftM (.error e : Except Failure _) : Traced _) >>= k = ⟨[], .error e⟩ := rfl
    have kept : (·.revise v) <$> (.error e : Except Failure FileDescriptor) = .error e := rfl
    rw [kept, failed, failed]
  | ok f =>
    have revised : (·.revise v) <$> (.ok f : Except Failure FileDescriptor) =
        .ok (f.revise v) := rfl
    rw [revised, lifted, lifted, pure_bind, pure_bind,
      FlowModule.ofFile_revise h (h.alike_ofFiles files)]

theorem generate_revise (o : Options) (files : List FileDescriptor) (requested : List String) :
    generate o (files.map (·.revise v)) requested = generate o files requested := by
  have notes : (files.map (·.revise v)).map (fun f => Record.exports f.name) =
      files.map fun f => .exports f.name := by
    rw [List.map_map]
    rfl
  have generated : generateFile o (Registry.ofFiles (files.map (·.revise v)))
      (files.map (·.revise v)) = generateFile o (Registry.ofFiles files) files := by
    funext name
    exact generateFile_revise h o files name
  have built (files : List FileDescriptor) :
      (Registry.empty.addAll files).outcome = .ok (Registry.ofFiles files) :=
    Registry.addAll_outcome Registry.empty files
  rw [generate, generate, bind_of_ok (built _), bind_of_ok (built _), Registry.addAll_log,
    Registry.addAll_log, notes, generated]

end

end FlowSchema
