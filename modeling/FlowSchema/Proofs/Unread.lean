import FlowSchema.Descriptor.Draft
import FlowSchema.Proofs.Revision
import Mathlib.Data.List.TakeWhile

namespace FlowSchema

def FieldType.isNamed (t : FieldType) : Bool := t = .message || t = .group || t = .enum

theorem TypeUse.ofType_of_not_isNamed {t : FieldType} (h : t.isNamed = false) (typeName : String) :
    TypeUse.ofType t typeName = [] := by
  cases t with
  | message | group | enum => cases h
  | _ => rfl

namespace FieldDescriptor

def dropUnread (f : FieldDescriptor) : FieldDescriptor :=
  { f with
    jsonName? := none
    defaultValue? := none
    typeName? := if f.type.isNamed then f.typeName? else none
    options? := if f.type.isInteger then f.options?
      else f.options?.map fun o => { o with jsType? := none } }

def dropUnreadMember (f : FieldDescriptor) : FieldDescriptor :=
  { f.dropUnread with
    extendee? := none
    number? := if f.oneofIndex?.isSome then f.number? else none
    proto3Optional? := if f.oneofIndex?.isSome then f.proto3Optional? else none }

def dropUnreadExtension (f : FieldDescriptor) : FieldDescriptor :=
  { f.dropUnread with proto3Optional? := none }

def dropUnreadSide (f : FieldDescriptor) : FieldDescriptor :=
  { f.dropUnreadMember with
    label? := none
    number? := none
    oneofIndex? := none
    options? := none }

def firstOfEach (names : List String) : List FieldDescriptor → List FieldDescriptor
  | [] => []
  | f :: fs =>
    -- a later field of the same name is not wanted any more
    if f.name ∈ names then f :: firstOfEach (names.erase f.name) fs else firstOfEach names fs

def withoutDots (name : String) : String :=
  String.ofList (name.toList.dropWhile QualifiedName.isDot)

def undotType (f : FieldDescriptor) : FieldDescriptor :=
  { f with typeName? := f.typeName?.map withoutDots }

def undotExtension (f : FieldDescriptor) : FieldDescriptor :=
  { f.undotType with extendee? := f.extendee?.map withoutDots }

end FieldDescriptor

namespace Revision

def dropUnread : Revision where
  field := FieldDescriptor.dropUnreadMember
  extension := FieldDescriptor.dropUnreadExtension
  entryFields fs := (FieldDescriptor.firstOfEach ["key", "value"] fs).map .dropUnreadSide
  entryExtensions _ := []
  entryOneofs _ := []

def undot : Revision where
  field := FieldDescriptor.undotType
  extension := FieldDescriptor.undotExtension
  entryFields fs := fs.map .undotType
  entryExtensions es := es.map .undotExtension
  entryOneofs os := os

end Revision

namespace FieldDescriptor

theorem find?_firstOfEach {names : List String} {name : String} (mem : name ∈ names)
    (fs : List FieldDescriptor) :
    (firstOfEach names fs).find? (·.name = name) = fs.find? (·.name = name) := by
  induction fs generalizing names with
  | nil => rfl
  | cons f fs ih =>
    by_cases same : f.name = name
    · rw [firstOfEach, if_pos (same ▸ mem), List.find?_cons_of_pos (by simpa using same),
        List.find?_cons_of_pos (by simpa using same)]
    · rw [firstOfEach, List.find?_cons_of_neg (l := fs) (by simpa using same)]
      split
      · rw [List.find?_cons_of_neg (by simpa using same)]
        exact ih ((List.mem_erase_of_ne (Ne.symm same)).mpr mem)
      · exact ih mem

theorem ofTypeName_withoutDots (name : String) :
    QualifiedName.ofTypeName (withoutDots name) = QualifiedName.ofTypeName name := by
  have dotless : (name.toList.dropWhile QualifiedName.isDot).dropWhile QualifiedName.isDot =
      name.toList.dropWhile QualifiedName.isDot :=
    List.dropWhile_eq_self_iff.mpr (List.dropWhile_get_zero_not _ _)
  simp only [QualifiedName.ofTypeName, QualifiedName.ofParts, withoutDots, String.toList_ofList,
    List.map_cons, List.map_nil, dotless, reduceCtorEq]

theorem getD_map_withoutDots (name? : Option String) :
    (name?.map withoutDots).getD "" = withoutDots (name?.getD "") := by
  cases name? <;> rfl

theorem ofType_withoutDots (t : FieldType) (name : String) :
    TypeUse.ofType t (withoutDots name) = TypeUse.ofType t name := by
  cases t with
  | message | group | enum => simp only [TypeUse.ofType, ofTypeName_withoutDots]
  | _ => rfl

theorem Alike.side {f g : FieldDescriptor} (h : f.Alike g) :
    (MapSide.ofField f).Alike (MapSide.ofField g) :=
  ⟨h.type, h.uses⟩

theorem alike_dropUnread (f : FieldDescriptor) : f.dropUnread.Alike f where
  name := rfl
  label := rfl
  type := rfl
  jsType integer := by
    have integer : f.type.isInteger = true := integer
    simp only [jsType, dropUnread, integer, if_true]
  uses := by
    have type : f.dropUnread.type = f.type := rfl
    rw [type]
    cases named : f.type.isNamed with
    | false => rw [TypeUse.ofType_of_not_isNamed named, TypeUse.ofType_of_not_isNamed named]
    | true => simp only [typeName, dropUnread, named, if_true]
  oneofIndex := rfl

theorem alike_dropUnreadMember (f : FieldDescriptor) : f.dropUnreadMember.Alike f :=
  { f.alike_dropUnread with }

theorem alike_dropUnreadExtension (f : FieldDescriptor) :
    f.dropUnreadExtension.AlikeExtension f :=
  { f.alike_dropUnread with number := rfl, extendee := rfl }

theorem alike_undotType (f : FieldDescriptor) : f.undotType.Alike f where
  name := rfl
  label := rfl
  type := rfl
  jsType _ := rfl
  uses := by
    have type : f.undotType.type = f.type := rfl
    rw [type, typeName, undotType, getD_map_withoutDots, ofType_withoutDots, typeName]
  oneofIndex := rfl

theorem alike_undotExtension (f : FieldDescriptor) : f.undotExtension.AlikeExtension f :=
  { f.alike_undotType with
    number := rfl
    extendee := by
      rw [extendee, undotExtension, getD_map_withoutDots, ofTypeName_withoutDots, extendee] }

theorem rel_side {g : FieldDescriptor → FieldDescriptor} (named : ∀ f, (g f).name = f.name)
    (alike : ∀ f, (MapSide.ofField (g f)).Alike (MapSide.ofField f)) (name : String)
    (fs : List FieldDescriptor) :
    Option.Rel MapSide.Alike (((fs.map g).find? (·.name = name)).map .ofField)
      ((fs.find? (·.name = name)).map .ofField) := by
  rw [List.find?_map]
  simp only [Function.comp_def, named]
  cases fs.find? (·.name = name) with
  | none => exact .none
  | some f => exact .some (alike f)

end FieldDescriptor

namespace Revision

open FieldDescriptor

theorem unread_dropUnread : dropUnread.Unread where
  field := alike_dropUnreadMember
  member f chosen := by
    simp only [dropUnread, number, proto3Optional, dropUnreadMember, chosen, if_true, and_self]
  extension := alike_dropUnreadExtension
  side name mem fs := by
    rw [← find?_firstOfEach mem fs]
    exact rel_side (g := dropUnreadSide) (fun _ => rfl) (fun f => f.alike_dropUnread.side) name _

theorem unread_undot : undot.Unread where
  field := alike_undotType
  member _ _ := ⟨rfl, rfl⟩
  extension := alike_undotExtension
  side name _ fs :=
    rel_side (g := undotType) (fun _ => rfl) (fun f => f.alike_undotType.side) name fs

end Revision

/-- Schemas that agree, up to leading dots, once all that is unread is left out of one of them are
answered with the same text or the same failure. -/
theorem generate_of_unread (o : Options) (files files' : List FileDescriptor)
    (requested : List String)
    (same : files'.map (·.revise .undot) =
      (files.map (·.revise .dropUnread)).map (·.revise .undot)) :
    generate o files' requested = generate o files requested := calc
  _ = generate o (files'.map (·.revise .undot)) requested :=
    (generate_revise Revision.unread_undot o files' requested).symm
  _ = generate o ((files.map (·.revise .dropUnread)).map (·.revise .undot)) requested := by
    rw [same]
  _ = generate o (files.map (·.revise .dropUnread)) requested :=
    generate_revise Revision.unread_undot o _ requested
  _ = generate o files requested := generate_revise Revision.unread_dropUnread o files requested

def ledgerFile : FileDescriptor where
  name? := some "ledger.proto"
  package? := some "bank"
  messages := [{
    name? := some "Ledger"
    fields := [
      { (FieldDescriptor.ofType "id" 1 .uint64).withJsType .string with
        typeName? := some ".Gone"
        defaultValue? := some "7"
        proto3Optional? := some true },
      { (FieldDescriptor.ofType "note" 2 .string).withJsType .string with
        extendee? := some ".Gone"
        oneofIndex? := some 0
        jsonName? := some "remark" },
      ((FieldDescriptor.ofType "totals" 3 .message).withLabel .repeated).withTypeName
        ".bank.Ledger.TotalsEntry"]
    nested := [{
      name? := some "TotalsEntry"
      fields := [
        (FieldDescriptor.ofType "spare" 3 .message).withTypeName ".Gone",
        (FieldDescriptor.ofType "value" 2 .int64).withJsType .string,
        (FieldDescriptor.ofType "key" 1 .string).withOneofIndex 0,
        FieldDescriptor.ofType "key" 4 .bytes]
      extensions := [FieldDescriptor.ofType "stray" 5 .bool]
      options? := some { mapEntry? := some true }
      oneofs := [{ name? := some "side" }] }]
    oneofs := [{ name? := some "text" }] }]
  extensions := [
    (((FieldDescriptor.ofType "parent" 10 .message).withTypeName ".bank.Ledger").withExtendee
      ".bank.Ledger").asProto3Optional]

def tidyLedgerFile : FileDescriptor where
  name? := some "ledger.proto"
  package? := some "bank"
  messages := [{
    name? := some "Ledger"
    fields := [
      { name? := some "id"
        label? := some Label.optional.code
        type? := some FieldType.uint64.code
        options? := some { jsType? := some JsType.string.code } },
      { FieldDescriptor.ofType "note" 2 .string with
        options? := some {}
        oneofIndex? := some 0 },
      { name? := some "totals"
        label? := some Label.repeated.code
        type? := some FieldType.message.code
        typeName? := some "...bank.Ledger.TotalsEntry" }]
    nested := [{
      name? := some "TotalsEntry"
      fields := [
        { name? := some "value", type? := some FieldType.int64.code },
        { name? := some "key", type? := some FieldType.string.code }]
      options? := some { mapEntry? := some true } }]
    oneofs := [{ name? := some "text" }] }]
  extensions := [
    ((FieldDescriptor.ofType "parent" 10 .message).withTypeName "bank.Ledger").withExtendee
      "..bank.Ledger"]

theorem generate_of_unread_ledgerFile :
    [tidyLedgerFile].map (·.revise .undot) =
      ([ledgerFile].map (·.revise .dropUnread)).map (·.revise .undot) ∧
    ∃ outputs, (generate {} [ledgerFile] ["ledger.proto"]).outcome = .ok outputs ∧
      (generate {} [tidyLedgerFile] ["ledger.proto"]).outcome = .ok outputs := by
  have same : [tidyLedgerFile].map (·.revise .undot) =
      ([ledgerFile].map (·.revise .dropUnread)).map (·.revise .undot) := by cbv
  obtain ⟨outputs, ok⟩ : ∃ outputs,
      (generate {} [ledgerFile] ["ledger.proto"]).outcome = .ok outputs := by
    rw [← failureOf_eq_none]
    decide +kernel
  refine ⟨same, outputs, ok, ?_⟩
  rw [generate_of_unread {} [ledgerFile] [tidyLedgerFile] ["ledger.proto"] same, ok]

end FlowSchema
