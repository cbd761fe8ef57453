import FlowSchema.Proofs.Exports
import FlowSchema.Proofs.Nesting
import FlowSchema.Record
import Mathlib.Data.List.Basic

namespace FlowSchema

open Identifier

def Record.declares : Record → Bool
  | message _ | enumeration _ | oneof .. | extension _ => true
  | _ => false

inductive Visit
  | message (path : List String) (m : MessageDescriptor)
  | enumeration (path : List String) (e : EnumDescriptor)
  | oneof (path : List String) (o : OneofDescriptor) (members : List FieldDescriptor)
  | extension (path : List String) (f : FieldDescriptor)

namespace Visit

def isEntry : Visit → Bool
  | message _ m => m.isMapEntry
  | _ => false

def record : Visit → Record
  | message _ m => .message m.name
  | enumeration _ e => .enumeration e.name
  | oneof _ o members => .oneof o.name members.length
  | extension _ f => .extension f.name

theorem declares_record (v : Visit) : v.record.declares = true := by
  cases v with
  | message | enumeration | oneof | extension => rfl

def exported : Visit → Export
  | message path m => .type (Export.pathName (path ++ [m.name]))
  | enumeration path e => Export.ofEnum path e
  | oneof path o _ => .const (Export.pathName (path ++ [oneofName o.name ++ "Case"]))
  | extension path f => Export.ofExtension path f

def ofOneofs (path : List String) (m : MessageDescriptor) : List Visit :=
  m.oneofs.zipIdx.flatMap fun (o, i) =>
    if m.members i ≠ [] ∧ ∀ f ∈ m.members i, f.proto3Optional = true then []
    else [.oneof path o (m.members i)]

end Visit

namespace MessageDescriptor

mutual

def visits (path : List String) : MessageDescriptor → List Visit
  | m@{ nested := inner, .. } =>
    .message path m ::
      if m.isMapEntry then []
      else visitsAll (path ++ [m.name]) inner
        ++ m.enums.map (.enumeration (path ++ [m.name]))
        ++ Visit.ofOneofs (path ++ [m.name]) m
        ++ m.extensions.map (.extension (path ++ [m.name]))

def visitsAll (path : List String) : List MessageDescriptor → List Visit
  | [] => []
  | m :: ms => m.visits path ++ visitsAll path ms

end

theorem visitsAll_eq (path : List String) (ms : List MessageDescriptor) :
    visitsAll path ms = ms.flatMap (visits path) := by
  induction ms with
  | nil => rfl
  | cons m ms ih => rw [visitsAll, ih, List.flatMap_cons]

theorem visits_of_isMapEntry {m : MessageDescriptor} (h : m.isMapEntry = true)
    (path : List String) : m.visits path = [.message path m] := by
  cases m
  rw [visits, if_pos h]

theorem visits_eq {m : MessageDescriptor} (h : m.isMapEntry = false) (path : List String) :
    m.visits path = .message path m
      :: (visitsAll (path ++ [m.name]) m.nested
        ++ m.enums.map (.enumeration (path ++ [m.name]))
        ++ Visit.ofOneofs (path ++ [m.name]) m
        ++ m.extensions.map (.extension (path ++ [m.name]))) := by
  cases m
  rw [visits, if_neg (by simp [h])]

end MessageDescriptor

def FileDescriptor.visits (f : FileDescriptor) : List Visit :=
  MessageDescriptor.visitsAll [] f.messages ++ f.extensions.map (.extension [])
    ++ f.enums.map (.enumeration [])

namespace Visit

def exports (visits : List Visit) : List Export :=
  (visits.filter fun v => !v.isEntry).map exported

theorem exports_append (vs ws : List Visit) : exports (vs ++ ws) = exports vs ++ exports ws := by
  rw [exports, List.filter_append, List.map_append]
  rfl

theorem exports_flatMap {α : Type} (as : List α) (visits : α → List Visit) :
    exports (as.flatMap visits) = as.flatMap fun a => exports (visits a) := by
  rw [exports, List.filter_flatMap, List.map_flatMap]
  rfl

theorem exports_map {α : Type} {visit : α → Visit} (h : ∀ a, (visit a).isEntry = false)
    (as : List α) : exports (as.map visit) = as.map fun a => (visit a).exported := by
  rw [exports, List.filter_eq_self.mpr (by simp [h]), List.map_map]
  rfl

theorem exports_ofOneofs (path : List String) (m : MessageDescriptor) :
    exports (ofOneofs path m) = Export.ofOneofs path m := by
  rw [ofOneofs, exports_flatMap, Export.ofOneofs]
  apply List.flatMap_congr
  rintro ⟨o, i⟩ -
  dsimp only
  split <;> rfl

end Visit

open Visit

theorem MessageDescriptor.exports_visits (m : MessageDescriptor) (path : List String) :
    Visit.exports (m.visits path) = m.exports path := by
  induction m using nested_induction generalizing path with
  | step m ih =>
    cases h : m.isMapEntry with
    | true =>
      rw [visits_of_isMapEntry h, exports_of_isMapEntry h, Visit.exports]
      simp [isEntry, h]
    | false =>
      have nested : Visit.exports (visitsAll (path ++ [m.name]) m.nested) =
          exportsAll (path ++ [m.name]) m.nested := by
        rw [visitsAll_eq, exports_flatMap, exportsAll_eq]
        exact List.flatMap_congr fun n hn => ih n hn _
      have first : Visit.exports [.message path m] =
          [.type (Export.pathName (path ++ [m.name]))] := by
        simp [Visit.exports, isEntry, h, exported]
      have enums : Visit.exports (m.enums.map (.enumeration (path ++ [m.name]))) =
          m.enums.map (Export.ofEnum (path ++ [m.name])) := exports_map (fun _ => rfl) m.enums
      have extensions : Visit.exports (m.extensions.map (.extension (path ++ [m.name]))) =
          m.extensions.map (Export.ofExtension (path ++ [m.name])) :=
        exports_map (fun _ => rfl) m.extensions
      rw [visits_eq h, exports_eq h, ← List.singleton_append, exports_append, first]
      simp only [exports_append, nested, enums, exports_ofOneofs, extensions]
      rfl

theorem FileDescriptor.exports_visits (f : FileDescriptor) : Visit.exports f.visits = f.exports := by
  have messages : Visit.exports (MessageDescriptor.visitsAll [] f.messages) =
      MessageDescriptor.exportsAll [] f.messages := by
    rw [MessageDescriptor.visitsAll_eq, exports_flatMap, MessageDescriptor.exportsAll_eq]
    exact List.flatMap_congr fun m _ => m.exports_visits []
  rw [visits, exports_append, exports_append, messages, exports_map fun _ => rfl,
    exports_map fun _ => rfl]
  rfl

end FlowSchema
