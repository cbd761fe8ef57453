import FlowSchema.Declarations

namespace FlowSchema

open Identifier

inductive Export
  | type (name : String)
  | const (name : String)
deriving DecidableEq

namespace Export

def line (exact : Bool) : Export → String
  | type name => "export type " ++ name ++ " = " ++ (if exact then "\x7b|" else "\x7b")
  | const name => "export const " ++ name ++ " = Object.freeze(\x7b"

def pathName (path : List String) : String := "_".intercalate path

def ofEnum (path : List String) (e : EnumDescriptor) : Export :=
  .const (pathName (path ++ [e.name]))

def ofExtension (path : List String) (f : FieldDescriptor) : Export :=
  .type (pathName (path ++ [fieldName f.name]))

def ofOneofs (path : List String) (m : MessageDescriptor) : List Export :=
  m.oneofs.zipIdx.flatMap fun (o, i) =>
    if m.members i ≠ [] ∧ ∀ f ∈ m.members i, f.proto3Optional = true then []
    else [.const (pathName (path ++ [oneofName o.name ++ "Case"]))]

end Export

namespace MessageDescriptor

mutual

def exports (path : List String) : MessageDescriptor → List Export
  | m@{ nested := inner, .. } =>
    if m.isMapEntry then []
    else .type (Export.pathName (path ++ [m.name]))
      :: (exportsAll (path ++ [m.name]) inner
        ++ m.enums.map (Export.ofEnum (path ++ [m.name]))
        ++ Export.ofOneofs (path ++ [m.name]) m
        ++ m.extensions.map (Export.ofExtension (path ++ [m.name])))

def exportsAll (path : List String) : List MessageDescriptor → List Export
  | [] => []
  | m :: ms => m.exports path ++ exportsAll path ms

end

theorem exportsAll_eq (path : List String) (ms : List MessageDescriptor) :
    exportsAll path ms = ms.flatMap (exports path) := by
  induction ms with
  | nil => rfl
  | cons m ms ih => rw [exportsAll, ih, List.flatMap_cons]

theorem exports_of_isMapEntry {m : MessageDescriptor} (h : m.isMapEntry = true)
    (path : List String) : m.exports path = [] := by
  cases m
  rw [exports, if_pos h]

theorem exports_eq {m : MessageDescriptor} (h : m.isMapEntry = false) (path : List String) :
    m.exports path = .type (Export.pathName (path ++ [m.name]))
      :: (exportsAll (path ++ [m.name]) m.nested
        ++ m.enums.map (Export.ofEnum (path ++ [m.name]))
        ++ Export.ofOneofs (path ++ [m.name]) m
        ++ m.extensions.map (Export.ofExtension (path ++ [m.name]))) := by
  cases m
  rw [exports, if_neg (by simp [h])]

end MessageDescriptor

def FileDescriptor.exports (f : FileDescriptor) : List Export :=
  MessageDescriptor.exportsAll [] f.messages ++ f.extensions.map (Export.ofExtension [])
    ++ f.enums.map (Export.ofEnum [])

namespace Export

theorem pathName_ne_empty {path : List String} (named : ∀ s ∈ path, s ≠ "") (h : path ≠ []) :
    pathName path ≠ "" := by
  cases path with
  | nil => exact absurd rfl h
  | cons s path =>
    have hs := named s List.mem_cons_self
    cases path with
    | nil => simpa [pathName] using hs
    | cons t path => simp [pathName]

theorem nested_pathName {path : List String} (named : ∀ s ∈ path, s ≠ "") (name : String) :
    nested (pathName path) name = pathName (path ++ [name]) := by
  by_cases h : path = []
  · rw [h]
    rfl
  · rw [nested, if_neg (pathName_ne_empty named h), pathName, pathName,
      String.intercalate_append_of_ne_nil h (by simp), String.intercalate_singleton]

end Export

end FlowSchema
