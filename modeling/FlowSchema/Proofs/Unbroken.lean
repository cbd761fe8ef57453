import FlowSchema.Identifier
import FlowSchema.Proofs.CaseMapping
import FlowSchema.Proofs.Dotted
import FlowSchema.Proofs.Lines
import FlowSchema.Proofs.SourcePaths
import FlowSchema.Proofs.Strings

namespace FlowSchema

open Text Layout

theorem isMark_break : Unicode.IsMark '\n' := ⟨by decide, by decide⟩

theorem unbroken_getD {s? : Option String} (h : ∀ s ∈ s?.toList, Unbroken s) :
    Unbroken (s?.getD "") :=
  getD_of_strings (by decide) h

theorem unbroken_repr (n : Int) : Unbroken n.repr := by
  have digits (k : Nat) : Unbroken k.repr := by
    intro h
    rw [Nat.toList_repr] at h
    exact absurd (Nat.isDigit_of_mem_toDigits (by decide) (by decide) h) (by decide)
  cases n with
  | ofNat k => exact digits k
  | negSucc k =>
    exact unbroken_append.mpr ⟨by decide, digits (k + 1)⟩

namespace Identifier

theorem unbroken_camel {s : String} (h : Unbroken s) : Unbroken (camel s) := by
  rw [camel, unbroken_ofList]
  exact fun hs => h (mem_of_mem_lower isMark_break (mem_of_mem_lowerCamel isMark_break hs))

theorem unbroken_fieldName {s : String} (h : Unbroken s) : Unbroken (fieldName s) := by
  rw [fieldName, escape]
  split
  · exact unbroken_append.mpr ⟨by decide, unbroken_camel h⟩
  · exact unbroken_camel h

theorem unbroken_oneofName {s : String} (h : Unbroken s) : Unbroken (oneofName s) := by
  rw [oneofName, unbroken_ofList]
  exact fun hs => h (mem_of_mem_lower isMark_break (mem_of_mem_upperCamel isMark_break hs))

theorem unbroken_constantName {s : String} (h : Unbroken s) : Unbroken (constantName s) := by
  rw [constantName, unbroken_ofList]
  exact fun hs => h (mem_of_mem_upper isMark_break hs)

theorem unbroken_nested {outer s : String} (ho : Unbroken outer) (h : Unbroken s) :
    Unbroken (nested outer s) := by
  rw [nested]
  split
  · exact h
  · exact unbroken_append.mpr ⟨unbroken_append.mpr ⟨ho, by decide⟩, h⟩

end Identifier

namespace QualifiedName

theorem unbroken_ofTypeName {s : String} (h : Unbroken s) : Unbroken (ofTypeName s).text := by
  have inner : Unbroken (String.ofList (s.toList.dropWhile isDot)) := by
    rw [unbroken_ofList]
    exact fun hs => h ((List.dropWhile_suffix isDot).subset hs)
  rw [ofTypeName_text, unbroken_append]
  exact ⟨by decide, inner⟩

theorem unbroken_bare {n : QualifiedName} (h : Unbroken n.text) : Unbroken n.bare := by
  unfold bare
  split
  · rename_i rest hrest
    rw [unbroken_ofList]
    exact fun hs => h (hrest ▸ List.mem_cons_of_mem '.' hs)
  · exact h

theorem unbroken_flatten {s : List Char} (h : '\n' ∉ s) :
    Unbroken (String.ofList (s.map fun c => if c = '.' then '_' else c)) := by
  rw [unbroken_ofList, List.mem_map]
  rintro ⟨c, hc, hb⟩
  split at hb
  · cases hb
  · exact h (hb ▸ hc)

theorem unbroken_within {n : QualifiedName} (h : Unbroken n.text) (package : String) :
    Unbroken (n.within package) := by
  have bare := unbroken_bare h
  unfold within
  apply unbroken_flatten
  split
  · exact bare
  · cases hs : (trimDots package.toList ++ ['.']).isPrefixOf? n.bare.toList with
    | none => exact bare
    | some rest =>
      intro hr
      rw [Unbroken, ← List.isPrefixOf?_eq_some_iff_append_eq.mp hs] at bare
      exact bare (List.mem_append_right _ hr)

end QualifiedName

namespace SourcePath

theorem unbroken_moduleAlias {path : String} (h : Unbroken path) : Unbroken (moduleAlias path) := by
  rw [moduleAlias, unbroken_append, unbroken_ofList, List.mem_map]
  refine ⟨?_, by decide⟩
  rintro ⟨c, hc, hb⟩
  split at hb
  · cases hb
  · exact h (hb ▸ mem_of_mem_stem hc)

theorem unbroken_importName {path : String} (h : Unbroken path) : Unbroken (importName path) := by
  rw [importName, unbroken_append, unbroken_ofList]
  exact ⟨fun hs => h (mem_of_mem_stem hs), by decide⟩

theorem unbroken_toRoot (path : String) : Unbroken (toRoot path) := by
  unfold toRoot
  split
  · decide
  · simp [Unbroken, String.toList_join]

end SourcePath

theorem Import.unbroken_text {o : Options} {file dependency : String}
    (ho : Unbroken o.wellKnownRoot) (hd : Unbroken dependency) :
    Unbroken (Import.ofDependency o file dependency).text := by
  have root : Unbroken (if isWellKnown dependency then o.wellKnownRoot ++ "/"
      else SourcePath.toRoot file) := by
    split
    · exact unbroken_append.mpr ⟨ho, by decide⟩
    · exact SourcePath.unbroken_toRoot file
  simp only [Import.text_eq, Import.ofDependency, unbroken_append]
  exact ⟨⟨⟨⟨by decide, SourcePath.unbroken_moduleAlias hd⟩, by decide⟩, root,
    SourcePath.unbroken_importName hd⟩, by decide⟩

structure Registry.IsUnbroken (r : Registry) : Prop where
  messageFile : ∀ n e, r.message? n = some e → Unbroken e.file
  enumFile : ∀ n e, r.enum? n = some e → Unbroken e.file
  sides : ∀ n e sides, r.message? n = some e → e.mapSides? = some sides →
    Unbroken (sides.key.typeName?.getD "") ∧ Unbroken (sides.value.typeName?.getD "")

theorem MessageDescriptor.unbroken_mapSides {m : MessageDescriptor} {sides : MapSides}
    (clean : ∀ s ∈ m.strings, Unbroken s) (h : m.mapSides? = some sides) :
    Unbroken (sides.key.typeName?.getD "") ∧ Unbroken (sides.value.typeName?.getD "") := by
  have side {f : FieldDescriptor} (hf : f ∈ m.fields) :
      Unbroken ((MapSide.ofField f).typeName?.getD "") := by
    have strings := (forall_strings.mp clean).2.1 f hf
    exact unbroken_getD (FieldDescriptor.forall_strings.mp strings).2.2.1
  obtain ⟨key, hkey, value, hvalue, rfl⟩ := mapSides?_eq_some h
  exact ⟨side hkey, side hvalue⟩

theorem Registry.isUnbroken_ofFiles {files : List FileDescriptor}
    (clean : ∀ f ∈ files, ∀ s ∈ f.strings, Unbroken s) : (ofFiles files).IsUnbroken where
  messageFile n e h := by
    obtain ⟨f, hf, m, -, rfl⟩ := message?_ofFiles h
    exact unbroken_getD (FileDescriptor.forall_strings.mp (clean f hf)).1
  enumFile n e h := by
    obtain ⟨f, hf, d, -, rfl⟩ := enum?_ofFiles h
    exact unbroken_getD (FileDescriptor.forall_strings.mp (clean f hf)).1
  sides n e sides h hs := by
    obtain ⟨f, hf, m, hm, rfl⟩ := message?_ofFiles h
    exact m.unbroken_mapSides (FileDescriptor.forall_strings_of_declared (clean f hf) hm) hs

end FlowSchema
