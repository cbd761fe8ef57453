import FlowSchema.Proofs.Nesting
import FlowSchema.Proofs.Rendering

namespace FlowSchema

open Identifier MessageDescriptor

namespace FileScope

variable {s : FileScope} {outer : String}

theorem messagesDeclarations_eq_ok {ms : List MessageDescriptor} {ds : List Declaration}
    (h : (s.messagesDeclarations outer ms).outcome = .ok ds) :
    ∃ parts, ds = parts.flatten ∧
      List.Forall₂ (fun m part => (s.messageDeclarations outer m).outcome = .ok part) ms parts := by
  rw [messagesDeclarations_outcome, map_eq_ok] at h
  obtain ⟨parts, hparts, rfl⟩ := h
  exact ⟨parts, rfl, mapM_eq_ok.mp hparts⟩

theorem messageDeclarations_eq_ok {m : MessageDescriptor} {ds : List Declaration}
    (plain : m.isMapEntry = false) (h : (s.messageDeclarations outer m).outcome = .ok ds) :
    ∃ properties inner extensions,
      List.Forall₂ (fun f p => (s.property f).outcome = .ok p) m.fields properties ∧
      List.Forall₂ (fun n part =>
        (s.messageDeclarations (nested outer m.name) n).outcome = .ok part) m.nested inner ∧
      List.Forall₂ (fun f d => (s.extension (nested outer m.name) f).outcome = .ok d)
        m.extensions extensions ∧
      ds = .object (nested outer m.name) properties ::
        (inner.flatten ++ m.enums.map (·.table (nested outer m.name))
          ++ m.tables (nested outer m.name) ++ extensions) := by
  rw [messageDeclarations_outcome s outer plain] at h
  simp only [bind_eq_ok, pure_eq_ok, mapM_eq_ok] at h
  obtain ⟨properties, hproperties, declarations, hmessages, extensions, hextensions, rfl⟩ := h
  obtain ⟨inner, rfl, hinner⟩ := messagesDeclarations_eq_ok hmessages
  exact ⟨properties, inner, extensions, hproperties, hinner, hextensions, rfl⟩

theorem messageDeclarations_induction {P : String → MessageDescriptor → List Declaration → Prop}
    (entry : ∀ outer m, m.isMapEntry = true → P outer m [])
    (message : ∀ outer m properties inner extensions, m.isMapEntry = false →
      List.Forall₂ (fun f p => (s.property f).outcome = .ok p) m.fields properties →
      List.Forall₂ (P (nested outer m.name)) m.nested inner →
      List.Forall₂ (fun f d => (s.extension (nested outer m.name) f).outcome = .ok d)
        m.extensions extensions →
      P outer m (.object (nested outer m.name) properties ::
        (inner.flatten ++ m.enums.map (·.table (nested outer m.name))
          ++ m.tables (nested outer m.name) ++ extensions)))
    {m : MessageDescriptor} {ds : List Declaration}
    (h : (s.messageDeclarations outer m).outcome = .ok ds) : P outer m ds := by
  induction m using nested_induction generalizing outer ds with
  | step m ih =>
    cases plain : m.isMapEntry with
    | true =>
      rw [messageDeclarations_of_isMapEntry s outer plain, Except.ok.injEq] at h
      rw [← h]
      exact entry outer m plain
    | false =>
      obtain ⟨properties, inner, extensions, hproperties, hinner, hextensions, rfl⟩ :=
        messageDeclarations_eq_ok plain h
      refine message outer m properties inner extensions plain hproperties ?_ hextensions
      exact forall₂_imp_of_mem hinner fun n hn _ h => ih n hn h

theorem fileDeclarations_eq_ok {f : FileDescriptor} {ds : List Declaration}
    (h : (s.fileDeclarations f).outcome = .ok ds) :
    ∃ parts extensions,
      List.Forall₂ (fun m part => (s.messageDeclarations "" m).outcome = .ok part)
        f.messages parts ∧
      List.Forall₂ (fun e d => (s.extension "" e).outcome = .ok d) f.extensions extensions ∧
      ds = parts.flatten ++ extensions ++ f.enums.map (·.table "") := by
  rw [fileDeclarations_outcome] at h
  simp only [bind_eq_ok, pure_eq_ok, mapM_eq_ok] at h
  obtain ⟨declarations, hmessages, extensions, hextensions, rfl⟩ := h
  obtain ⟨parts, rfl, hparts⟩ := messagesDeclarations_eq_ok hmessages
  exact ⟨parts, extensions, hparts, hextensions, rfl⟩

end FileScope

theorem FlowModule.ofFile_parts {o : Options} {r : Registry} {f : FileDescriptor} {m : FlowModule}
    (h : (FlowModule.ofFile o r f).outcome = .ok m) :
    ∃ dialect declarations, Dialect.ofFile f = .ok dialect ∧
      (FileScope.fileDeclarations ⟨r, f.name, dialect⟩ f).outcome = .ok declarations ∧
      m = ⟨f.package, f.name, f.dependencies.map (Import.ofDependency o f.name), declarations⟩ := by
  rw [ofFile_outcome] at h
  simp only [bind_eq_ok, pure_eq_ok, Import.ofDependencies] at h
  obtain ⟨dialect, hdialect, imports, ⟨-, -, rfl⟩, declarations, hdeclarations, rfl⟩ := h
  exact ⟨dialect, declarations, hdialect, hdeclarations, rfl⟩

theorem FlowModule.ofFile_eq_ok {o : Options} {r : Registry} {f : FileDescriptor} {m : FlowModule}
    (h : (FlowModule.ofFile o r f).outcome = .ok m) :
    ∃ dialect declarations,
      (FileScope.fileDeclarations ⟨r, f.name, dialect⟩ f).outcome = .ok declarations ∧
      m = ⟨f.package, f.name, f.dependencies.map (Import.ofDependency o f.name), declarations⟩ := by
  obtain ⟨dialect, declarations, -, parts⟩ := ofFile_parts h
  exact ⟨dialect, declarations, parts⟩

theorem findFile_eq_ok {files : List FileDescriptor} {name : String} {f : FileDescriptor}
    (h : findFile files name = .ok f) : f ∈ files ∧ f.name = name := by
  rw [findFile, List.findRev?_eq_find?_reverse] at h
  split at h
  · rename_i g hg
    cases h
    have named := List.find?_some hg
    exact ⟨List.mem_reverse.mp (List.mem_of_find?_eq_some hg), of_decide_eq_true named⟩
  · cases h

theorem generateFile_eq_ok {o : Options} {r : Registry} {files : List FileDescriptor}
    {name : String} {out : Output} (h : (generateFile o r files name).outcome = .ok out) :
    ∃ f m, findFile files name = .ok f ∧ (FlowModule.ofFile o r f).outcome = .ok m ∧
      out = ⟨SourcePath.outputName name, m.render o.exactObjects⟩ := by
  rw [generateFile_outcome] at h
  simp only [bind_eq_ok, pure_eq_ok] at h
  obtain ⟨f, hf, m, hm, rfl⟩ := h
  exact ⟨f, m, hf, hm, rfl⟩

end FlowSchema
