import FlowSchema.Descriptor.Draft
import FlowSchema.Proofs.Acceptance
import FlowSchema.Proofs.ExportLines
import FlowSchema.Proofs.Mentions
import FlowSchema.Proofs.SourcePaths

namespace FlowSchema

open Text

theorem filter_eq_singleton {α β : Type} [DecidableEq β] {k : α → β} {l : List α} {a : α}
    (distinct : (l.map k).Nodup) (ha : a ∈ l) : l.filter (fun b => k b = k a) = [a] := by
  induction l with
  | nil => cases ha
  | cons b l ih =>
    rw [List.map_cons, List.nodup_cons] at distinct
    rcases List.mem_cons.mp ha with rfl | ha
    · have none : l.filter (fun b => k b = k a) = [] := by
        rw [List.filter_eq_nil_iff]
        intro b hb heq
        exact distinct.1 (List.mem_map.mpr ⟨b, hb, by simpa using heq⟩)
      rw [List.filter_cons, if_pos (by simp), none]
    · have ne : k b ≠ k a := fun heq => distinct.1 (List.mem_map.mpr ⟨a, ha, heq.symm⟩)
      rw [List.filter_cons, if_neg (by simpa using ne), ih distinct.2 ha]

namespace Import

open SourcePath

variable {o : Options} {file d e : String}

theorem ofDependency_eq_iff :
    ofDependency o file d = ofDependency o file e ↔ outputName d = outputName e := by
  rw [outputName_eq_iff]
  constructor
  · intro h
    have aliases := congrArg (fun i => i.moduleAlias.toList.length) h
    have specifiers := congrArg (fun i => i.specifier.toList) h
    have lengths : (stem d).length = (stem e).length := by
      simpa [ofDependency, SourcePath.moduleAlias] using aliases
    simp only [ofDependency, importName, String.toList_append, String.toList_ofList] at specifiers
    obtain ⟨-, names⟩ := List.append_inj' specifiers (by simp [lengths])
    exact List.append_cancel_right names
  · intro h
    have wellKnown : isWellKnown d = isWellKnown e := by
      rw [isWellKnown_eq, isWellKnown_eq, h]
    rw [ofDependency, ofDependency, SourcePath.moduleAlias, SourcePath.moduleAlias, importName,
      importName, h, wellKnown]

theorem bound_iff {dependencies : List String}
    (distinct : (dependencies.map SourcePath.moduleAlias).Nodup) :
    (dependencies.map (ofDependency o file)).filter
        (fun i => i.moduleAlias = SourcePath.moduleAlias e) = [ofDependency o file e] ↔
      ∃ d ∈ dependencies, outputName d = outputName e := by
  constructor
  · intro h
    have mem : ofDependency o file e ∈ (dependencies.map (ofDependency o file)).filter
        (fun i => i.moduleAlias = SourcePath.moduleAlias e) := by
      rw [h]
      exact List.mem_singleton_self _
    obtain ⟨d, hd, heq⟩ := List.mem_map.mp (List.mem_of_mem_filter mem)
    exact ⟨d, hd, ofDependency_eq_iff.mp heq⟩
  · rintro ⟨d, hd, same⟩
    have aliases : ((dependencies.map (ofDependency o file)).map Import.moduleAlias).Nodup := by
      rwa [List.map_map]
    rw [← ofDependency_eq_iff.mpr same]
    have alone := filter_eq_singleton aliases (List.mem_map_of_mem hd)
    rwa [ofDependency_eq_iff.mpr same] at alone ⊢

end Import

def Mention.target : Mention → Reference
  | object target => target
  | valuesOf target => target

def FileDescriptor.Declares (g : FileDescriptor) (u : TypeUse) : Prop :=
  (u.type ≠ .enum ∧ ∃ m, (u.name, m) ∈ g.declaredMessages) ∨
    (u.type = .enum ∧ ∃ e, (u.name, e) ∈ g.declaredEnums)

structure Reached (o : Options) (f g : FileDescriptor) (imports : List Import)
    (target : Reference) : Prop where
  qualifier : target.moduleAlias? =
    if g.name = f.name then none else some (SourcePath.moduleAlias g.name)
  bound_iff : imports.filter (fun i => i.moduleAlias = SourcePath.moduleAlias g.name) =
      [Import.ofDependency o f.name g.name] ↔
    ∃ d ∈ f.dependencies, SourcePath.outputName d = SourcePath.outputName g.name

theorem qualifiers_reached {o : Options} {files : List FileDescriptor} {f : FileDescriptor}
    {out : Output} (ho : ∀ s ∈ o.strings, Unbroken s)
    (clean : ∀ g ∈ files, ∀ s ∈ g.strings, Unbroken s) (hf : findFile files f.name = .ok f)
    (h : (generateFile o (Registry.ofFiles files) files f.name).outcome = .ok out) :
    ∃ m, (FlowModule.ofFile o (Registry.ofFiles files) f).outcome = .ok m ∧
      out.content = m.render o.exactObjects ∧
      (lines out.content).filter (startsWith "import ") = m.imports.map Import.text ∧
      List.Forall₂
        (fun u mention => ∃ g ∈ files, g.Declares u ∧ Reached o f g m.imports mention.target)
        (f.uses (Registry.ofFiles files)) m.mentions := by
  obtain ⟨g, m, hg, hm, rfl⟩ := generateFile_eq_ok h
  obtain rfl := Except.ok.inj (hf.symm.trans hg)
  obtain ⟨mem, -⟩ := findFile_eq_ok hf
  have hr := Registry.isUnbroken_ofFiles clean
  have blank : [""].filter (startsWith "import ") = [] := by decide
  obtain ⟨dialect, written⟩ := FlowModule.mentions_ofFile hm
  have distinct := (FlowModule.accepts_of_ofFile hm).aliases
  obtain ⟨-, declarations, -, rfl⟩ := FlowModule.ofFile_eq_ok hm
  refine ⟨_, hm, rfl, ?_, written.imp fun u mention writes => ?_⟩
  · rw [FlowModule.lines_render hm hr ho (clean f mem), List.filter_append,
      FlowModule.imports_layout, blank, List.append_nil]
  · cases writes with
    | message kind entry =>
      obtain ⟨g, hg, d, hd, rfl⟩ := Registry.message?_ofFiles entry
      exact ⟨g, hg, .inl ⟨kind, d, hd⟩, rfl, Import.bound_iff distinct⟩
    | enum kind entry =>
      obtain ⟨g, hg, d, hd, rfl⟩ := Registry.enum?_ofFiles entry
      exact ⟨g, hg, .inr ⟨kind, d, hd⟩, rfl, Import.bound_iff distinct⟩

def basketFile : FileDescriptor where
  name? := some "basket.proto"
  dependencies := ["prices.proto"]
  messages := [{
    name? := some "Basket"
    fields := [(FieldDescriptor.ofType "total" 1 .message).withTypeName ".Money"] }]

/-- The basket sees money through the prices only, as after a public import. -/
def basketFiles : List FileDescriptor :=
  [{ name? := some "money.proto", messages := [{ name? := some "Money" }] },
    { name? := some "prices.proto", dependencies := ["money.proto"] }, basketFile]

def basketModule : FlowModule where
  package := ""
  file := "basket.proto"
  imports := [⟨"prices_pb", "./prices_pb"⟩]
  declarations := [.object "Basket" [⟨"total", true, .object ⟨some "money_pb", "Money"⟩⟩]]

theorem qualifiers_reached_basketFile : ∃ out,
    (generateFile {} (Registry.ofFiles basketFiles) basketFiles basketFile.name).outcome = .ok out ∧
    (lines out.content).filter (startsWith "import ") =
      ["import * as prices_pb from \"./prices_pb\";"] ∧
    ∃ g ∈ basketFiles, Reached {} basketFile g basketModule.imports ⟨some "money_pb", "Money"⟩ ∧
      ¬∃ d ∈ basketFile.dependencies, SourcePath.outputName d = SourcePath.outputName g.name := by
  have ok : (generateFile {} (Registry.ofFiles basketFiles) basketFiles basketFile.name).outcome =
      .ok ⟨"basket_pb.js", basketModule.render false⟩ := by decide +kernel
  obtain ⟨m, hm, -, imports, reached⟩ :=
    qualifiers_reached (by decide : ∀ s ∈ Options.strings {}, Unbroken s) (by decide) rfl ok
  have ofFile : (FlowModule.ofFile {} (Registry.ofFiles basketFiles) basketFile).outcome =
      .ok basketModule := by decide +kernel
  rw [ofFile] at hm
  cases hm
  have uses : basketFile.uses (Registry.ofFiles basketFiles) = [⟨.message, ⟨".Money"⟩⟩] := by
    decide +kernel
  rw [uses] at reached
  obtain ⟨⟨g, hg, -, money⟩, -⟩ := List.forall₂_cons.mp reached
  have missing : ∀ g ∈ basketFiles, some "money_pb" =
      (if g.name = basketFile.name then none else some (SourcePath.moduleAlias g.name)) →
      ¬∃ d ∈ basketFile.dependencies, SourcePath.outputName d = SourcePath.outputName g.name := by
    decide
  exact ⟨_, ok, imports, g, hg, money, missing g hg money.qualifier⟩

end FlowSchema
