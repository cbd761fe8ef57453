import FlowSchema.Proofs.Batches
import FlowSchema.Proofs.FileOrder

namespace FlowSchema

inductive Interleaved {α : Type} : List α → List α → List α → Prop
  | nil : Interleaved [] [] []
  | kept {x : α} {kept extra all : List α} (rest : Interleaved kept extra all) :
      Interleaved (x :: kept) extra (x :: all)
  | extra {x : α} {kept extra all : List α} (rest : Interleaved kept extra all) :
      Interleaved kept (x :: extra) (x :: all)

namespace Interleaved

variable {α κ β : Type} {kept extra all : List α}

theorem lookup_eq [BEq κ] [LawfulBEq κ] (h : Interleaved kept extra all) {g : α → List (κ × β)}
    {k : κ} (other : ∀ x ∈ extra, ∀ u ∈ g x, u.1 ≠ k) :
    (all.flatMap g).reverse.lookup k = (kept.flatMap g).reverse.lookup k := by
  induction h with
  | nil => rfl
  | kept _ ih =>
    simp only [List.flatMap_cons, List.reverse_append, List.lookup_append, ih other]
  | @extra x _ _ _ _ ih =>
    have absent : (g x).reverse.lookup k = none := by
      rw [List.lookup_eq_none_iff]
      intro u hu
      have ne := other x List.mem_cons_self u (List.mem_reverse.mp hu)
      simpa using ne.symm
    rw [List.flatMap_cons, List.reverse_append, List.lookup_append, absent, Option.or_none,
      ih fun y hy => other y (List.mem_cons_of_mem x hy)]

theorem findRev?_eq (h : Interleaved kept extra all) {p : α → Bool}
    (other : ∀ x ∈ extra, p x = false) : all.findRev? p = kept.findRev? p := by
  simp only [List.findRev?_eq_find?_reverse]
  induction h with
  | nil => rfl
  | kept _ ih => rw [List.reverse_cons, List.reverse_cons, List.find?_append, List.find?_append,
      ih other]
  | @extra x _ _ _ _ ih =>
    rw [List.reverse_cons, List.find?_append, ih fun y hy => other y (List.mem_cons_of_mem x hy)]
    simp [other x List.mem_cons_self]

end Interleaved

structure Registry.Extends (r r' : Registry) : Prop where
  message : ∀ n e, r.message? n = some e → r'.message? n = some e
  enum : ∀ n e, r.enum? n = some e → r'.enum? n = some e

namespace Registry

variable {files extra all : List FileDescriptor}

theorem extends_of_interleaved (h : Interleaved files extra all)
    (apart : ∀ f ∈ files, ∀ g ∈ extra, f.Apart g) : (ofFiles files).Extends (ofFiles all) where
  message n e he := by
    obtain ⟨f, hf, m, hm, -⟩ := message?_ofFiles he
    rw [message?, ofFiles_eq] at he ⊢
    rw [← he]
    refine h.lookup_eq fun g hg u hu => ?_
    obtain ⟨d, hd, rfl⟩ := List.mem_map.mp hu
    exact ((apart f hf g hg).messages (n, m) hm d hd).symm
  enum n e he := by
    obtain ⟨f, hf, d, hd, -⟩ := enum?_ofFiles he
    rw [enum?, ofFiles_eq] at he ⊢
    rw [← he]
    refine h.lookup_eq fun g hg u hu => ?_
    obtain ⟨d', hd', rfl⟩ := List.mem_map.mp hu
    exact ((apart f hf g hg).enums (n, d) hd d' hd').symm

end Registry

namespace FileScope

open MessageDescriptor

variable {r r' : Registry} (h : r.Extends r') {file : String} {dialect : Dialect}
include h

theorem messageEntry_mono {n : QualifiedName} {e : MessageEntry}
    (ok : messageEntry ⟨r, file, dialect⟩ n = .ok e) :
    messageEntry ⟨r', file, dialect⟩ n = .ok e := by
  unfold messageEntry at ok
  split at ok
  · rename_i entry hentry
    simp only [messageEntry, h.message _ _ hentry, ok]
  · cases ok

theorem enumEntry_mono {n : QualifiedName} {e : EnumEntry}
    (ok : enumEntry ⟨r, file, dialect⟩ n = .ok e) :
    enumEntry ⟨r', file, dialect⟩ n = .ok e := by
  unfold enumEntry at ok
  split at ok
  · rename_i entry hentry
    simp only [enumEntry, h.enum _ _ hentry, ok]
  · cases ok

theorem resolve_mono {t : FieldType} {typeName? : Option String} {type : FlowType}
    (ok : resolve ⟨r, file, dialect⟩ t typeName? = .ok type) :
    resolve ⟨r', file, dialect⟩ t typeName? = .ok type := by
  cases t with
  | message | group =>
    simp only [resolve, messageReference, map_eq_ok, bind_eq_ok, pure_eq_ok] at ok ⊢
    obtain ⟨ref, ⟨e, he, rfl⟩, rfl⟩ := ok
    exact ⟨_, ⟨e, messageEntry_mono h he, rfl⟩, rfl⟩
  | enum =>
    simp only [resolve, enumReference, map_eq_ok, bind_eq_ok, pure_eq_ok] at ok ⊢
    obtain ⟨ref, ⟨e, he, rfl⟩, rfl⟩ := ok
    exact ⟨_, ⟨e, enumEntry_mono h he, rfl⟩, rfl⟩
  | _ => exact ok

theorem fieldType_mono {f : FieldDescriptor} {type : FlowType}
    (ok : fieldType ⟨r, file, dialect⟩ f = .ok type) :
    fieldType ⟨r', file, dialect⟩ f = .ok type := by
  unfold fieldType at ok ⊢
  split at ok
  · exact ok
  · exact ok
  · exact resolve_mono h ok

theorem mapSides?_mono {f : FieldDescriptor} {sides? : Option MapSides}
    (ok : mapSides? ⟨r, file, dialect⟩ f = .ok sides?) :
    mapSides? ⟨r', file, dialect⟩ f = .ok sides? := by
  unfold mapSides? at ok ⊢
  split at ok
  · rename_i repeated
    obtain ⟨e, he, ok⟩ := bind_eq_ok.mp ok
    rw [if_pos repeated]
    exact bind_eq_ok.mpr ⟨e, messageEntry_mono h he, ok⟩
  · rename_i plain
    rw [if_neg plain]
    exact ok

theorem property_mono {f : FieldDescriptor} {p : Property}
    (ok : (property ⟨r, file, dialect⟩ f).outcome = .ok p) :
    (property ⟨r', file, dialect⟩ f).outcome = .ok p := by
  rw [property_outcome] at ok ⊢
  obtain ⟨sides?, hsides, ok⟩ := bind_eq_ok.mp ok
  refine bind_eq_ok.mpr ⟨sides?, mapSides?_mono h hsides, ?_⟩
  cases sides? with
  | none =>
    obtain ⟨type, htype, ok⟩ := bind_eq_ok.mp ok
    exact bind_eq_ok.mpr ⟨type, fieldType_mono h htype, ok⟩
  | some sides =>
    obtain ⟨key, hkey, ok⟩ := bind_eq_ok.mp ok
    obtain ⟨value, hvalue, ok⟩ := bind_eq_ok.mp ok
    exact bind_eq_ok.mpr ⟨key, resolve_mono h hkey,
      bind_eq_ok.mpr ⟨value, resolve_mono h hvalue, ok⟩⟩

theorem extension_mono {outer : String} {f : FieldDescriptor} {d : Declaration}
    (ok : (extension ⟨r, file, dialect⟩ outer f).outcome = .ok d) :
    (extension ⟨r', file, dialect⟩ outer f).outcome = .ok d := by
  rw [extension_outcome] at ok ⊢
  obtain ⟨type, htype, ok⟩ := bind_eq_ok.mp ok
  exact bind_eq_ok.mpr ⟨type, fieldType_mono h htype, ok⟩

theorem messageDeclarations_mono {outer : String} {m : MessageDescriptor} {ds : List Declaration}
    (ok : (messageDeclarations ⟨r, file, dialect⟩ outer m).outcome = .ok ds) :
    (messageDeclarations ⟨r', file, dialect⟩ outer m).outcome = .ok ds := by
  apply messageDeclarations_induction ?_ ?_ ok
  · intro outer m entry
    exact messageDeclarations_of_isMapEntry _ outer entry
  · intro outer m properties inner extensions plain hproperties hinner hextensions
    rw [messageDeclarations_outcome _ outer plain, messagesDeclarations_outcome]
    have properties_ok := mapM_eq_ok.mpr (hproperties.imp fun _ _ => property_mono h)
    have extensions_ok := mapM_eq_ok.mpr (hextensions.imp fun _ _ => extension_mono h)
    rw [properties_ok, mapM_eq_ok.mpr hinner, extensions_ok]
    rfl

theorem fileDeclarations_mono {f : FileDescriptor} {ds : List Declaration}
    (ok : (fileDeclarations ⟨r, file, dialect⟩ f).outcome = .ok ds) :
    (fileDeclarations ⟨r', file, dialect⟩ f).outcome = .ok ds := by
  obtain ⟨parts, extensions, hparts, hextensions, rfl⟩ := fileDeclarations_eq_ok ok
  rw [fileDeclarations_outcome, messagesDeclarations_outcome]
  have parts_ok := mapM_eq_ok.mpr (hparts.imp fun _ _ => messageDeclarations_mono h)
  have extensions_ok := mapM_eq_ok.mpr (hextensions.imp fun _ _ => extension_mono h)
  rw [parts_ok, extensions_ok]
  rfl

end FileScope

theorem FlowModule.ofFile_mono {r r' : Registry} (h : r.Extends r') {o : Options}
    {f : FileDescriptor} {m : FlowModule} (ok : (ofFile o r f).outcome = .ok m) :
    (ofFile o r' f).outcome = .ok m := by
  rw [ofFile_outcome] at ok ⊢
  obtain ⟨dialect, hdialect, ok⟩ := bind_eq_ok.mp ok
  obtain ⟨imports, himports, ok⟩ := bind_eq_ok.mp ok
  obtain ⟨declarations, hdeclarations, ok⟩ := bind_eq_ok.mp ok
  rw [hdialect, ok_bind, himports, ok_bind, FileScope.fileDeclarations_mono h hdeclarations]
  exact ok

variable {files extra all : List FileDescriptor}

theorem findFile_mono (h : Interleaved files extra all)
    (apart : ∀ f ∈ files, ∀ g ∈ extra, f.Apart g) {name : String} {f : FileDescriptor}
    (ok : findFile files name = .ok f) : findFile all name = .ok f := by
  obtain ⟨mem, rfl⟩ := findFile_eq_ok ok
  have same : all.findRev? (·.name = f.name) = files.findRev? (·.name = f.name) :=
    h.findRev?_eq fun g hg => decide_eq_false (apart f mem g hg).name.symm
  rwa [findFile, same]

theorem generateFile_mono (h : Interleaved files extra all)
    (apart : ∀ f ∈ files, ∀ g ∈ extra, f.Apart g) {o : Options} {name : String} {out : Output}
    (ok : (generateFile o (Registry.ofFiles files) files name).outcome = .ok out) :
    (generateFile o (Registry.ofFiles all) all name).outcome = .ok out := by
  obtain ⟨f, m, hf, hm, rfl⟩ := generateFile_eq_ok ok
  have lookups := Registry.extends_of_interleaved h apart
  rw [generateFile_outcome, findFile_mono h apart hf, ok_bind, FlowModule.ofFile_mono lookups hm]
  rfl

theorem generate_of_interleaved (o : Options) (files extra all : List FileDescriptor)
    (requested : List String) (outputs : List Output)
    (apart : ∀ f ∈ files, ∀ g ∈ extra, f.Apart g) (inserted : Interleaved files extra all)
    (ok : (generate o files requested).outcome = .ok outputs) :
    (generate o all requested).outcome = .ok outputs := by
  rw [generate_eq_ok] at ok ⊢
  exact ok.imp fun _ _ => generateFile_mono inserted apart

def coinFile : FileDescriptor where
  name? := some "coin.proto"
  package? := some "mint"
  messages := [{ name? := some "Coin" }]

def purseFile : FileDescriptor where
  name? := some "purse.proto"
  dependencies := ["coin.proto"]
  messages := [{
    name? := some "Purse"
    fields := [((FieldDescriptor.ofType "coins" 1 .message).withLabel .repeated).withTypeName
      ".Purse.CoinsEntry"]
    nested := [MapSides.entry ⟨⟨.string, none⟩, ⟨.message, some ".mint.Coin"⟩⟩ "CoinsEntry"] }]

def strayFile : FileDescriptor where
  name? := some "stray.proto"
  dialect? := some "proto9"
  messages := [{
    name? := some "Stray"
    fields := [(FieldDescriptor.ofType "gone" 1 .message).withTypeName ".Gone"]
    nested := [{ name? := some "PartsEntry", options? := some { mapEntry? := some true } }] }]

theorem generate_of_interleaved_strayFile :
    (∀ f ∈ [coinFile, purseFile], ∀ g ∈ [strayFile, strayFile], f.Apart g) ∧
    Interleaved [coinFile, purseFile] [strayFile, strayFile]
      [strayFile, coinFile, strayFile, purseFile] ∧
    ∃ outputs, (generate {} [coinFile, purseFile] ["purse.proto"]).outcome = .ok outputs ∧
      (generate {} [strayFile, coinFile, strayFile, purseFile] ["purse.proto"]).outcome =
        .ok outputs := by
  have coin : coinFile.Apart strayFile := ⟨by decide, by decide +kernel, by decide +kernel⟩
  have purse : purseFile.Apart strayFile := ⟨by decide, by decide +kernel, by decide +kernel⟩
  have apart : ∀ f ∈ [coinFile, purseFile], ∀ g ∈ [strayFile, strayFile], f.Apart g := by
    simpa using ⟨coin, purse⟩
  have inserted : Interleaved [coinFile, purseFile] [strayFile, strayFile]
      [strayFile, coinFile, strayFile, purseFile] := .extra (.kept (.extra (.kept .nil)))
  obtain ⟨outputs, ok⟩ : ∃ outputs,
      (generate {} [coinFile, purseFile] ["purse.proto"]).outcome = .ok outputs := by
    rw [← failureOf_eq_none]
    decide +kernel
  exact ⟨apart, inserted, outputs, ok, generate_of_interleaved {} _ _ _ _ outputs apart inserted ok⟩

end FlowSchema
