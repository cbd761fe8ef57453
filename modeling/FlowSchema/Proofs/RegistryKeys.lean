import FlowSchema.Proofs.JoinedNames
import FlowSchema.Proofs.Registered
import FlowSchema.Proofs.Rendering

namespace FlowSchema

namespace QualifiedName

/-- A name starts with a dot, and with the package and another dot if there is one. The dots around
a package do not count. -/
structure StartsWithPackage (n : QualifiedName) (package : String) : Prop where
  dot : ['.'] <+: n.text.toList
  package : trimDots package.toList ≠ [] →
    '.' :: trimDots package.toList ++ ['.'] <+: n.text.toList

structure LeavesPackage (n : QualifiedName) (package : String) : Prop where
  found : trimDots package.toList ≠ [] →
    ((trimDots package.toList ++ ['.']).isPrefixOf? n.bare.toList).isSome = true
  rest : ∃ rest : List Char,
    n.text.toList =
      '.' :: ((if trimDots package.toList = [] then [] else trimDots package.toList ++ ['.'])
        ++ rest) ∧
    (n.within package).toList = rest.map fun c => if c = '.' then '_' else c

variable {n : QualifiedName} {package : String}

theorem StartsWithPackage.join (h : n.StartsWithPackage package) (part : String) :
    (n.join part).StartsWithPackage package := by
  have longer : n.text.toList <+: (n.join part).text.toList := by
    rw [QualifiedName.join, String.toList_append, String.toList_append, List.append_assoc]
    exact List.prefix_append _ _
  exact ⟨h.dot.trans longer, fun ne => (h.package ne).trans longer⟩

theorem startsWithPackage_ofPackage (package part : String) :
    ((ofPackage package).join part).StartsWithPackage package := by
  have text : ((ofPackage package).join part).text.toList =
      (if package = "" then [] else ['.']) ++ trimDots package.toList ++ '.' :: part.toList := by
    rw [QualifiedName.join, String.toList_append, String.toList_append, ofPackage_toList,
      List.append_assoc]
    rfl
  by_cases h : package = ""
  · constructor
    · rw [text, h]
      exact List.prefix_append ['.'] part.toList
    · intro ne
      rw [h] at ne
      exact absurd rfl ne
  · rw [if_neg h] at text
    constructor
    · rw [text, List.append_assoc]
      exact List.prefix_append ['.'] _
    · intro _
      refine ⟨part.toList, ?_⟩
      rw [text, List.append_assoc, List.append_assoc]
      rfl

theorem StartsWithPackage.leavesPackage (h : n.StartsWithPackage package) :
    n.LeavesPackage package := by
  by_cases ne : trimDots package.toList = []
  · obtain ⟨rest, text⟩ := h.dot
    have bare : n.bare.toList = rest := bare_toList text.symm
    constructor
    · intro some
      exact absurd ne some
    · refine ⟨rest, ?_, ?_⟩
      · rw [if_pos ne]
        exact text.symm
      · rw [within, ne, bare]
        exact String.toList_ofList
  · obtain ⟨rest, text⟩ := h.package ne
    have bare : n.bare.toList = trimDots package.toList ++ ['.'] ++ rest := bare_toList text.symm
    have found : (trimDots package.toList ++ ['.']).isPrefixOf? n.bare.toList = some rest := by
      rw [List.isPrefixOf?_eq_some_iff_append_eq, bare]
    constructor
    · intro _
      rw [found]
      rfl
    · refine ⟨rest, ?_, ?_⟩
      · rw [if_neg ne]
        exact text.symm
      · unfold within
        split
        · rename_i nil
          exact absurd nil ne
        · rw [found, Option.getD_some]
          exact String.toList_ofList

end QualifiedName

open QualifiedName

theorem MessageDescriptor.startsWithPackage_of_declared {package : String}
    {k m : MessageDescriptor} {scope n : QualifiedName} (h : (n, m) ∈ k.declared scope)
    (inside : ∀ part, (scope.join part).StartsWithPackage package) :
    n.StartsWithPackage package := by
  induction k using nested_induction generalizing scope with
  | step k ih =>
    rw [declared_eq, declaredAll_eq, List.mem_append, List.mem_flatMap, List.mem_singleton] at h
    rcases h with ⟨l, hl, h⟩ | h
    · exact ih l hl h fun part => (inside k.name).join part
    · cases h
      exact inside m.name

namespace FileDescriptor

variable {f : FileDescriptor} {n : QualifiedName}

theorem startsWithPackage_of_message {m : MessageDescriptor} (h : (n, m) ∈ f.declaredMessages) :
    n.StartsWithPackage f.package := by
  rw [declaredMessages, MessageDescriptor.declaredAll_eq] at h
  obtain ⟨k, -, h⟩ := List.mem_flatMap.mp h
  exact MessageDescriptor.startsWithPackage_of_declared h (startsWithPackage_ofPackage f.package)

theorem startsWithPackage_of_enum {e : EnumDescriptor} (h : (n, e) ∈ f.declaredEnums) :
    n.StartsWithPackage f.package := by
  rcases List.mem_append.mp h with h | h
  · obtain ⟨⟨scope, m⟩, hm, h⟩ := List.mem_flatMap.mp h
    obtain ⟨d, -, heq⟩ := List.mem_map.mp h
    cases heq
    exact (startsWithPackage_of_message hm).join _
  · obtain ⟨d, -, heq⟩ := List.mem_map.mp h
    cases heq
    exact startsWithPackage_ofPackage f.package _

end FileDescriptor

namespace Registry

structure IsFiled (r : Registry) : Prop where
  messages : ∀ n e, (n, e) ∈ r.messages → n.StartsWithPackage e.package
  enums : ∀ n e, (n, e) ∈ r.enums → n.StartsWithPackage e.package

theorem isFiled_empty : empty.IsFiled := by
  constructor
  · intro n e mem
    cases mem
  · intro n e mem
    cases mem

theorem IsFiled.insert {r : Registry} (h : r.IsFiled) (f : FileDescriptor) :
    (r.insert f).IsFiled := by
  constructor
  · intro n e mem
    rcases List.mem_append.mp mem with new | old
    · obtain ⟨⟨n, m⟩, hm, heq⟩ := List.mem_map.mp (List.mem_reverse.mp new)
      cases heq
      exact FileDescriptor.startsWithPackage_of_message hm
    · exact h.messages n e old
  · intro n e mem
    rcases List.mem_append.mp mem with new | old
    · obtain ⟨⟨n, d⟩, hd, heq⟩ := List.mem_map.mp (List.mem_reverse.mp new)
      cases heq
      exact FileDescriptor.startsWithPackage_of_enum hd
    · exact h.enums n e old

theorem IsFiled.insertAll {r : Registry} (h : r.IsFiled) (files : List FileDescriptor) :
    (files.foldl Registry.insert r).IsFiled := by
  induction files generalizing r with
  | nil => exact h
  | cons f files ih => exact ih (h.insert f)

theorem names_start_with_package (files : List FileDescriptor) :
    ∃ r, (empty.addAll files).outcome = .ok r ∧
      (∀ n e, r.message? n = some e →
        n.StartsWithPackage e.package ∧ n.LeavesPackage e.package) ∧
      (∀ n e, r.enum? n = some e → n.StartsWithPackage e.package ∧ n.LeavesPackage e.package) ∧
      ∀ f : FileDescriptor, f.package = "" → f.scope.text = "" := by
  have filed : (files.foldl Registry.insert empty).IsFiled := isFiled_empty.insertAll files
  refine ⟨_, addAll_outcome empty files, fun n e h => ?_, fun n e h => ?_, fun f h => ?_⟩
  · have starts := filed.messages n e (mem_of_lookup_eq_some h)
    exact ⟨starts, starts.leavesPackage⟩
  · have starts := filed.enums n e (mem_of_lookup_eq_some h)
    exact ⟨starts, starts.leavesPackage⟩
  · rw [FileDescriptor.scope, h]
    rfl

def stallFile : FileDescriptor where
  name? := some "stall.proto"
  package? := some ".shop."
  messages := [{ name? := some "Order" }]
  enums := [{ name? := some "Kind" }]

def looseFile : FileDescriptor where
  name? := some "loose.proto"
  messages := [{ name? := some "shop", nested := [{ name? := some "Order" }] }]

theorem names_start_with_package_stallFile :
    ∃ r, (empty.addAll [stallFile, looseFile]).outcome = .ok r ∧
      r.message? ⟨".shop.Order"⟩ = some ⟨"loose.proto", "", false, none⟩ ∧
      r.enum? ⟨".shop.Kind"⟩ = some ⟨"stall.proto", ".shop."⟩ ∧
      (⟨".shop.Order"⟩ : QualifiedName).LeavesPackage "" ∧
      (⟨".shop.Kind"⟩ : QualifiedName).LeavesPackage ".shop." := by
  obtain ⟨r, run, messages, enums, -⟩ := names_start_with_package [stallFile, looseFile]
  obtain rfl := Except.ok.inj ((addAll_outcome empty [stallFile, looseFile]).symm.trans run)
  have message : (ofFiles [stallFile, looseFile]).message? ⟨".shop.Order"⟩ =
      some ⟨"loose.proto", "", false, none⟩ := by decide +kernel
  have enum : (ofFiles [stallFile, looseFile]).enum? ⟨".shop.Kind"⟩ =
      some ⟨"stall.proto", ".shop."⟩ := by decide +kernel
  exact ⟨_, run, message, enum, (messages _ _ message).2, (enums _ _ enum).2⟩

end Registry

end FlowSchema
