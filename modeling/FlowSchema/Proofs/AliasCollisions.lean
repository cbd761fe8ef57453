import FlowSchema.Proofs.Acceptance
import Mathlib.Data.List.Nodup

namespace FlowSchema.Import

structure FirstCollision (dependencies : List String) (i j : Nat) (first second : String) :
    Prop where
  first_at : dependencies[i]? = some first
  second_at : dependencies[j]? = some second
  before : i < j
  same : SourcePath.moduleAlias first = SourcePath.moduleAlias second
  earliest : ((dependencies.take j).map SourcePath.moduleAlias).Nodup
  alone : ∀ (k : Nat) (d : String), k < j → dependencies[k]? = some d →
    SourcePath.moduleAlias d = SourcePath.moduleAlias second → k = i

namespace FirstCollision

variable {dependencies : List String} {i j i' j' : Nat} {first second first' second' : String}

theorem not_nodup_take (h : FirstCollision dependencies i j first second) {n : Nat} (hn : j < n) :
    ¬((dependencies.take n).map SourcePath.moduleAlias).Nodup := by
  intro distinct
  obtain ⟨bound, -⟩ := List.getElem?_eq_some_iff.mp h.second_at
  refine List.nodup_iff_getElem?_ne_getElem?.mp distinct i j h.before ?_ ?_
  · rw [List.length_map, List.length_take]
    omega
  · have bound' : i < n := Nat.lt_trans h.before hn
    simp only [List.getElem?_map, List.getElem?_take, bound', hn, if_true, h.first_at, h.second_at,
      Option.map_some, h.same]

theorem not_nodup (h : FirstCollision dependencies i j first second) :
    ¬(dependencies.map SourcePath.moduleAlias).Nodup := by
  obtain ⟨bound, -⟩ := List.getElem?_eq_some_iff.mp h.second_at
  have whole := h.not_nodup_take bound
  rwa [List.take_length] at whole

theorem unique (h : FirstCollision dependencies i j first second)
    (h' : FirstCollision dependencies i' j' first' second') : first = first' ∧ second = second' := by
  obtain rfl : j = j' := by
    rcases Nat.lt_trichotomy j j' with lt | eq | gt
    · exact absurd h'.earliest (h.not_nodup_take lt)
    · exact eq
    · exact absurd h.earliest (h'.not_nodup_take gt)
  have seconds := h.second_at.symm.trans h'.second_at
  obtain rfl := Option.some.inj seconds
  obtain rfl := h'.alone i first h.before h.first_at h.same
  exact ⟨Option.some.inj (h.first_at.symm.trans h'.first_at), rfl⟩

theorem of_find? {before after : List String}
    (distinct : (before.map SourcePath.moduleAlias).Nodup)
    (found : before.find? (SourcePath.moduleAlias · = SourcePath.moduleAlias second) = some first) :
    ∃ i, FirstCollision (before ++ second :: after) i before.length first second := by
  have same : SourcePath.moduleAlias first = SourcePath.moduleAlias second := by
    simpa using List.find?_some found
  obtain ⟨i, hi⟩ := List.mem_iff_getElem?.mp (List.mem_of_find?_eq_some found)
  obtain ⟨bound, -⟩ := List.getElem?_eq_some_iff.mp hi
  have front {k : Nat} (hk : k < before.length) :
      (before ++ second :: after)[k]? = before[k]? := List.getElem?_append_left hk
  refine ⟨i, (front bound).trans hi, by simp, bound, same, by simpa using distinct, ?_⟩
  intro k d hk hd shared
  rw [front hk] at hd
  have both : (before.map SourcePath.moduleAlias)[k]? = (before.map SourcePath.moduleAlias)[i]? := by
    rw [List.getElem?_map, List.getElem?_map, hd, hi, Option.map_some, Option.map_some, shared,
      same]
  exact (List.getElem?_inj (by simpa using hk) distinct).mp both

end FirstCollision

theorem checkAliases_eq_error {dependencies : List String} {e : Failure}
    (h : checkAliases [] dependencies = .error e) :
    ∃ before second after first, dependencies = before ++ second :: after ∧
      (before.map SourcePath.moduleAlias).Nodup ∧
      before.find? (SourcePath.moduleAlias · = SourcePath.moduleAlias second) = some first ∧
      e = .aliasCollision (SourcePath.moduleAlias second) first second := by
  rw [← failureOf_eq_some, FileDescriptor.failureOf_checkAliases, List.head?_filterMap,
    List.findSome?_eq_some_iff] at h
  obtain ⟨front, ⟨second, j⟩, rear, split, fault, free⟩ := h
  obtain ⟨before, rest, rfl, rfl, hrest⟩ := List.zipIdx_eq_append_iff.mp split
  obtain ⟨d, after, rfl, hd, -⟩ := List.zipIdx_eq_cons_iff.mp hrest.symm
  obtain ⟨rfl, rfl⟩ := Prod.mk.inj hd
  have distinct : (before.map SourcePath.moduleAlias).Nodup := by
    rw [← FileDescriptor.aliasFaults_eq_nil (f := { dependencies := before }),
      FileDescriptor.aliasFaults, List.filterMap_eq_nil_iff]
    intro x hx
    have bound : x.2 < before.length := List.snd_lt_of_mem_zipIdx hx
    have clean := free x hx
    rwa [List.nil_append, List.take_append_of_le_length (by omega)] at clean
  simp only [List.nil_append, List.length_nil, Nat.zero_add, List.take_left, aliasFault?,
    Option.map_eq_some_iff] at fault
  obtain ⟨first, found, rfl⟩ := fault
  exact ⟨before, second, after, first, rfl, distinct, found, rfl⟩

theorem failureOf_ofDependencies (o : Options) (file : String) (dependencies : List String) :
    failureOf (ofDependencies o file dependencies) = failureOf (checkAliases [] dependencies) := by
  rw [ofDependencies, failureOf_bind fun _ _ => failureOf_pure _, Option.or_none]

theorem ofDependencies_eq_ok {o : Options} {file : String} {dependencies : List String}
    {imports : List Import} : ofDependencies o file dependencies = .ok imports ↔
      (dependencies.map SourcePath.moduleAlias).Nodup ∧
        imports = dependencies.map (ofDependency o file) := by
  have checked : failureOf (checkAliases [] dependencies) = none ↔
      (dependencies.map SourcePath.moduleAlias).Nodup := by
    rw [FileDescriptor.failureOf_checkAliases, List.head?_eq_none_iff]
    exact FileDescriptor.aliasFaults_eq_nil (f := { dependencies := dependencies })
  rw [ofDependencies, bind_eq_ok, ← checked, failureOf_eq_none]
  simp only [pure_eq_ok, exists_and_right, eq_comm (a := imports)]

theorem ofDependencies_exact (o : Options) (file : String) (dependencies : List String) :
    ((∃ imports, ofDependencies o file dependencies = .ok imports) ↔
      (dependencies.map SourcePath.moduleAlias).Nodup) ∧
    (∀ imports, ofDependencies o file dependencies = .ok imports →
      List.Forall₂ (fun d i => i = ofDependency o file d ∧ i.text =
        "import * as " ++ SourcePath.moduleAlias d ++ " from \"" ++ i.specifier ++ "\";")
        dependencies imports ∧
      (imports.map Import.moduleAlias).Nodup) ∧
    ∀ e, ofDependencies o file dependencies = .error e ↔
      ∃ i j first second, FirstCollision dependencies i j first second ∧
        e = .aliasCollision (SourcePath.moduleAlias second) first second := by
  have accepted : (∃ imports, ofDependencies o file dependencies = .ok imports) ↔
      (dependencies.map SourcePath.moduleAlias).Nodup := by
    simp only [ofDependencies_eq_ok, exists_and_left, exists_eq, and_true]
  have refused {e : Failure} (h : ofDependencies o file dependencies = .error e) :
      ∃ i j first second, FirstCollision dependencies i j first second ∧
        e = .aliasCollision (SourcePath.moduleAlias second) first second := by
    rw [← failureOf_eq_some, failureOf_ofDependencies, failureOf_eq_some] at h
    obtain ⟨before, second, after, first, rfl, distinct, found, rfl⟩ := checkAliases_eq_error h
    obtain ⟨i, collision⟩ := FirstCollision.of_find? distinct found
    exact ⟨i, before.length, first, second, collision, rfl⟩
  refine ⟨accepted, fun imports h => ?_, fun e => ⟨refused, ?_⟩⟩
  · obtain ⟨distinct, rfl⟩ := ofDependencies_eq_ok.mp h
    refine ⟨?_, by rwa [List.map_map]⟩
    rw [List.forall₂_map_right_iff, List.forall₂_same]
    exact fun d _ => ⟨rfl, rfl⟩
  · rintro ⟨i, j, first, second, collision, rfl⟩
    cases h : ofDependencies o file dependencies with
    | ok imports => exact absurd (accepted.mp ⟨imports, h⟩) collision.not_nodup
    | error e =>
      obtain ⟨i', j', first', second', collision', rfl⟩ := refused h
      obtain ⟨rfl, rfl⟩ := collision.unique collision'
      rfl

def crossing : List String := ["a/b.proto", "c.proto", "c", "a-b.proto"]

theorem firstCollision_crossing : FirstCollision crossing 1 2 "c.proto" "c" where
  first_at := rfl
  second_at := rfl
  before := by decide
  same := by decide
  earliest := by decide
  alone k d hk hd shared := by
    obtain rfl | rfl : k = 0 ∨ k = 1 := by omega
    · cases hd
      exact absurd shared (by decide)
    · rfl

theorem ofDependencies_exact_crossing :
    ofDependencies {} "main.proto" crossing = .error (.aliasCollision "c_pb" "c.proto" "c") ∧
    ∃ imports, ofDependencies {} "main.proto" (crossing.take 2) = .ok imports ∧
      imports.map Import.text = ["import * as a_b_pb from \"./a/b_pb\";",
        "import * as c_pb from \"./c_pb\";"] ∧
      (imports.map Import.moduleAlias).Nodup := by
  obtain ⟨-, -, refused⟩ := ofDependencies_exact {} "main.proto" crossing
  obtain ⟨accepted, bound, -⟩ := ofDependencies_exact {} "main.proto" (crossing.take 2)
  obtain ⟨imports, ok⟩ := accepted.mpr (by decide)
  obtain ⟨each, distinct⟩ := bound imports ok
  refine ⟨(refused _).mpr ⟨1, 2, _, _, firstCollision_crossing, by decide⟩, imports, ok, ?_, distinct⟩
  have written := map_eq_map_of_forall₂ each (g := Import.text)
    (k := fun d => (ofDependency {} "main.proto" d).text) (fun d _ i h => by rw [h.1])
  rw [written]
  decide

end FlowSchema.Import
