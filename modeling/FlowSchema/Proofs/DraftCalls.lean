import FlowSchema.Descriptor.Draft
import FlowSchema.Proofs.Dotted
import FlowSchema.Proofs.Registered

namespace FlowSchema

inductive MessageCall
  | field (f : FieldDescriptor)
  | mapField (name : String) (number : Int32) (sides : MapSides)
  | draft (name : String) (calls : List MessageCall)
  | message (m : MessageDescriptor)
  | enum (e : EnumDescriptor)
  | oneof (name : String)
  | extension (f : FieldDescriptor)

inductive FileCall
  | dependency (path : String)
  | draft (name : String) (calls : List MessageCall)
  | message (m : MessageDescriptor)
  | enum (e : EnumDescriptor)
  | extension (f : FieldDescriptor)

namespace MessageDraft

mutual

def call (d : MessageDraft) : MessageCall → MessageDraft
  | .field f => d.addField f
  | .mapField name number sides => d.addMapField name number sides
  | .draft name calls => d.addDraft (callAll (.named name) calls)
  | .message m => d.addMessage m
  | .enum e => d.addEnum e
  | .oneof name => d.addOneof name
  | .extension f => d.addExtension f

def callAll (d : MessageDraft) : List MessageCall → MessageDraft
  | [] => d
  | c :: calls => callAll (d.call c) calls

end

def written (name : String) (calls : List MessageCall) : MessageDraft :=
  (MessageDraft.named name).callAll calls

end MessageDraft

namespace MessageCall

open MessageDraft

theorem calls_induction {P : List MessageCall → Prop}
    (step : ∀ calls, (∀ name inner, .draft name inner ∈ calls → P inner) → P calls)
    (calls : List MessageCall) : P calls := by
  have inside : ∀ name inner, .draft name inner ∈ calls → P inner := by
    refine @MessageCall.rec_1 (fun c => ∀ name inner, c = .draft name inner → P inner)
      (fun calls => ∀ name inner, .draft name inner ∈ calls → P inner)
      ?field ?mapField ?draft ?message ?enum ?oneof ?extension ?nil ?cons calls
    case draft =>
      rintro _ calls ih name inner heq
      cases heq
      exact step calls ih
    case nil =>
      intro name inner mem
      cases mem
    case cons =>
      intro c calls hc hcalls name inner mem
      rcases List.mem_cons.mp mem with heq | mem
      · exact hc name inner heq.symm
      · exact hcalls name inner mem
    all_goals
      intros
      contradiction
  exact step calls inside

def blank? : MessageCall → Option FieldDescriptor
  | .field f => some f
  | .mapField name number _ => some (MapDraft.blank name number)
  | _ => none

def field? (path : String) : MessageCall → Option FieldDescriptor
  | .field f => some f
  | .mapField name number _ => some
      ((MapDraft.blank name number).withTypeName (path ++ "." ++ MapDraft.entryName name))
  | _ => none

def entry? : MessageCall → Option MessageDescriptor
  | .mapField name _ sides => some (sides.entry (MapDraft.entryName name))
  | _ => none

def started? : MessageCall → Option (String × List MessageCall)
  | .draft name calls => some (name, calls)
  | _ => none

/-- The map fields of calls, the first of which comes upon `i` fields. -/
def maps (i : Nat) : List MessageCall → List MapDraft
  | [] => []
  | .mapField name _ sides :: calls => ⟨i, MapDraft.entryName name, sides⟩ :: maps (i + 1) calls
  | .field _ :: calls => maps (i + 1) calls
  | _ :: calls => maps i calls

theorem maps_cons (i : Nat) (c : MessageCall) (calls : List MessageCall) :
    maps i (c :: calls) = maps i [c] ++ maps (i + c.blank?.toList.length) calls := by
  cases c with
  | _ => rfl

end MessageCall

open MessageCall

structure MessageDraft.Extends (d : MessageDraft) (calls : List MessageCall) (d' : MessageDraft) :
    Prop where
  name : d'.message.name? = d.message.name?
  options : d'.message.options? = d.message.options?
  fields : d'.message.fields = d.message.fields ++ calls.filterMap blank?
  maps : d'.maps = d.maps ++ MessageCall.maps d.message.fields.length calls
  nested : d'.nested = d.nested ++
    (calls.filterMap started?).map fun x => MessageDraft.written x.1 x.2

namespace MessageDraft

theorem extends_call (d : MessageDraft) (c : MessageCall) : d.Extends [c] (d.call c) := by
  cases c with
  | _ =>
    rw [call]
    constructor <;> simp [addField, addMapField, addDraft, addMessage, addEnum, addOneof,
      addExtension, blank?, started?, MessageCall.maps, written]

theorem extends_callAll (d : MessageDraft) (calls : List MessageCall) :
    d.Extends calls (d.callAll calls) := by
  induction calls generalizing d with
  | nil =>
    rw [callAll]
    constructor <;> simp [MessageCall.maps]
  | cons c calls ih =>
    have first := extends_call d c
    have rest := ih (d.call c)
    have count : (d.call c).message.fields.length =
        d.message.fields.length + c.blank?.toList.length := by
      rw [first.fields, List.length_append]
      cases c with
      | _ => rfl
    rw [callAll]
    constructor
    case name => rw [rest.name, first.name]
    case options => rw [rest.options, first.options]
    case fields =>
      rw [rest.fields, first.fields, List.append_assoc, ← List.filterMap_append]
      rfl
    case maps => rw [rest.maps, first.maps, count, List.append_assoc, ← maps_cons]
    case nested =>
      rw [rest.nested, first.nested, List.append_assoc, ← List.map_append, ← List.filterMap_append]
      rfl

end MessageDraft

namespace MapDraft

theorem settle?_at (path : String) (m : MessageDescriptor) (done todo : List FieldDescriptor)
    (f : FieldDescriptor) (entry : String) (sides : MapSides) :
    settle? path { m with fields := done ++ f :: todo } ⟨done.length, entry, sides⟩ =
      some { m with
        fields := done ++ f.withTypeName (path ++ "." ++ entry) :: todo
        nested := m.nested ++ [sides.entry entry] } := by
  have own : (done ++ f :: todo)[done.length]? = some f := by simp
  have set (g : FieldDescriptor) : (done ++ f :: todo).set done.length g = done ++ g :: todo := by
    simp
  simp only [settle?, own, set]
  rfl

theorem settle_maps (path : String) (calls : List MessageCall) (m : MessageDescriptor)
    (done : List FieldDescriptor) :
    (maps done.length calls).foldlM (settle? path)
        { m with fields := done ++ calls.filterMap blank? } =
      some { m with
        fields := done ++ calls.filterMap (field? path)
        nested := m.nested ++ calls.filterMap entry? } := by
  induction calls generalizing m done with
  | nil => simp [maps]
  | cons c calls ih =>
    cases c with
    | field f =>
      -- a plain field is passed over: all map drafts that are left point behind it
      have rest := ih m (done ++ [f])
      simp only [List.length_append, List.length_singleton, List.append_assoc,
        List.singleton_append] at rest
      exact rest
    | mapField name number sides =>
      -- the next map draft points right behind `done`, at the blank field of this call
      have first := settle?_at path m done (calls.filterMap blank?) (blank name number)
        (entryName name) sides
      have rest := ih { m with nested := m.nested ++ [sides.entry (entryName name)] }
        (done ++ [(blank name number).withTypeName (path ++ "." ++ entryName name)])
      simp only [List.length_append, List.length_singleton, List.append_assoc,
        List.singleton_append] at rest
      rw [maps, List.foldlM_cons]
      exact (congrArg (· >>= _) first).trans rest
    | _ => exact ih m done

end MapDraft

namespace MessageDraft

theorem build?_eq (scope : String) (d : MessageDraft) : d.build? scope = (do
    let inner ← buildAll? (scope ++ "." ++ d.message.name) d.nested
    d.maps.foldlM (MapDraft.settle? (scope ++ "." ++ d.message.name))
      { d.message with nested := d.message.nested ++ inner }) := by
  cases d
  rw [build?]

theorem build?_ofMessage (scope : String) (m : MessageDescriptor) :
    (ofMessage m).build? scope = some m := by
  cases m
  simp [build?_eq, ofMessage, buildAll?]

theorem exists_buildAll? {scope : String} {ds : List MessageDraft}
    (h : ∀ d ∈ ds, ∃ m, d.build? scope = some m) : ∃ ms, buildAll? scope ds = some ms := by
  induction ds with
  | nil => exact ⟨[], by rw [buildAll?]⟩
  | cons d ds ih =>
    obtain ⟨m, hm⟩ := h d List.mem_cons_self
    obtain ⟨ms, hms⟩ := ih fun d' hd => h d' (List.mem_cons_of_mem d hd)
    refine ⟨m :: ms, ?_⟩
    rw [buildAll?, hm, hms]
    rfl

theorem mem_of_buildAll? {scope : String} {ds : List MessageDraft} {ms : List MessageDescriptor}
    (h : buildAll? scope ds = some ms) {d : MessageDraft} (hd : d ∈ ds) :
    ∃ m ∈ ms, d.build? scope = some m := by
  induction ds generalizing ms with
  | nil => cases hd
  | cons d' ds ih =>
    rw [buildAll?] at h
    obtain ⟨m, hm, h⟩ := Option.bind_eq_some_iff.mp h
    obtain ⟨ms', hms, h⟩ := Option.bind_eq_some_iff.mp h
    cases h
    rcases List.mem_cons.mp hd with rfl | hd
    · exact ⟨m, List.mem_cons_self, hm⟩
    · obtain ⟨k, hk, built⟩ := ih hms hd
      exact ⟨k, List.mem_cons_of_mem m hk, built⟩

structure Finishes (scope name : String) (calls : List MessageCall) (m : MessageDescriptor) :
    Prop where
  named : m.name = name
  plain : m.isMapEntry = false
  fields : m.fields = calls.filterMap (field? (scope ++ "." ++ name))
  entries : calls.filterMap entry? ⊆ m.nested
  drafts : ∀ x ∈ calls.filterMap started?,
    ∃ k ∈ m.nested, (written x.1 x.2).build? (scope ++ "." ++ name) = some k

theorem build?_written {scope name : String} {calls : List MessageCall}
    {inner : List MessageDescriptor}
    (h : buildAll? (scope ++ "." ++ name)
      ((calls.filterMap started?).map fun x => written x.1 x.2) = some inner) :
    ∃ m, (written name calls).build? scope = some m ∧ Finishes scope name calls m := by
  have calls' := extends_callAll (named name) calls
  rw [← written] at calls'
  generalize written name calls = d at calls'
  have name' : d.message.name = name := by rw [MessageDescriptor.name, calls'.name]; rfl
  have fields : d.message.fields = [] ++ calls.filterMap blank? := calls'.fields
  have maps : d.maps = MessageCall.maps ([] : List FieldDescriptor).length calls := calls'.maps
  have nested : d.nested = (calls.filterMap started?).map fun x => written x.1 x.2 := calls'.nested
  have built : d.build? scope = some { d.message with
      fields := calls.filterMap (field? (scope ++ "." ++ name))
      nested := d.message.nested ++ inner ++ calls.filterMap entry? } := by
    have settled := MapDraft.settle_maps (scope ++ "." ++ name) calls
      { d.message with nested := d.message.nested ++ inner } []
    rw [← fields, ← maps] at settled
    rw [build?_eq, name', nested, h]
    exact settled
  refine ⟨_, built, name', ?_, rfl, List.subset_append_right _ _, ?_⟩
  · rw [MessageDescriptor.isMapEntry, calls'.options]
    rfl
  · intro x hx
    obtain ⟨k, hk, built⟩ := mem_of_buildAll? h (List.mem_map_of_mem hx)
    exact ⟨k, List.mem_append_left _ (List.mem_append_right _ hk), built⟩

theorem exists_build?_written (scope name : String) (calls : List MessageCall) :
    ∃ m, (written name calls).build? scope = some m ∧ Finishes scope name calls m := by
  induction calls using calls_induction generalizing scope name with
  | step calls ih =>
    have inner : ∃ ms, buildAll? (scope ++ "." ++ name)
        ((calls.filterMap started?).map fun x => written x.1 x.2) = some ms := by
      apply exists_buildAll?
      intro d hd
      obtain ⟨⟨n, inner⟩, hx, rfl⟩ := List.mem_map.mp hd
      obtain ⟨c, hc, started⟩ := List.mem_filterMap.mp hx
      have draft : c = .draft n inner := by
        cases c <;> cases started
        rfl
      obtain ⟨m, hm, -⟩ := ih n inner (draft ▸ hc) (scope ++ "." ++ name) n
      exact ⟨m, hm⟩
    obtain ⟨ms, hms⟩ := inner
    exact build?_written hms

theorem finishes_of_build? {scope name : String} {calls : List MessageCall} {m : MessageDescriptor}
    (h : (written name calls).build? scope = some m) : Finishes scope name calls m := by
  obtain ⟨k, hk, finishes⟩ := exists_build?_written scope name calls
  rw [h] at hk
  cases hk
  exact finishes

end MessageDraft

open MessageDescriptor MessageDraft

/-- The messages that are started at any depth, under the names of those around them, outermost
first. -/
inductive Starts : List (String × List MessageCall) → List String → String → List MessageCall → Prop
  | here {drafts : List (String × List MessageCall)} {name : String} {calls : List MessageCall}
      (mem : (name, calls) ∈ drafts) : Starts drafts [] name calls
  | inside {drafts : List (String × List MessageCall)} {name n : String} {outer : List String}
      {inner calls : List MessageCall} (mem : (name, inner) ∈ drafts)
      (rest : Starts (inner.filterMap started?) outer n calls) :
      Starts drafts (name :: outer) n calls

theorem Starts.mem {drafts : List (String × List MessageCall)} {outer : List String} {name : String}
    {calls : List MessageCall} (h : Starts drafts outer name calls) {s : String} (hs : s ∈ outer) :
    ∃ before inner, Starts drafts before s inner := by
  induction h with
  | here => cases hs
  | inside mem _ ih =>
    rcases List.mem_cons.mp hs with rfl | hs
    · exact ⟨[], _, .here mem⟩
    · obtain ⟨before, inner, started⟩ := ih hs
      exact ⟨_, inner, .inside mem started⟩

theorem Starts.located {drafts : List (String × List MessageCall)} {outer : List String}
    {name : String} {calls : List MessageCall} (h : Starts drafts outer name calls)
    {scope : QualifiedName} {ms : List MessageDescriptor}
    (built : ∀ x ∈ drafts, ∃ m ∈ ms, (written x.1 x.2).build? scope.text = some m) :
    ∃ m, Located ms outer m ∧ Finishes (scope.under outer).text name calls m := by
  induction h generalizing scope ms with
  | here mem =>
    obtain ⟨m, hm, built⟩ := built _ mem
    have finishes := finishes_of_build? built
    exact ⟨m, .top hm finishes.plain, finishes⟩
  | @inside _ name _ _ inner _ mem _ ih =>
    obtain ⟨k, hk, built⟩ := built _ mem
    have finishes := finishes_of_build? built
    have drafts : ∀ x ∈ inner.filterMap started?,
        ∃ j ∈ k.nested, (written x.1 x.2).build? (scope.join name).text = some j := finishes.drafts
    obtain ⟨m, located, inner⟩ := ih drafts
    have here := Located.inside hk finishes.plain located
    rw [finishes.named] at here
    exact ⟨m, here, inner⟩

theorem MessageDescriptor.Located.declared {ms : List MessageDescriptor} {path : List String}
    {m : MessageDescriptor} (h : Located ms path m) (scope : QualifiedName) :
    (scope.under (path ++ [m.name]), m) ∈ declaredAll scope ms := by
  induction h generalizing scope with
  | top mem _ => exact mem_declaredAll_of_mem mem
  | inside mem _ _ ih => exact declaredAll_nested_subset mem (ih _)

namespace FileCall

def started? : FileCall → Option (String × List MessageCall)
  | .draft name calls => some (name, calls)
  | _ => none

def message? : FileCall → Option MessageDraft
  | .draft name calls => some (.written name calls)
  | .message m => some (.ofMessage m)
  | _ => none

end FileCall

namespace FileDraft

def call (d : FileDraft) : FileCall → FileDraft
  | .dependency path => d.addDependency path
  | .draft name calls => d.addDraft (.written name calls)
  | .message m => d.addMessage m
  | .enum e => d.addEnum e
  | .extension f => d.addExtension f

def written (path package dialect : String) (calls : List FileCall) : FileDraft :=
  calls.foldl call (.named path package dialect)

theorem foldl_call (d : FileDraft) (calls : List FileCall) :
    (calls.foldl call d).file.package = d.file.package ∧
      (calls.foldl call d).messages = d.messages ++ calls.filterMap FileCall.message? := by
  induction calls generalizing d with
  | nil => simp
  | cons c calls ih =>
    obtain ⟨package, messages⟩ := ih (d.call c)
    rw [List.foldl_cons, package, messages]
    cases c with
    | _ => simp [call, addDependency, addDraft, addMessage, addEnum, addExtension,
        FileCall.message?, FileDescriptor.package, List.filterMap_cons]

variable (path package dialect : String) (calls : List FileCall)

theorem package_written : (written path package dialect calls).file.package = package := by
  have named : (FileDraft.named path package dialect).file.package = package := by
    by_cases h : package = "" <;> simp [FileDraft.named, given, FileDescriptor.package, h]
  rw [written, (foldl_call _ calls).1, named]

theorem build?_written : ∃ ms,
    (written path package dialect calls).build? =
      some { (written path package dialect calls).file with messages := ms } ∧
    ∀ x ∈ calls.filterMap FileCall.started?, ∃ m ∈ ms,
      (MessageDraft.written x.1 x.2).build? (written path package dialect calls).scope = some m := by
  have messages : (written path package dialect calls).messages =
      calls.filterMap FileCall.message? := (foldl_call _ calls).2
  generalize written path package dialect calls = d at messages
  have all : ∃ ms, buildAll? d.scope d.messages = some ms := by
    apply exists_buildAll?
    rw [messages]
    intro m hm
    obtain ⟨c, -, heq⟩ := List.mem_filterMap.mp hm
    cases c with
    | draft name calls =>
      cases heq
      obtain ⟨k, hk, -⟩ := exists_build?_written d.scope name calls
      exact ⟨k, hk⟩
    | message k =>
      cases heq
      exact ⟨k, build?_ofMessage d.scope k⟩
    | _ => cases heq
  obtain ⟨ms, hms⟩ := all
  refine ⟨ms, ?_, ?_⟩
  · rw [build?, hms]
    rfl
  · intro x hx
    apply mem_of_buildAll? hms
    rw [messages]
    obtain ⟨c, hc, heq⟩ := List.mem_filterMap.mp hx
    refine List.mem_filterMap.mpr ⟨c, hc, ?_⟩
    cases c <;> cases heq
    rfl

def writtenFile : FileDescriptor := (written path package dialect calls).build

theorem build?_eq_writtenFile : (written path package dialect calls).build? =
    some (writtenFile path package dialect calls) := by
  obtain ⟨ms, hms, -⟩ := build?_written path package dialect calls
  rw [writtenFile, build, hms]
  rfl

theorem package_writtenFile : (writtenFile path package dialect calls).package = package := by
  obtain ⟨ms, hms, -⟩ := build?_written path package dialect calls
  rw [writtenFile, build, hms]
  exact package_written path package dialect calls

variable {path package dialect calls}

theorem located_of_starts (first : package.toList.head? ≠ some '.')
    (last : package.toList.getLast? ≠ some '.') {outer : List String} {name : String}
    {inner : List MessageCall} (h : Starts (calls.filterMap FileCall.started?) outer name inner) :
    ∃ m, Located (writtenFile path package dialect calls).messages outer m ∧
      Finishes ((QualifiedName.ofPackage package).under outer).text name inner m := by
  obtain ⟨ms, hms, drafts⟩ := build?_written path package dialect calls
  have scope : (written path package dialect calls).scope =
      (QualifiedName.ofPackage package).text := by
    rw [FileDraft.scope, package_written, QualifiedName.ofPackage_text first last]
    by_cases he : package = "" <;> simp [he]
  rw [scope] at drafts
  rw [writtenFile, build, hms]
  exact h.located drafts

end FileDraft

end FlowSchema
