import FlowSchema.Proofs.Uses

namespace FlowSchema

open Traced

structure MapSide.Alike (a b : MapSide) : Prop where
  type : a.type = b.type
  uses : a.uses = b.uses

structure MapSides.Alike (a b : MapSides) : Prop where
  key : a.key.Alike b.key
  value : a.value.Alike b.value

structure MessageEntry.Alike (a b : MessageEntry) : Prop where
  file : a.file = b.file
  package : a.package = b.package
  isMapEntry : a.isMapEntry = b.isMapEntry
  sides : Option.Rel MapSides.Alike a.mapSides? b.mapSides?

structure Registry.Alike (r r' : Registry) : Prop where
  message : ∀ n, Option.Rel MessageEntry.Alike (r.message? n) (r'.message? n)
  enum : ∀ n, r.enum? n = r'.enum? n

structure FieldDescriptor.Alike (f g : FieldDescriptor) : Prop where
  name : f.name = g.name
  label : f.label = g.label
  type : f.type = g.type
  jsType : f.type.isInteger = true → f.jsType = g.jsType
  uses : TypeUse.ofType f.type f.typeName = TypeUse.ofType g.type g.typeName
  oneofIndex : f.oneofIndex? = g.oneofIndex?

structure FieldDescriptor.AlikeExtension (f g : FieldDescriptor) : Prop extends f.Alike g where
  number : f.number = g.number
  extendee : QualifiedName.ofTypeName f.extendee = QualifiedName.ofTypeName g.extendee

namespace FieldDescriptor

variable {f g : FieldDescriptor} (h : f.Alike g)
include h

theorem Alike.isRepeated : f.isRepeated = g.isRepeated := by
  rw [FieldDescriptor.isRepeated, FieldDescriptor.isRepeated, h.label]

theorem Alike.isOptional (d : Dialect) : f.isOptional d = g.isOptional d := by
  simp only [FieldDescriptor.isOptional, hasPresence, h.isRepeated, h.label, h.type, h.oneofIndex]

end FieldDescriptor

theorem TypeUse.name_eq {t : FieldType} (named : t = .message ∨ t = .group ∨ t = .enum)
    {a b : String} (h : TypeUse.ofType t a = TypeUse.ofType t b) :
    QualifiedName.ofTypeName a = QualifiedName.ofTypeName b := by
  rcases named with rfl | rfl | rfl <;> simpa [TypeUse.ofType] using h

theorem eq_some_of_rel {α β : Type} {R : α → β → Prop} {a? : Option α} {b? : Option β}
    (h : Option.Rel R a? b?) :
    a? = none ∧ b? = none ∨ ∃ a b, a? = some a ∧ b? = some b ∧ R a b := by
  cases h with
  | none => exact .inl ⟨rfl, rfl⟩
  | some hab => exact .inr ⟨_, _, rfl, rfl, hab⟩

inductive EndAlike {α β : Type} (R : α → β → Prop) : Except Failure α → Except Failure β → Prop
  | error (e : Failure) : EndAlike R (.error e) (.error e)
  | ok {a : α} {b : β} (related : R a b) : EndAlike R (.ok a) (.ok b)

namespace FileScope

variable {r r' : Registry} (h : r.Alike r') (file : String) (dialect : Dialect)
include h

theorem messageEntry_alike (n : QualifiedName) : EndAlike MessageEntry.Alike
    (messageEntry ⟨r, file, dialect⟩ n) (messageEntry ⟨r', file, dialect⟩ n) := by
  simp only [messageEntry]
  rcases eq_some_of_rel (h.message n) with ⟨hr, hr'⟩ | ⟨a, b, hr, hr', entries⟩
  · rw [hr, hr']
    exact .error _
  · rw [hr, hr']
    exact .ok entries

theorem messageReference_alike {a b : String}
    (same : QualifiedName.ofTypeName a = QualifiedName.ofTypeName b) :
    messageReference ⟨r, file, dialect⟩ a = messageReference ⟨r', file, dialect⟩ b := by
  have entries := messageEntry_alike h file dialect (.ofTypeName b)
  simp only [messageReference, same]
  generalize messageEntry ⟨r, file, dialect⟩ (.ofTypeName b) = x at *
  generalize messageEntry ⟨r', file, dialect⟩ (.ofTypeName b) = y at *
  cases entries with
  | error e => rfl
  | ok alike =>
    rw [ok_bind, ok_bind, alike.file, alike.package]
    rfl

theorem enumReference_alike {a b : String}
    (same : QualifiedName.ofTypeName a = QualifiedName.ofTypeName b) :
    enumReference ⟨r, file, dialect⟩ a = enumReference ⟨r', file, dialect⟩ b := by
  simp only [enumReference, enumEntry, same, h.enum]
  rfl

theorem resolve_alike (t : FieldType) {a? b? : Option String}
    (same : TypeUse.ofType t (a?.getD "") = TypeUse.ofType t (b?.getD "")) :
    resolve ⟨r, file, dialect⟩ t a? = resolve ⟨r', file, dialect⟩ t b? := by
  cases t with
  | message | group =>
    simp only [resolve, messageReference_alike h file dialect (TypeUse.name_eq (by simp) same)]
  | enum => simp only [resolve, enumReference_alike h file dialect (TypeUse.name_eq (by simp) same)]
  | _ => rfl

theorem sideType_alike {a b : MapSide} (alike : a.Alike b) :
    sideType ⟨r, file, dialect⟩ a = sideType ⟨r', file, dialect⟩ b := by
  have uses := alike.uses
  rw [MapSide.uses, MapSide.uses, alike.type] at uses
  rw [sideType, sideType, alike.type, resolve_alike h file dialect _ uses]

variable {f g : FieldDescriptor}

theorem fieldType_alike (alike : f.Alike g) :
    fieldType ⟨r, file, dialect⟩ f = fieldType ⟨r', file, dialect⟩ g := by
  have uses := alike.uses
  rw [alike.type] at uses
  have resolved : resolve ⟨r, file, dialect⟩ g.type f.typeName? =
      resolve ⟨r', file, dialect⟩ g.type g.typeName? := resolve_alike h file dialect g.type uses
  unfold fieldType
  rw [alike.type]
  cases hi : g.type.isInteger with
  | false => exact resolved
  | true =>
    rw [alike.jsType (by rw [alike.type, hi])]
    cases g.jsType with
    | normal => exact resolved
    | string | number => rfl

theorem mapSides?_alike (alike : f.Alike g) : EndAlike (Option.Rel MapSides.Alike)
    (mapSides? ⟨r, file, dialect⟩ f) (mapSides? ⟨r', file, dialect⟩ g) := by
  have uses := alike.uses
  unfold mapSides?
  rw [alike.isRepeated, alike.type] at *
  split
  · rename_i repeated
    have message : g.type = .message := by simp_all
    have entries := messageEntry_alike h file dialect (.ofTypeName g.typeName)
    simp only [TypeUse.name_eq (.inl message) uses]
    generalize messageEntry ⟨r, file, dialect⟩ (.ofTypeName g.typeName) = x at *
    generalize messageEntry ⟨r', file, dialect⟩ (.ofTypeName g.typeName) = y at *
    cases entries with
    | error e => exact .error e
    | @ok a b entries =>
      simp only [ok_bind, entries.isMapEntry]
      cases b.isMapEntry with
      | false => exact .ok .none
      | true =>
        rcases eq_some_of_rel entries.sides with ⟨ha, hb⟩ | ⟨sides, sides', ha, hb, alike⟩
        · rw [ha, hb]
          exact .error _
        · rw [ha, hb]
          exact .ok (.some alike)
  · exact .ok .none

theorem mapProperty_alike (alike : f.Alike g) {a b : MapSides} (sides : a.Alike b) :
    mapProperty ⟨r, file, dialect⟩ f a = mapProperty ⟨r', file, dialect⟩ g b := by
  simp only [mapProperty, sideType_alike h file dialect sides.key,
    sideType_alike h file dialect sides.value, alike.name]

theorem plainProperty_alike (alike : f.Alike g) :
    plainProperty ⟨r, file, dialect⟩ f = plainProperty ⟨r', file, dialect⟩ g := by
  simp only [plainProperty, fieldType_alike h file dialect alike, alike.name, alike.isOptional,
    alike.isRepeated]

theorem property_alike (alike : f.Alike g) :
    property ⟨r, file, dialect⟩ f = property ⟨r', file, dialect⟩ g := by
  have sides := mapSides?_alike h file dialect alike
  simp only [property]
  generalize mapSides? ⟨r, file, dialect⟩ f = x at *
  generalize mapSides? ⟨r', file, dialect⟩ g = y at *
  cases sides with
  | error e => rfl
  | ok sides =>
    cases sides with
    | none => exact plainProperty_alike h file dialect alike
    | some sides => exact mapProperty_alike h file dialect alike sides

theorem extension_alike (alike : f.AlikeExtension g) (outer : String) :
    extension ⟨r, file, dialect⟩ outer f = extension ⟨r', file, dialect⟩ outer g := by
  have plain := alike.toAlike
  simp only [extension, fieldType_alike h file dialect plain, plain.name, plain.isOptional,
    plain.isRepeated, alike.number, alike.extendee]

end FileScope

namespace FileScope

structure RendersAlike (s s' : FileScope) (g : MessageDescriptor → MessageDescriptor) : Prop where
  name : ∀ m, (g m).name = m.name
  isMapEntry : ∀ m, (g m).isMapEntry = m.isMapEntry
  nested : ∀ m, (g m).nested = m.nested.map g
  enums : ∀ m, (g m).enums = m.enums
  properties : ∀ m, m.isMapEntry = false →
    (g m).fields.mapM s'.property = m.fields.mapM s.property
  oneofs : ∀ m, m.isMapEntry = false → ∀ outer,
    (g m).oneofDeclarations outer = m.oneofDeclarations outer
  extensions : ∀ m, m.isMapEntry = false → ∀ outer,
    (g m).extensions.mapM (s'.extension outer) = m.extensions.mapM (s.extension outer)

theorem messagesDeclarations_map {s s' : FileScope} {g : MessageDescriptor → MessageDescriptor}
    {outer : String} {ms : List MessageDescriptor}
    (same : ∀ m ∈ ms, s'.messageDeclarations outer (g m) = s.messageDeclarations outer m) :
    s'.messagesDeclarations outer (ms.map g) = s.messagesDeclarations outer ms := by
  induction ms with
  | nil => rfl
  | cons m ms ih =>
    have rest := ih fun n hn => same n (List.mem_cons_of_mem m hn)
    rw [List.map_cons, messagesDeclarations, messagesDeclarations, same m List.mem_cons_self, rest]

namespace RendersAlike

variable {s s' : FileScope} {g : MessageDescriptor → MessageDescriptor}
  (h : RendersAlike s s' g)
include h

theorem messageDeclarations_eq (outer : String) (m : MessageDescriptor) :
    s'.messageDeclarations outer (g m) = s.messageDeclarations outer m := by
  induction m using MessageDescriptor.nested_induction generalizing outer with
  | step m ih =>
    rw [FileScope.messageDeclarations_eq, FileScope.messageDeclarations_eq, h.name, h.isMapEntry]
    cases plain : m.isMapEntry with
    | true => simp only [if_true]
    | false =>
      have messages := messagesDeclarations_map
        fun n hn => ih n hn (Identifier.nested outer m.name)
      rw [h.nested, h.enums, h.properties m plain, h.oneofs m plain, h.extensions m plain, messages]

theorem fileDeclarations_eq {f f' : FileDescriptor} (messages : f'.messages = f.messages.map g)
    (extensions : f'.extensions.mapM (s'.extension "") = f.extensions.mapM (s.extension ""))
    (enums : f'.enums = f.enums) : s'.fileDeclarations f' = s.fileDeclarations f := by
  rw [fileDeclarations, fileDeclarations, messages, extensions, enums,
    messagesDeclarations_map fun m _ => h.messageDeclarations_eq "" m]

end RendersAlike

end FileScope

end FlowSchema
