namespace FlowSchema

inductive FieldType
  | double | float | int64 | uint64 | int32 | fixed64 | fixed32 | bool | string | group | message
  | bytes | uint32 | enum | sfixed32 | sfixed64 | sint32 | sint64
deriving DecidableEq

inductive Label
  | optional | required | repeated
deriving DecidableEq

inductive JsType
  | normal | string | number
deriving DecidableEq

namespace FieldType

def code : FieldType → Int32
  | double => 1
  | float => 2
  | int64 => 3
  | uint64 => 4
  | int32 => 5
  | fixed64 => 6
  | fixed32 => 7
  | bool => 8
  | string => 9
  | group => 10
  | message => 11
  | bytes => 12
  | uint32 => 13
  | enum => 14
  | sfixed32 => 15
  | sfixed64 => 16
  | sint32 => 17
  | sint64 => 18

def all : List FieldType :=
  [double, float, int64, uint64, int32, fixed64, fixed32, bool, string, group, message, bytes,
    uint32, enum, sfixed32, sfixed64, sint32, sint64]

def ofCode? (n : Int32) : Option FieldType := all.find? (·.code = n)

def isInteger (t : FieldType) : Bool :=
  [int32, int64, uint32, uint64, sint32, sint64, fixed32, fixed64, sfixed32, sfixed64].contains t

def isMessage (t : FieldType) : Bool := t = message || t = group

theorem ofCode?_code (t : FieldType) : ofCode? t.code = some t := by
  cases t <;> decide

end FieldType

def Label.code : Label → Int32
  | .optional => 1
  | .required => 2
  | .repeated => 3

def Label.ofCode? (n : Int32) : Option Label :=
  [Label.optional, .required, .repeated].find? (·.code = n)

def JsType.code : JsType → Int32
  | .normal => 0
  | .string => 1
  | .number => 2

def JsType.ofCode? (n : Int32) : Option JsType :=
  [JsType.normal, .string, .number].find? (·.code = n)

theorem Label.ofCode?_code (l : Label) : ofCode? l.code = some l := by
  cases l <;> decide

theorem JsType.ofCode?_code (t : JsType) : ofCode? t.code = some t := by
  cases t <;> decide

structure FieldOptions where
  ctype? : Option Int32 := none
  jsType? : Option Int32 := none
deriving DecidableEq

/-- A field or an extension. Members that were left out are kept apart from members set to the
value they default to, and enumerated members keep numbers that have no meaning. -/
structure FieldDescriptor where
  name? : Option String := none
  extendee? : Option String := none
  number? : Option Int32 := none
  label? : Option Int32 := none
  type? : Option Int32 := none
  typeName? : Option String := none
  defaultValue? : Option String := none
  options? : Option FieldOptions := none
  oneofIndex? : Option Int32 := none
  jsonName? : Option String := none
  proto3Optional? : Option Bool := none
deriving DecidableEq

structure EnumValueDescriptor where
  name? : Option String := none
  number? : Option Int32 := none
deriving DecidableEq

structure EnumDescriptor where
  name? : Option String := none
  values : List EnumValueDescriptor := []
deriving DecidableEq

structure OneofDescriptor where
  name? : Option String := none
deriving DecidableEq

structure MessageOptions where
  deprecated? : Option Bool := none
  mapEntry? : Option Bool := none
deriving DecidableEq

structure MessageDescriptor where
  name? : Option String := none
  fields : List FieldDescriptor := []
  nested : List MessageDescriptor := []
  enums : List EnumDescriptor := []
  extensions : List FieldDescriptor := []
  options? : Option MessageOptions := none
  oneofs : List OneofDescriptor := []

/-- Nothing is generated for a service, and nothing of it is kept. -/
structure ServiceDescriptor where
deriving DecidableEq

structure FileDescriptor where
  name? : Option String := none
  package? : Option String := none
  dependencies : List String := []
  messages : List MessageDescriptor := []
  enums : List EnumDescriptor := []
  services : List ServiceDescriptor := []
  extensions : List FieldDescriptor := []
  dialect? : Option String := none

namespace FieldDescriptor

def name (f : FieldDescriptor) : String := f.name?.getD ""

def extendee (f : FieldDescriptor) : String := f.extendee?.getD ""

def number (f : FieldDescriptor) : Int32 := f.number?.getD 0

def label (f : FieldDescriptor) : Label := (f.label?.bind Label.ofCode?).getD .optional

def type (f : FieldDescriptor) : FieldType := (f.type?.bind FieldType.ofCode?).getD .double

def typeName (f : FieldDescriptor) : String := f.typeName?.getD ""

def jsType (f : FieldDescriptor) : JsType :=
  ((f.options?.bind FieldOptions.jsType?).bind JsType.ofCode?).getD .normal

def proto3Optional (f : FieldDescriptor) : Bool := f.proto3Optional?.getD false

def isRepeated (f : FieldDescriptor) : Bool := f.label = .repeated

end FieldDescriptor

def EnumValueDescriptor.name (v : EnumValueDescriptor) : String := v.name?.getD ""

def EnumValueDescriptor.number (v : EnumValueDescriptor) : Int32 := v.number?.getD 0

def EnumDescriptor.name (e : EnumDescriptor) : String := e.name?.getD ""

def OneofDescriptor.name (o : OneofDescriptor) : String := o.name?.getD ""

namespace MessageDescriptor

def name (m : MessageDescriptor) : String := m.name?.getD ""

def isMapEntry (m : MessageDescriptor) : Bool :=
  (m.options?.bind MessageOptions.mapEntry?).getD false

end MessageDescriptor

/-- The members of oneofs, each list under the number that its fields give for their oneof. -/
abbrev OneofMembers := List (Int32 × List FieldDescriptor)

namespace OneofMembers

def get (i : Int32) : OneofMembers → List FieldDescriptor
  | [] => []
  | (j, fs) :: g => if j = i then fs else get i g

def insert (i : Int32) (f : FieldDescriptor) : OneofMembers → OneofMembers
  | [] => [(i, [f])]
  | (j, fs) :: g => if j = i then (j, fs ++ [f]) :: g else (j, fs) :: insert i f g

def add (g : OneofMembers) (f : FieldDescriptor) : OneofMembers :=
  match f.oneofIndex? with
  | none => g
  | some i => g.insert i f

theorem get_insert (g : OneofMembers) (i j : Int32) (f : FieldDescriptor) :
    (g.insert i f).get j = g.get j ++ if i = j then [f] else [] := by
  induction g with
  | nil => rfl
  | cons entry g ih =>
    obtain ⟨k, fs⟩ := entry
    by_cases h : k = i
    · subst h
      by_cases hj : k = j <;> simp [insert, get, hj]
    · by_cases hj : k = j
      · subst hj
        simp [insert, get, h, Ne.symm h]
      · simp [insert, get, h, hj, ih]

theorem get_add (g : OneofMembers) (f : FieldDescriptor) (i : Int32) :
    (g.add f).get i = g.get i ++ if f.oneofIndex? = some i then [f] else [] := by
  unfold add
  split
  · rename_i h
    simp [h]
  · rename_i j h
    simp only [get_insert, h, Option.some.injEq]

theorem get_foldl_add (g : OneofMembers) (fs : List FieldDescriptor) (i : Int32) :
    (fs.foldl add g).get i = g.get i ++ fs.filter (·.oneofIndex? = some i) := by
  induction fs generalizing g with
  | nil => simp
  | cons f fs ih =>
    rw [List.foldl_cons, ih, get_add, List.append_assoc]
    by_cases h : f.oneofIndex? = some i <;> simp [h]

end OneofMembers

def MessageDescriptor.oneofMembers (m : MessageDescriptor) : OneofMembers :=
  m.fields.foldl OneofMembers.add []

def MessageDescriptor.members (m : MessageDescriptor) (i : Nat) : List FieldDescriptor :=
  m.oneofMembers.get (Int32.ofNat i)

theorem MessageDescriptor.members_eq (m : MessageDescriptor) (i : Nat) :
    m.members i = m.fields.filter (·.oneofIndex? = some (Int32.ofNat i)) :=
  OneofMembers.get_foldl_add [] m.fields (Int32.ofNat i)

def FileDescriptor.name (f : FileDescriptor) : String := f.name?.getD ""

def FileDescriptor.package (f : FileDescriptor) : String := f.package?.getD ""

end FlowSchema
