import FlowSchema.Proofs.OptionPieces

namespace FlowSchema

inductive Setting.Written : Setting → String → Prop
  | bare : Written (.exactObjects true) "exact_objects"
  | on : Written (.exactObjects true) "exact_objects=true"
  | off : Written (.exactObjects false) "exact_objects=false"
  | root {root : String} (given : root ≠ "") :
      Written (.wellKnownRoot root) ("well_known_root=" ++ root)

def IsOption (text : String) : Prop := ∃ s : Setting, s.Written text

namespace Setting

theorem ofText?_root (root : String) (given : root ≠ "") :
    ofText? ("well_known_root=" ++ root) = some (.wellKnownRoot root) := by
  obtain ⟨c, rest, chars⟩ := List.exists_cons_of_ne_nil (by simpa using given : root.toList ≠ [])
  have read : "well_known_root=".toList.isPrefixOf? ("well_known_root=" ++ root).toList =
      some (c :: rest) := by
    rw [List.isPrefixOf?_eq_some_iff_append_eq, String.toList_append, chars]
  have differs {s : String} (hs : s.toList.head? ≠ some 'w') : "well_known_root=" ++ root ≠ s := by
    rintro rfl
    exact hs (by simp)
  unfold ofText?
  split
  · rename_i eq
    exact absurd eq (differs (by decide))
  · rename_i eq
    exact absurd eq (differs (by decide))
  · rename_i eq
    exact absurd eq (differs (by decide))
  · rw [read]
    simp [← chars]

theorem ofText?_eq_some_iff {text : String} {s : Setting} :
    ofText? text = some s ↔ s.Written text := by
  constructor
  · intro h
    unfold ofText? at h
    split at h
    · cases h
      exact .bare
    · cases h
      exact .on
    · cases h
      exact .off
    · split at h
      · rename_i c root read
        cases h
        have written : text = "well_known_root=" ++ String.ofList (c :: root) := by
          rw [← String.toList_inj, ← List.isPrefixOf?_eq_some_iff_append_eq.mp read]
          simp
        rw [written]
        exact .root (by simp)
      · cases h
  · rintro (_ | _ | _ | given)
    · rfl
    · rfl
    · rfl
    · exact ofText?_root _ given

def exactObjects? : Setting → Option Bool
  | exactObjects enabled => some enabled
  | wellKnownRoot _ => none

def wellKnownRoot? : Setting → Option String
  | exactObjects _ => none
  | wellKnownRoot root => some root

def exactOf? (text : String) : Option Bool := (ofText? text).bind exactObjects?

def rootOf? (text : String) : Option String := (ofText? text).bind wellKnownRoot?

theorem bind_ofText?_eq_some_iff {α : Type} {select : Setting → Option α} {make : α → Setting}
    (h : ∀ {s a}, select s = some a ↔ s = make a) {text : String} {a : α} :
    (ofText? text).bind select = some a ↔ (make a).Written text := by
  rw [← ofText?_eq_some_iff, Option.bind_eq_some_iff]
  constructor
  · rintro ⟨s, hs, value⟩
    rwa [← h.mp value]
  · exact fun hs => ⟨_, hs, h.mpr rfl⟩

theorem exactOf?_eq_some_iff {text : String} {enabled : Bool} :
    exactOf? text = some enabled ↔ (exactObjects enabled).Written text := by
  apply bind_ofText?_eq_some_iff
  intro s enabled
  cases s <;> simp [exactObjects?]

theorem rootOf?_eq_some_iff {text root : String} :
    rootOf? text = some root ↔ (wellKnownRoot root).Written text := by
  apply bind_ofText?_eq_some_iff
  intro s root
  cases s <;> simp [wellKnownRoot?]

def read (text : String) : Except Failure Setting :=
  match ofText? text with
  | some setting => .ok setting
  | none => .error (.invalidParameter text)

theorem read_eq_ok {text : String} {s : Setting} : read text = .ok s ↔ s.Written text := by
  rw [← ofText?_eq_some_iff, read]
  split <;> simp_all

theorem failureOf_read_eq_some {text : String} {e : Failure} :
    failureOf (read text) = some e ↔ ¬IsOption text ∧ e = .invalidParameter text := by
  simp only [IsOption, ← ofText?_eq_some_iff, read]
  cases ofText? text with
  | none => simp [eq_comm]
  | some s => simp

theorem failureOf_read_eq_none {text : String} : failureOf (read text) = none ↔ IsOption text := by
  simp only [failureOf_eq_none, read_eq_ok, IsOption]

end Setting

/-- The last of the texts that gives something, and what it gives. -/
inductive Latest {α : Type} (gives : α → String → Prop) (texts : List String) : Option α → Prop
  | unsaid (silent : ∀ text ∈ texts, ∀ a, ¬gives a text) : Latest gives texts none
  | said {before after : List String} {text : String} {a : α}
      (split : texts = before ++ text :: after) (last : gives a text)
      (silent : ∀ text ∈ after, ∀ b, ¬gives b text) : Latest gives texts (some a)

theorem latest_iff {α : Type} {gives : α → String → Prop} {read? : String → Option α}
    (h : ∀ {text a}, read? text = some a ↔ gives a text) {texts : List String} {a? : Option α} :
    Latest gives texts a? ↔ texts.reverse.findSome? read? = a? := by
  have silent {texts : List String} : (∀ text ∈ texts, ∀ a, ¬gives a text) ↔
      ∀ text ∈ texts, read? text = none := by
    simp only [← h, Option.eq_none_iff_forall_ne_some]
  constructor
  · rintro (none | ⟨rfl, last, none⟩)
    · rw [List.findSome?_eq_none_iff]
      simpa using silent.mp none
    · rw [List.reverse_append, List.reverse_cons, List.append_assoc, List.findSome?_append,
        List.findSome?_eq_none_iff.mpr (by simpa using silent.mp none)]
      simp [h.mpr last]
  · rintro rfl
    cases found : texts.reverse.findSome? read? with
    | none =>
      rw [List.findSome?_eq_none_iff] at found
      exact .unsaid (silent.mpr (by simpa using found))
    | some a =>
      obtain ⟨after, text, before, split, last, none⟩ := List.findSome?_eq_some_iff.mp found
      rw [List.reverse_eq_append_iff, List.reverse_cons, List.append_assoc] at split
      exact .said split (h.mp last) (silent.mpr (by simpa using none))

namespace Options

def IsStripped (s t : String) : Prop :=
  (∃ n, s.toList = t.toList ++ List.replicate n '/') ∧ t.toList.getLast? ≠ some '/'

def strip (root : String) : String := String.ofList (root.toList.rdropWhile (· = '/'))

theorem isStripped_iff {s t : String} : IsStripped s t ↔ strip s = t := by
  rw [strip, ← String.toList_inj, String.toList_ofList, rdropWhile_eq_iff]
  constructor
  · rintro ⟨⟨n, split⟩, last⟩
    refine ⟨_, split, ?_, ?_⟩
    · simp
    · rintro c hc
      rw [decide_eq_false_iff_not]
      rintro rfl
      exact last hc
  · rintro ⟨back, split, slashes, last⟩
    refine ⟨⟨back.length, ?_⟩, fun hc => by simpa using last _ hc⟩
    rw [split, List.append_right_inj, List.eq_replicate_iff]
    exact ⟨rfl, by simpa using slashes⟩

structure LastWins (base : Options) (texts : List String) (o : Options) : Prop where
  exactObjects : ∃ enabled?, Latest (fun enabled => (Setting.exactObjects enabled).Written) texts
    enabled? ∧ o.exactObjects = enabled?.getD base.exactObjects
  wellKnownRoot : ∃ root?, Latest (fun root => (Setting.wellKnownRoot root).Written) texts root? ∧
    root?.elim (o.wellKnownRoot = base.wellKnownRoot) (IsStripped · o.wellKnownRoot)

def updated (base : Options) (texts : List String) : Options where
  exactObjects := (texts.reverse.findSome? Setting.exactOf?).getD base.exactObjects
  wellKnownRoot := ((texts.reverse.findSome? Setting.rootOf?).map strip).getD base.wellKnownRoot

theorem lastWins_iff {base o : Options} {texts : List String} :
    LastWins base texts o ↔ o = base.updated texts := by
  have roots {root? : Option String} :
      root?.elim (o.wellKnownRoot = base.wellKnownRoot) (IsStripped · o.wellKnownRoot) ↔
        o.wellKnownRoot = (root?.map strip).getD base.wellKnownRoot := by
    cases root? with
    | none => rfl
    | some root => exact isStripped_iff.trans eq_comm
  constructor
  · rintro ⟨⟨enabled?, latest, enabled⟩, root?, latest', root⟩
    rw [latest_iff Setting.exactOf?_eq_some_iff] at latest
    rw [latest_iff Setting.rootOf?_eq_some_iff] at latest'
    rw [roots] at root
    cases o
    simp_all [updated]
  · rintro rfl
    exact ⟨⟨_, (latest_iff Setting.exactOf?_eq_some_iff).mpr rfl, rfl⟩,
      _, (latest_iff Setting.rootOf?_eq_some_iff).mpr rfl, roots.mpr rfl⟩

theorem updated_append (base : Options) (texts further : List String) :
    base.updated (texts ++ further) = (base.updated texts).updated further := by
  simp only [updated, List.reverse_append, List.findSome?_append, Option.map_or, Option.getD_or]

theorem updated_singleton {base : Options} {text : String} {s : Setting} (h : s.Written text) :
    base.updated [text] = base.apply s := by
  have read := Setting.ofText?_eq_some_iff.mpr h
  cases s <;>
    simp [updated, Setting.exactOf?, Setting.rootOf?, read, Setting.exactObjects?,
      Setting.wellKnownRoot?, apply, setExactObjects, setWellKnownRoot, strip, List.rdropWhile]

theorem foldl_apply {texts : List String} {settings : List Setting}
    (h : List.Forall₂ (fun text s => Setting.read text = .ok s) texts settings) (base : Options) :
    settings.foldl apply base = base.updated texts := by
  induction h generalizing base with
  | nil => rfl
  | @cons text s texts settings hs _ ih =>
    rw [List.foldl_cons, ih, ← updated_singleton (Setting.read_eq_ok.mp hs), ← updated_append]
    rfl

theorem parse_eq (p : String) : parse p = do
    let settings ← (pieces p).mapM Setting.read
    return settings.foldl apply {} := rfl

theorem failureOf_parse (p : String) :
    failureOf (parse p) = (pieces p).findSome? fun text => failureOf (Setting.read text) := by
  have each : ∀ text ∈ pieces p, failureOf (Setting.read text) =
      (failureOf (Setting.read text)).toList.head? := by simp
  rw [parse_eq, failureOf_bind fun _ _ => failureOf_pure _, Option.or_none, failureOf_mapM each,
    List.head?_flatMap]
  simp

theorem parse_eq_error {p : String} {e : Failure} : parse p = .error e ↔
    ∃ before text after, pieces p = before ++ text :: after ∧ (∀ t ∈ before, IsOption t) ∧
      ¬IsOption text ∧ e = .invalidParameter text := by
  rw [← failureOf_eq_some, failureOf_parse, List.findSome?_eq_some_iff]
  simp only [Setting.failureOf_read_eq_some, Setting.failureOf_read_eq_none]
  constructor
  · rintro ⟨before, text, after, split, first, others⟩
    exact ⟨before, text, after, split, others, first⟩
  · rintro ⟨before, text, after, split, others, first⟩
    exact ⟨before, text, after, split, first, others⟩

theorem parses_iff {p : String} : (∃ o, parse p = .ok o) ↔ ∀ text ∈ pieces p, IsOption text := by
  rw [← failureOf_eq_none, failureOf_parse, List.findSome?_eq_none_iff]
  simp only [Setting.failureOf_read_eq_none]

theorem parse_eq_ok {p : String} {o : Options} : parse p = .ok o ↔
    (∀ text ∈ pieces p, IsOption text) ∧ LastWins {} (pieces p) o := by
  have meaning {o : Options} (h : parse p = .ok o) : o = updated {} (pieces p) := by
    obtain ⟨settings, read, rfl⟩ := by simpa only [parse_eq, bind_eq_ok, pure_eq_ok] using h
    exact foldl_apply (mapM_eq_ok.mp read) {}
  rw [lastWins_iff, ← parses_iff]
  constructor
  · exact fun h => ⟨⟨o, h⟩, meaning h⟩
  · rintro ⟨⟨o', h⟩, rfl⟩
    rwa [← meaning h]

theorem parse_append_error {p q : String} {e : Failure} : parse (p ++ "," ++ q) = .error e ↔
    parse p = .error e ∨ (∃ o, parse p = .ok o) ∧ parse q = .error e := by
  simp only [← failureOf_eq_some, ← failureOf_eq_none, failureOf_parse, pieces_append,
    List.findSome?_append, Option.or_eq_some_iff]

theorem parse_append_ok {p q : String} {o' : Options} : parse (p ++ "," ++ q) = .ok o' ↔
    ∃ o, parse p = .ok o ∧ (∀ text ∈ pieces q, IsOption text) ∧ LastWins o (pieces q) o' := by
  simp only [parse_eq_ok, lastWins_iff, pieces_append, updated_append, List.forall_mem_append]
  constructor
  · rintro ⟨⟨first, second⟩, rfl⟩
    exact ⟨_, ⟨first, rfl⟩, second, rfl⟩
  · rintro ⟨_, ⟨first, rfl⟩, second, rfl⟩
    exact ⟨⟨first, second⟩, rfl⟩

/-- The grammar of a parameter and its meaning: the options of `p` are what it separates, the first
of them that is no option is the failure, and otherwise of each kind the last is in force. After a
comma the options of `q` are laid over what `p` means. -/
theorem parse_grammar (p q : String) :
    (∀ texts, Separates p texts ↔ texts = pieces p) ∧
    ((∃ e, parse p = .error e) ↔ ∃ text ∈ pieces p, ¬IsOption text) ∧
    (∀ e, parse p = .error e ↔ ∃ before text after, pieces p = before ++ text :: after ∧
      (∀ t ∈ before, IsOption t) ∧ ¬IsOption text ∧ e = .invalidParameter text) ∧
    (∀ o, parse p = .ok o ↔ (∀ text ∈ pieces p, IsOption text) ∧
      LastWins ⟨false, "google-protobuf"⟩ (pieces p) o) ∧
    (∀ e, parse (p ++ "," ++ q) = .error e ↔
      parse p = .error e ∨ (∃ o, parse p = .ok o) ∧ parse q = .error e) ∧
    ∀ o', parse (p ++ "," ++ q) = .ok o' ↔
      ∃ o, parse p = .ok o ∧ (∀ text ∈ pieces q, IsOption text) ∧ LastWins o (pieces q) o' := by
  have fails : (∃ e, parse p = .error e) ↔ ∃ text ∈ pieces p, ¬IsOption text := by
    have parses := parses_iff (p := p)
    cases h : parse p with
    | error e => simpa [h] using parses
    | ok o => simpa [h] using parses
  exact ⟨fun _ => separates_iff, fails, fun _ => parse_eq_error, fun _ => parse_eq_ok,
    fun _ => parse_append_error, fun _ => parse_append_ok⟩

example : parse "well_known_root=a=b//, exact_objects" = .ok ⟨true, "a=b"⟩ := by decide

end Options

end FlowSchema
