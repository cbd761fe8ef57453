import FlowSchema.Plugin
import FlowSchema.Proofs.Answered
import FlowSchema.Proofs.Forms

namespace FlowSchema

namespace Wire

open FlowSchema.Wire.Field

variable {α : Type} [Form α]

theorem decodeAs_of_sends {fs : List Field} {bytes : List UInt8}
    (h : Sends nestingLimit (Form.type α) fs bytes) (small : bytes.length < UInt64.size) :
    decodeAs α bytes = .ok (Form.read fs) := by
  rw [decodeAs, decode_of_sends h small]
  rfl

theorem decodeAs_encode [LawfulForm α] {a : α} (h : depthAll (Form.fields a) ≤ nestingLimit)
    (small : (encode a).length < UInt64.size) : decodeAs α (encode a) = .ok a := by
  have sent : Sends nestingLimit (Form.type α) (Form.fields a) (encode a) :=
    sends_encodeAll (LawfulForm.fits a) h
  rw [decodeAs_of_sends sent small, LawfulForm.read_fields]

end Wire

open Wire Wire.Field

theorem OutputFile.depthAll_fields (f : OutputFile) : depthAll (Form.fields f) = 0 := by
  rw [← Nat.le_zero, depthAll_le]
  simp [Form.fields, ofText, depth, or_imp, forall_and]

theorem Response.depthAll_fields (r : Response) : depthAll (Form.fields r) ≤ 1 := by
  have files : ∀ f ∈ ofRecords 15 r.files, f.depth ≤ 1 := by
    refine List.forall_mem_map.mpr fun f _ => ?_
    simp [depth, f.depthAll_fields]
  rw [depthAll_le]
  refine List.forall_mem_append.mpr ⟨?_, files⟩
  simp [ofText, ofUInt64, depth, or_imp, forall_and]

theorem readOptions_of_error {parameter : String} {e : Failure}
    (h : Options.parse parameter = .error e) : readOptions parameter = ⟨[], .error e⟩ := by
  rw [readOptions, Traced.bind_of_error (e := e) h]
  rfl

theorem readOptions_of_ok {parameter : String} {o : Options} (h : Options.parse parameter = .ok o) :
    readOptions parameter = ⟨[.options o], .ok o⟩ := by
  rw [readOptions, Traced.bind_of_ok (a := o) h]
  rfl

namespace Plugin

theorem run_of_decode {input : List UInt8} {q : Request} (h : decodeAs Request input = .ok q) :
    run input = ⟨0, encode (respond q).response, errorLines (respond q).log, (respond q).log⟩ := by
  rw [run, h]

theorem run_of_error {input : List UInt8} {e : DecodeError}
    (h : decodeAs Request input = .error e) :
    run input = ⟨1, [], "invalid CodeGeneratorRequest: " ++ e.message ++ "\n", []⟩ := by
  rw [run, h]

theorem respond_of_error {q : Request} {e : Failure}
    (h : Options.parse (q.parameter?.getD "") = .error e) :
    respond q = ⟨[], { error? := some e.message }⟩ := by
  rw [respond, readOptions_of_error h]

theorem respond_of_ok {q : Request} {o : Options}
    (h : Options.parse (q.parameter?.getD "") = .ok o) :
    respond q = ⟨.options o :: (answer o q).log, (answer o q).response⟩ := by
  rw [respond, readOptions_of_ok h]
  rfl

theorem decodeAs_respond {q : Request} (h : (encode (respond q).response).length < UInt64.size) :
    decodeAs Response (encode (respond q).response) = .ok (respond q).response :=
  decodeAs_encode (Nat.le_trans (Response.depthAll_fields _) (by decide)) h

theorem errorLines_cons (r : Record) (log : List Record) :
    errorLines (r :: log) = (if r.level = "ERROR" then r.text ++ "\n" else "") ++ errorLines log := by
  by_cases h : r.level = "ERROR"
  · simp [errorLines, h]
  · simp [errorLines, h]

theorem errorLines_append_of_quiet {quiet : List Record} (h : ∀ r ∈ quiet, r.level ≠ "ERROR")
    (log : List Record) : errorLines (quiet ++ log) = errorLines log := by
  induction quiet with
  | nil => rfl
  | cons r quiet ih =>
    obtain ⟨first, rest⟩ := List.forall_mem_cons.mp h
    rw [List.cons_append, errorLines_cons, if_neg first, ih rest, String.empty_append]

/-- Under good options nothing is written to `stderr` but why a request is refused. -/
theorem stderr_of_decode {input : List UInt8} {q : Request} {o : Options}
    (read : decodeAs Request input = .ok q) (parsed : Options.parse (q.parameter?.getD "") = .ok o) :
    (run input).stderr =
      match (generate o q.files q.requested).outcome with
      | .ok _ => ""
      | .error e => e.message ++ "\n" := by
  have quiet : ∀ r ∈ .options o :: (generate o q.files q.requested).log, r.level ≠ "ERROR" :=
    List.forall_mem_cons.mpr ⟨by simp [Record.level], (quiet_generate _ _ _).level_ne⟩
  rw [run_of_decode read, respond_of_ok parsed]
  cases h : (generate o q.files q.requested).outcome with
  | ok outputs =>
    rw [answer_of_ok h]
    have none := errorLines_append_of_quiet quiet []
    rwa [List.append_nil] at none
  | error e =>
    rw [answer_of_error h, ← List.cons_append]
    dsimp only
    rw [errorLines_append_of_quiet quiet, errorLines_cons]
    exact String.append_empty

/-- Any fields of a request can be sent, those that no record keeps among them, and any record of a
request is read off the fields it is sent as. What is sent, unknown fields in between or not, is
read, and a request that is read is answered by one response that can be read back. Bytes that do
not send a request are answered by nothing. -/
theorem run_answers :
    (∀ fs : List Field, AllFit .request fs → depthAll fs ≤ nestingLimit →
      Sends nestingLimit .request fs (encodeAll fs)) ∧
    (∀ q : Request, AllFit .request (Form.fields q) ∧ Form.read (Form.fields q) = q) ∧
    (∀ (fs : List Field) (input : List UInt8), Sends nestingLimit .request fs input →
      input.length < UInt64.size → decodeAs Request input = .ok (Form.read fs)) ∧
    (∀ (input : List UInt8) (q : Request), decodeAs Request input = .ok q →
      (encode (respond q).response).length < UInt64.size →
        (run input).exitCode = 0 ∧
        (∀ e, Options.parse (q.parameter?.getD "") = .error e →
          decodeAs Response (run input).stdout = .ok { error? := some e.message } ∧
          (run input).log = []) ∧
        ∀ o, Options.parse (q.parameter?.getD "") = .ok o →
          decodeAs Response (run input).stdout = .ok (answer o q).response ∧
          (run input).log = .options o :: (answer o q).log) ∧
    ∀ (input : List UInt8) (e : DecodeError), decodeAs Request input = .error e →
      (run input).exitCode = 1 ∧ (run input).stdout = [] := by
  refine ⟨fun fs => sends_encodeAll, fun q => ⟨LawfulForm.fits q, LawfulForm.read_fields q⟩,
    fun fs input sent => decodeAs_of_sends sent, fun input q read small => ?_, fun input e h => ?_⟩
  · rw [run_of_decode read]
    have arrives := decodeAs_respond small
    refine ⟨rfl, fun e h => ?_, fun o h => ?_⟩
    · rw [respond_of_error h] at arrives ⊢
      exact ⟨arrives, rfl⟩
    · rw [respond_of_ok h] at arrives ⊢
      exact ⟨arrives, rfl⟩
  · rw [run_of_error h]
    exact ⟨rfl, rfl⟩

def noteRequest : Request where
  requested := ["note.proto"]
  parameter? := some ""
  compilerVersion? := some { suffix? := some "" }
  files := [{
    name? := some "note.proto"
    package? := some ""
    messages := [{ name? := some "Note", fields := [{ name? := some "", number? := some (-1) }] }] }]

/-- A file with members that are read and not kept. -/
def noteFields : List Field :=
  [.text 1 "note.proto", .message 8 [.text 11 "example/note"],
    .message 9 [.message 1 [.packed 1 [4, 0], .text 3 " A note."]], .varint 10 0]

theorem noteFields_fit : AllFit .file noteFields := by
  have options : AllFit .fileOptions [.text 11 "example/note"] :=
    List.forall_mem_singleton.mpr (.of_kind rfl (.text _))
  have location : AllFit .location [.packed 1 [4, 0], .text 3 " A note."] :=
    List.forall_mem_cons.mpr ⟨.of_kind rfl (.packed (by decide)),
      List.forall_mem_singleton.mpr (.of_kind rfl (.text _))⟩
  have info : AllFit .sourceCodeInfo [.message 1 [.packed 1 [4, 0], .text 3 " A note."]] :=
    List.forall_mem_singleton.mpr (.message rfl rfl location)
  simp only [AllFit, noteFields, List.forall_mem_cons]
  exact ⟨.of_kind rfl (.text _), .message rfl rfl options, .message rfl rfl info,
    .of_kind rfl (.single (by decide)), List.forall_mem_nil _⟩

theorem run_answers_noteRequest :
    (run (encode noteRequest)).exitCode = 0 ∧
      decodeAs Response (run (encode noteRequest)).stdout = .ok (answer {} noteRequest).response ∧
      decodeAs Request (encodeAll [.text 1 "note.proto", .message 15 noteFields]) =
        .ok { requested := ["note.proto"], files := [{ name? := some "note.proto" }] } ∧
      (run [0x7a, 2, 0x40, 1]).exitCode = 1 := by
  obtain ⟨sends, records, reads, answers, refuses⟩ := run_answers
  have sent := sends (Form.fields noteRequest) (records noteRequest).1 (by decide)
  have read := reads _ (encode noteRequest) sent (by decide +kernel)
  rw [(records noteRequest).2] at read
  obtain ⟨exit, -, answered⟩ := answers _ _ read (by decide +kernel)
  have fits : AllFit .request [.text 1 "note.proto", .message 15 noteFields] :=
    List.forall_mem_cons.mpr ⟨.of_kind rfl (.text _),
      List.forall_mem_singleton.mpr (.message rfl rfl noteFields_fit)⟩
  have kept := reads _ _ (sends _ fits (by decide)) (by decide +kernel)
  have bad : decodeAs Request [0x7a, 2, 0x40, 1] = .error ⟨.wireType .varint .lengthDelimited,
      [("FileDescriptorProto", "options"), ("CodeGeneratorRequest", "proto_file")]⟩ := by
    rfl
  exact ⟨exit, (answered {} (by decide +kernel)).1, kept, (refuses _ _ bad).1⟩

end Plugin

end FlowSchema
