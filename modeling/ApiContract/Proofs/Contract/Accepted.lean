import ApiContract.Contract
import ApiContract.Proofs.Route.Operations

/-!
# Accepted documents

With lenient options a document is refused for its form only: a contract is built when the document is
well formed, and a document error says that it is not. Whatever else stands inside an operation, its
schemas, parameters and responses, leads to no contract error; what is of a wrong shape there stops
the computation.
-/

namespace ApiContract

open Result (FailsOnly)

/-- The engine finds fault with nothing that can be a schema. -/
def Engine.Lenient (engine : Engine (Except Failure)) : Prop :=
  ∀ direction schema, isSchema schema = true → Untyped (engine.compile direction schema)

-- Without strict mode there is no error about a schema.
theorem Engine.lenient_standard {options : EngineOptions} (h : options.strict = false)
    (version : Option String) : (standard options version).Lenient := by
  intro direction schema hschema
  change Untyped (compileSchema options version direction schema)
  unfold compileSchema
  simp only [hschema, h, Bool.not_true, Bool.false_eq_true, if_false]
  split
  · exact Untyped.stop _
  · split
    · exact Untyped.stop .wrongShape
    · exact .ok _

variable {engine : Engine (Except Failure)} {direction : Direction}

/-! ## Validators -/

theorem SchemaUnit.untyped_compile (h : engine.Lenient) {schema : Value}
    (hschema : Engine.isSchema schema = true) :
    Untyped (SchemaUnit.compile engine direction schema) :=
  (h direction schema hschema).bind fun _ _ => .ok _

namespace Parameter

variable {naming : Naming}

theorem untyped_gather (g : Gathered) (parameters : List Value) :
    Untyped (gather naming g parameters) := by
  induction parameters generalizing g with
  | nil => exact .ok g
  | cons parameter rest ih =>
    cases parameter with
    | scalar s => exact Untyped.stop .wrongShape
    | list items => exact Untyped.stop .wrongShape
    | object fields => exact ih (g.add naming fields)

end Parameter

namespace ParameterValidator

-- What is gathered from parameters is an object, which can be a schema.
theorem untyped_build (h : engine.Lenient) (location : String) (naming : Parameter.Naming)
    (errorKind : ErrorKind) (parameters : List Value) :
    Untyped (build location naming errorKind parameters engine direction) := by
  unfold build
  rw [Result.ofExcept_eq]
  refine FailsOnly.bind ?_ fun schema hschema => ?_
  · exact (Parameter.untyped_gather {} parameters).bind fun _ _ => .ok _
  · obtain ⟨g, -, hg⟩ := Result.bind_eq_ok_iff.1 hschema
    obtain rfl := Except.ok.inj hg
    exact (SchemaUnit.untyped_compile h rfl).bind fun _ _ => .ok _

theorem untyped_ofHeaders (h : engine.Lenient) (headers : Value) :
    Untyped (ofHeaders headers engine direction) := by
  unfold ofHeaders
  rw [Result.ofExcept_eq]
  refine FailsOnly.bind ?_ fun parameters _ => untyped_build h _ _ _ parameters
  unfold headerParameters
  split
  · exact .ok _
  · split
    · exact Untyped.stop .wrongShape
    · exact .ok _

end ParameterValidator

namespace BodyValidator

-- What counts as the schema of a media type can be a schema.
theorem isSchema_mediaSchema (media : Value) : Engine.isSchema (mediaSchema media) = true := by
  unfold mediaSchema
  split
  · split
    · assumption
    · rfl
  · rfl

theorem untyped_entries (content : Value) : Untyped (entries content) := by
  unfold entries
  split
  · exact .ok _
  · split
    · exact Untyped.stop .wrongShape
    · exact .ok _

theorem isSchema_of_entries {content : Value} {declared : List (String × Value)}
    (h : entries content = .ok declared) : ∀ entry ∈ declared, Engine.isSchema entry.2 = true := by
  unfold entries at h
  split at h
  · obtain rfl := Except.ok.inj h
    intro entry hentry
    obtain ⟨⟨key, media⟩, -, hkey⟩ := List.mem_filterMap.1 hentry
    split at hkey
    · obtain rfl := Option.some.inj hkey
      exact isSchema_mediaSchema _
    · cases hkey
  · split at h
    · cases h
    · obtain rfl := Except.ok.inj h
      intro entry hentry
      cases hentry

theorem untyped_compileUnits (h : engine.Lenient) {declared : List (String × Value)}
    (hdeclared : ∀ entry ∈ declared, Engine.isSchema entry.2 = true)
    (done : List (String × SchemaUnit)) :
    Untyped (compileUnits engine direction done declared) := by
  induction declared generalizing done with
  | nil => exact .ok done
  | cons entry rest ih =>
    obtain ⟨hentry, hrest⟩ := List.forall_mem_cons.1 hdeclared
    unfold compileUnits
    dsimp only
    split
    · exact ih hrest done
    · exact (SchemaUnit.untyped_compile h hentry).bind fun unit _ => ih hrest _

theorem untyped_build (h : engine.Lenient) (content : Value) (required : Bool) :
    Untyped (build content required engine direction) := by
  unfold build
  rw [Result.ofExcept_eq]
  refine (untyped_entries content).bind fun declared hdeclared => ?_
  exact (untyped_compileUnits h (isSchema_of_entries hdeclared) []).bind fun _ _ => .ok _

end BodyValidator

/-! ## Operations -/

namespace Operation

theorem untyped_buildRequestBody (h : engine.Lenient) (declared : Option Value) :
    Untyped (buildRequestBody engine declared) := by
  unfold buildRequestBody
  split
  · exact (BodyValidator.untyped_build h _ _).bind fun _ _ => .ok _
  · exact .ok _

theorem untyped_buildResponses (h : engine.Lenient) (declared : Fields) :
    Untyped (buildResponses engine declared) := by
  induction declared with
  | nil => exact .ok []
  | cons entry rest ih =>
    obtain ⟨status, response⟩ := entry
    cases response with
    | scalar s => exact ih
    | list items => exact ih
    | object fields =>
      have hresponse : Untyped (buildResponse engine fields) :=
        (ParameterValidator.untyped_ofHeaders h _).bind fun _ _ =>
          (BodyValidator.untyped_build h _ _).bind fun _ _ => .ok _
      exact hresponse.bind fun _ _ => ih.bind fun _ _ => .ok _

-- Whatever an operation declares, nothing but a fault keeps it from being built.
theorem untyped_build {requestEngine responseEngine : Engine (Except Failure)}
    (hrequest : requestEngine.Lenient) (hresponse : responseEngine.Lenient)
    (path method : String) (fields : Fields) (ofPath : Value) :
    Untyped (build path method fields requestEngine responseEngine ofPath) := by
  have hlocation : ∀ location naming errorKind parameters, Untyped (ParameterValidator.build
      location naming errorKind parameters requestEngine .request) :=
    ParameterValidator.untyped_build hrequest
  unfold build
  refine (hlocation _ _ _ _).bind fun _ _ => (hlocation _ _ _ _).bind fun _ _ =>
    (hlocation _ _ _ _).bind fun _ _ => (hlocation _ _ _ _).bind fun _ _ => ?_
  refine (untyped_buildRequestBody hrequest _).bind fun _ _ => ?_
  exact (untyped_buildResponses hresponse _).bind fun _ _ => .ok _

end Operation

/-! ## Documents -/

theorem DeclaredOperation.untyped_build {requestEngine responseEngine : Engine (Except Failure)}
    (hrequest : requestEngine.Lenient) (hresponse : responseEngine.Lenient) {d : DeclaredOperation}
    (hobject : d.value.isObject = true) : Untyped (d.build requestEngine responseEngine) := by
  unfold build
  cases hvalue : d.value with
  | object fields => exact Operation.untyped_build hrequest hresponse _ _ fields _
  | scalar s =>
    rw [hvalue] at hobject
    cases hobject
  | list items =>
    rw [hvalue] at hobject
    cases hobject

namespace Contract

/-- Without strict mode and without a check of the document, documents are accepted exactly when they
are well formed and all of their operations can be built. A contract error says that the document is
not well formed, and it is a document error, never one about a schema. The only other failures are the
faults of operations that cannot be built. -/
theorem accepts_exactly_wellFormed (document : Value) (requestErrors responseErrors : Bool) :
    let options : ContractOptions :=
      { request := { allErrors := requestErrors }, response := { allErrors := responseErrors } }
    let build (d : DeclaredOperation) : Except Failure Operation :=
      d.build (Engine.standard options.request (statedVersion document))
        (Engine.standard options.response (statedVersion document))
    (∀ c, ofDocument options document = .ok c → WellFormed document) ∧
    (∀ e, ofDocument options document = .error (.contract e) →
      ¬ WellFormed document ∧ e.kind = .document ∧ e.code = 500) ∧
    (∀ failure, ofDocument options document = .error failure → (∃ e, failure = .contract e) ∨
      ∃ fault, failure = .fault fault ∧ ∃ d ∈ DeclaredOperation.ofDocument document,
        d.value.isObject = true ∧ build d = .error (.fault fault)) ∧
    ((∃ c, ofDocument options document = .ok c) ↔ WellFormed document ∧
      ∀ d ∈ DeclaredOperation.ofDocument document, ∃ op, build d = .ok op) := by
  intro options build
  let requestEngine := Engine.standard options.request (statedVersion document)
  let responseEngine := Engine.standard options.response (statedVersion document)
  have hlenient : ∀ d : DeclaredOperation, d.value.isObject = true → Untyped (build d) := fun d =>
    DeclaredOperation.untyped_build (Engine.lenient_standard rfl _) (Engine.lenient_standard rfl _)
  have hofDocument : ofDocument options document =
      (PathIndex.build document requestEngine responseEngine >>= fun index =>
        .ok ⟨statedVersion document, index⟩) := rfl
  have hanswers : PathIndex.Answers requestEngine responseEngine PathIndex.operations
      (WellFormed document) (DeclaredOperation.ofDocument document)
      (PathIndex.build document requestEngine responseEngine) := PathIndex.answers_build document
  rw [hofDocument]
  generalize PathIndex.build document requestEngine responseEngine = answer at hanswers
  cases hanswers with
  | built index h operations =>
    refine ⟨fun _ _ => h, nofun, nofun, fun _ => ⟨h, fun d hd => ?_⟩, fun _ => ⟨_, rfl⟩⟩
    obtain ⟨op, -, hop⟩ := Related.exists_of_mem_left operations hd
    exact ⟨op, hop⟩
  | refused e kind_eq code_eq h =>
    refine ⟨nofun, ?_, ?_, nofun, fun hall => absurd hall.1 h⟩
    · rintro e' ⟨⟩
      exact ⟨h, kind_eq, code_eq⟩
    · rintro failure ⟨⟩
      exact .inl ⟨e, rfl⟩
  | failed failure d mem isObject fails =>
    obtain ⟨fault, rfl⟩ := hlenient d isObject failure fails
    refine ⟨nofun, nofun, ?_, nofun, fun hall => ?_⟩
    · rintro failure ⟨⟩
      exact .inr ⟨fault, rfl, d, mem, isObject, fails⟩
    · obtain ⟨op, hop⟩ := hall.2 d mem
      rw [show build d = .error (.fault fault) from fails] at hop
      cases hop

/-- Two paths whose operations have the same id. -/
def doubledId : Value :=
  .object [(.str "paths", .object
    [(.str "/a", .object [(.str "get", .object [(.str "operationId", .str "same")])]),
      (.str "/b", .object [(.str "put", .object [(.str "operationId", .str "same")])])])]

/-- An operation with values in the place of schemas that are none. -/
def oddSchemas : Value :=
  .object [(.str "paths", .object [(.str "/a", .object [(.str "get", .object
    [(.str "parameters", .list [.object [(.str "name", .str "q"), (.str "in", .str "query"),
        (.str "schema", .str "text")]]),
      (.str "requestBody", .object [(.str "content", .object
        [(.str "text/plain", .object [(.str "schema", .int 7)])])])])])])]

-- A document with a doubled id is refused, one with odd schemas is not.
theorem accepts_odd_schemas_refuses_doubled_id :
    (∃ e, ofDocument {} doubledId = .error (.contract e) ∧ ¬ WellFormed doubledId ∧
      e.kind = .document ∧ e.code = 500) ∧
    ∃ c, ofDocument {} oddSchemas = .ok c ∧ WellFormed oddSchemas := by
  have hdoubled : (ofDocument {} doubledId >>= fun _ => pure ()) =
      .error (.contract (.duplicateOperationId "same" ("GET", "/a") ("PUT", "/b"))) := by
    decide +kernel
  have hrefused := (accepts_exactly_wellFormed doubledId false false).2.1
  obtain ⟨c, hc⟩ : ∃ c, ofDocument {} oddSchemas = .ok c :=
    Result.exists_of_isOk (by decide +kernel)
  refine ⟨?_, c, hc, (accepts_exactly_wellFormed oddSchemas false false).1 c hc⟩
  obtain he | ⟨_, -, h⟩ := Result.bind_eq_error_iff.1 hdoubled
  · exact ⟨_, he, hrefused _ he⟩
  · cases h

end Contract

end ApiContract
