import ApiContract.Proofs.Body.Entries
import ApiContract.Proofs.Contract.Pair
import ApiContract.Proofs.Parameter.Location
import ApiContract.Proofs.Route.Operations

/-!
# What is compiled

A contract compiles the schemas of its document once, while it is built. An engine that keeps a record
of what it compiles shows them in order: for each operation the schemas of the four parameter locations
and of the request body, then, response by response, the schemas of the headers and of the body. The
calls that follow add nothing to the record.
-/

namespace ApiContract

/-! ## Records -/

/-- Computations that may fail and keep a record of compilations. -/
abbrev Recorder : Type → Type := StateT (List Engine.Compilation) (Except Failure)

/-- Wherever the computation succeeds, it has added the compilations to the record. -/
def Adds {α : Type} (x : Recorder α) (compilations : List Engine.Compilation) : Prop :=
  ∀ record a record', x.run record = .ok (a, record') → record' = record ++ compilations

namespace Adds

variable {α β : Type} {x : Recorder α} {f : α → Recorder β} {added more : List Engine.Compilation}

theorem of_eq (h : Adds x added) (heq : added = more) : Adds x more := by
  rwa [heq] at h

theorem pure (a : α) : Adds (pure a : Recorder α) [] := by
  intro record b record' h
  cases h
  rw [List.append_nil]

-- What fails adds whatever is wanted.
theorem throw (failure : Failure) : Adds (throw failure : Recorder α) added := by
  intro record a record' h
  cases h

theorem bind (h : Adds x added) (hstep : ∀ a, Adds (f a) more) :
    Adds (x >>= f) (added ++ more) := by
  intro record b record'' hrun
  rw [StateT.run_bind] at hrun
  obtain ⟨⟨a, record'⟩, ha, hb⟩ := Result.bind_eq_ok_iff.1 hrun
  rw [hstep a record' b record'' hb, h record a record' ha, List.append_assoc]

-- What is made of a result adds nothing.
theorem map (h : Adds x added) (g : α → β) : Adds (x >>= fun a => Pure.pure (g a)) added := by
  have hpure := h.bind fun a => Adds.pure (g a)
  rwa [List.append_nil] at hpure

-- A value that has to be there first adds nothing.
theorem ofExcept {y : Except Failure α} (h : ∀ a, y = .ok a → Adds (f a) added) :
    Adds (MonadExcept.ofExcept y >>= f) added := by
  cases y with
  | ok a => exact h a rfl
  | error failure =>
    intro record b record' hrun
    cases hrun

end Adds

/-- The engine records each compilation as one of an engine with the options, for the version. -/
def Engine.RecordsAs (engine : Engine Recorder) (options : EngineOptions) (version : Option String) :
    Prop :=
  ∀ direction schema, Adds (engine.compile direction schema) [⟨schema, direction, options, version⟩]

theorem Engine.recordsAs_recording (options : EngineOptions) (version : Option String) :
    (recording options version).RecordsAs options version := by
  intro direction schema record check record' h
  cases h
  rfl

/-! ## The schemas of a document -/

/-- The schema of a location with the given parameters, as far as they are objects. -/
def Parameter.combined (naming : Naming) (parameters : List Value) : Value :=
  (parameters.foldl (fun g parameter => Gathered.add naming g parameter.fields) {}).schema

/-- The schemas of a content map: of each media type the one that is declared first. -/
def BodyValidator.declaredSchemas (content : Value) : List Value :=
  (firstOfEach (fun entry => MediaType.normalize entry.1) (declaredEntries content)).map (·.2)

/-- The schemas of the requests to an operation: those of the four parameter locations, then those of
the body. -/
def DeclaredOperation.requestSchemas (d : DeclaredOperation) : List Value :=
  let parameters := Parameter.merge d.ofPath (Operation.fieldOf d.value.fields "parameters")
  let body := Operation.fieldOf d.value.fields "requestBody"
  [ParameterLocation.path, .query, .header, .cookie].map (fun loc =>
    Parameter.combined loc.naming (Operation.located loc.name parameters)) ++
  BodyValidator.declaredSchemas (Operation.fieldOf body.fields "content")

/-- The schemas of an entry of the responses: that of the headers, then those of the body. Only an object
is a response. -/
def Operation.entrySchemas : Scalar × Value → List Value
  | (_, .object response) =>
    Parameter.combined ParameterLocation.header.naming
      ((fieldOf response "headers").fields.filterMap ParameterValidator.headerParameter?) ::
    BodyValidator.declaredSchemas (fieldOf response "content")
  | _ => []

/-- The schemas of the responses of an operation, response by response. -/
def DeclaredOperation.responseSchemas (d : DeclaredOperation) : List Value :=
  (Operation.fieldOf d.value.fields "responses").fields.flatMap Operation.entrySchemas

/-- What is compiled for an operation: the schemas of its requests with the options for requests, then
those of its responses with the options for responses. -/
def DeclaredOperation.compilations (options : ContractOptions) (version : Option String)
    (d : DeclaredOperation) : List Engine.Compilation :=
  d.requestSchemas.map (⟨·, .request, options.request, version⟩) ++
  d.responseSchemas.map (⟨·, .response, options.response, version⟩)

/-! ## Validators -/

theorem Parameter.combined_of_gather {naming : Naming} {parameters : List Value} {g g' : Gathered}
    (h : gather naming g parameters = .ok g') :
    parameters.foldl (fun g parameter => Gathered.add naming g parameter.fields) g = g' := by
  induction parameters generalizing g with
  | nil => exact Except.ok.inj h
  | cons parameter rest ih =>
    cases parameter with
    | object fields => exact ih h
    | scalar s => cases h
    | list items => cases h

theorem Parameter.combined_of_aggregate {naming : Naming} {parameters : List Value} {schema : Value}
    (h : aggregate naming parameters = .ok schema) : combined naming parameters = schema := by
  obtain ⟨g, hg, hschema⟩ := Result.bind_eq_ok_iff.1 h
  rw [combined, combined_of_gather hg]
  exact Except.ok.inj hschema

variable {engine : Engine Recorder} {options : EngineOptions} {version : Option String}
  {direction : Direction}

theorem SchemaUnit.adds_compile (h : engine.RecordsAs options version) (schema : Value) :
    Adds (SchemaUnit.compile engine direction schema) [⟨schema, direction, options, version⟩] :=
  (h direction schema).map _

theorem ParameterValidator.adds_build (h : engine.RecordsAs options version) (location : String)
    (naming : Parameter.Naming) (errorKind : ErrorKind) (parameters : List Value) :
    Adds (build location naming errorKind parameters engine direction)
      [⟨Parameter.combined naming parameters, direction, options, version⟩] := by
  refine .ofExcept fun schema hschema => ?_
  rw [Parameter.combined_of_aggregate hschema]
  exact (SchemaUnit.adds_compile h schema).map _

theorem ParameterValidator.adds_ofHeaders (h : engine.RecordsAs options version) (headers : Value) :
    Adds (ofHeaders headers engine direction)
      [⟨Parameter.combined ParameterLocation.header.naming
        (headers.fields.filterMap headerParameter?), direction, options, version⟩] := by
  refine .ofExcept fun parameters hparameters => ?_
  have heq : headers.fields.filterMap headerParameter? = parameters := by
    cases headers with
    | object fields => exact Except.ok.inj hparameters
    | scalar s => exact eq_nil_of_falsy hparameters
    | list items => exact eq_nil_of_falsy hparameters
  rw [heq]
  exact adds_build h _ _ _ parameters

namespace BodyValidator

theorem adds_compileUnits (h : engine.RecordsAs options version) (declared : List (String × Value))
    (done : List (String × SchemaUnit)) :
    Adds (compileUnits engine direction done declared)
      ((pending (done.map (·.1)) declared).map fun entry =>
        ⟨entry.2, direction, options, version⟩) := by
  induction declared generalizing done with
  | nil => exact .pure done
  | cons entry rest ih =>
    obtain ⟨pattern, schema⟩ := entry
    unfold compileUnits
    dsimp only
    split
    · rename_i hdone
      rw [pending_cons_of_mem (isSome_lookup_iff.1 hdone)]
      exact ih done
    · rename_i hnew
      rw [pending_cons_of_not_mem (mt isSome_lookup_iff.2 hnew), List.map_cons,
        ← List.singleton_append]
      refine (SchemaUnit.adds_compile h schema).bind fun unit => (ih _).of_eq ?_
      rw [List.map_append]
      rfl

theorem adds_build (h : engine.RecordsAs options version) (content : Value) (required : Bool) :
    Adds (build content required engine direction)
      ((declaredSchemas content).map (⟨·, direction, options, version⟩)) := by
  refine .ofExcept fun declared hdeclared => ?_
  rw [declaredSchemas, declaredEntries_of_entries hdeclared]
  have hunits : Adds (compileUnits engine direction [] declared) _ := adds_compileUnits h declared []
  rw [List.map_nil, pending_nil_left] at hunits
  rw [List.map_map]
  exact hunits.map _

end BodyValidator

/-! ## Operations -/

namespace Operation

variable {requestEngine responseEngine : Engine Recorder} {contractOptions : ContractOptions}

theorem adds_buildRequestBody (h : engine.RecordsAs options version) (fields : Fields) :
    Adds (buildRequestBody engine (Value.lookup fields "requestBody"))
      ((BodyValidator.declaredSchemas (fieldOf (fieldOf fields "requestBody").fields "content")).map
        (⟨·, .request, options, version⟩)) := by
  rw [show fieldOf fields "requestBody" = (Value.lookup fields "requestBody").getD .null from rfl]
  cases Value.lookup fields "requestBody" with
  | none => exact .pure none
  | some declared =>
    cases declared with
    | object body => exact (BodyValidator.adds_build h _ _).map _
    | scalar s => exact .pure none
    | list items => exact .pure none

theorem adds_buildResponses (h : engine.RecordsAs options version) (declared : Fields) :
    Adds (buildResponses engine declared)
      ((declared.flatMap entrySchemas).map (⟨·, .response, options, version⟩)) := by
  induction declared with
  | nil => exact .pure []
  | cons entry rest ih =>
    obtain ⟨status, response⟩ := entry
    cases response with
    | scalar s => exact ih
    | list items => exact ih
    | object fields =>
      have hresponse : Adds (buildResponse engine fields)
          ((entrySchemas (status, .object fields)).map (⟨·, .response, options, version⟩)) :=
        (ParameterValidator.adds_ofHeaders h _).bind fun header =>
          (BodyValidator.adds_build h _ _).map _
      rw [List.flatMap_cons, List.map_append]
      exact hresponse.bind fun response => ih.map _

theorem adds_build (hrequest : requestEngine.RecordsAs contractOptions.request version)
    (hresponse : responseEngine.RecordsAs contractOptions.response version)
    (template method : String) (fields : Fields) (ofPath : Value) :
    Adds (build template method fields requestEngine responseEngine ofPath)
      (DeclaredOperation.compilations contractOptions version
        ⟨template, method, .object fields, ofPath⟩) := by
  have hlocation : ∀ location naming errorKind parameters,
      Adds (ParameterValidator.build location naming errorKind parameters requestEngine .request)
        [⟨Parameter.combined naming parameters, .request, contractOptions.request, version⟩] :=
    ParameterValidator.adds_build hrequest
  have hresponses : Adds
      (buildResponses responseEngine (declaredResponses (Value.lookup fields "responses")))
      (((fieldOf fields "responses").fields.flatMap entrySchemas).map
        (⟨·, .response, contractOptions.response, version⟩)) := by
    have hdeclared : declaredResponses (Value.lookup fields "responses") =
        (fieldOf fields "responses").fields := by
      rw [fieldOf]
      cases Value.lookup fields "responses" with
      | none => rfl
      | some responses => cases responses <;> rfl
    rw [hdeclared]
    exact adds_buildResponses hresponse _
  unfold build
  refine .of_eq ((hlocation _ _ _ _).bind fun _ => (hlocation _ _ _ _).bind fun _ =>
    (hlocation _ _ _ _).bind fun _ => (hlocation _ _ _ _).bind fun _ =>
    (adds_buildRequestBody hrequest fields).bind fun _ => hresponses.map _) ?_
  simp only [DeclaredOperation.compilations, DeclaredOperation.requestSchemas, List.map_append,
    List.append_assoc]
  rfl

end Operation

/-! ## Documents -/

namespace PathIndex

variable {requestEngine responseEngine : Engine Recorder} {contractOptions : ContractOptions}

theorem adds_buildOperations (hrequest : requestEngine.RecordsAs contractOptions.request version)
    (hresponse : responseEngine.RecordsAs contractOptions.response version) (template : String)
    (item : Fields) (methods : List String) (seen : List Operation) :
    Adds (buildOperations template item requestEngine responseEngine seen methods)
      ((DeclaredOperation.under template item methods).flatMap
        (·.compilations contractOptions version)) := by
  induction methods generalizing seen with
  | nil => exact .pure []
  | cons method rest ih =>
    unfold buildOperations
    split
    · rename_i hnone
      rw [DeclaredOperation.under_cons_of_isNull (by rw [Operation.fieldOf, hnone]; rfl)]
      exact ih seen
    · rename_i hnull
      rw [DeclaredOperation.under_cons_of_isNull (by rw [Operation.fieldOf, hnull]; rfl)]
      exact ih seen
    · rename_i fields hobject
      have hfield : Operation.fieldOf item method = .object fields := by
        rw [Operation.fieldOf, hobject]
        rfl
      rw [DeclaredOperation.under_cons (by rw [hfield]; rfl), hfield, List.flatMap_cons]
      refine (Operation.adds_build hrequest hresponse _ _ _ _).bind fun op => ?_
      split
      · exact .throw _
      · exact (ih _).map _
    · exact .throw _

theorem adds_buildRoutes (hrequest : requestEngine.RecordsAs contractOptions.request version)
    (hresponse : responseEngine.RecordsAs contractOptions.response version) (paths : Fields)
    (seen : List Operation) :
    Adds (buildRoutes requestEngine responseEngine seen paths)
      ((paths.flatMap DeclaredOperation.ofEntry).flatMap
        (·.compilations contractOptions version)) := by
  induction paths generalizing seen with
  | nil => exact .pure []
  | cons entry rest ih =>
    obtain ⟨key, item⟩ := entry
    unfold buildRoutes
    split
    · rename_i template
      cases hslash : template.startsWith "/" with
      | false => exact .throw _
      | true =>
        rw [List.flatMap_cons, List.flatMap_append]
        cases item with
        | object fields =>
          exact (adds_buildOperations hrequest hresponse template fields httpMethods seen).bind
            fun operations => (ih _).map _
        | scalar s => exact .throw _
        | list items => exact .throw _
    · exact .throw _

theorem adds_build (hrequest : requestEngine.RecordsAs contractOptions.request version)
    (hresponse : responseEngine.RecordsAs contractOptions.response version) (document : Value) :
    Adds (build document requestEngine responseEngine)
      ((DeclaredOperation.ofDocument document).flatMap
        (·.compilations contractOptions version)) := by
  have hroutes : ∀ paths, Adds
      (buildRoutes requestEngine responseEngine [] paths >>= fun routes => pure (PathIndex.mk routes))
      ((paths.flatMap DeclaredOperation.ofEntry).flatMap
        (·.compilations contractOptions version)) := fun paths =>
    (adds_buildRoutes hrequest hresponse paths []).map _
  unfold build DeclaredOperation.ofDocument declaredPaths
  cases document with
  | scalar s => exact .throw _
  | list items => exact .throw _
  | object fields =>
    dsimp only [Value.member?]
    cases Value.lookup fields "paths" with
    | none => exact hroutes []
    | some paths =>
      cases paths with
      | object paths => exact hroutes paths
      | scalar s => exact .throw _
      | list items => exact .throw _

end PathIndex

/-! ## Contracts -/

namespace Contract

/-- A contract is built, and then requests and responses are checked. -/
def session (engine : EngineOptions → Option String → Engine Recorder) (options : ContractOptions)
    (document : Value) (requests : List RequestCall) (responses : List ResponseCall) :
    Recorder (List (Except Failure (Option String)) ×
      List (Except Failure Operation.ValidatedResponse)) := do
  let c ← build engine options document
  return (requests.map c.answerRequest, responses.map c.answerResponse)

variable {engine : EngineOptions → Option String → Engine Recorder} {options : ContractOptions}
  {document : Value}

theorem adds_build
    (hrecords : ∀ options version, (engine options version).RecordsAs options version)
    (options : ContractOptions) (document : Value) :
    Adds (build engine options document)
      ((DeclaredOperation.ofDocument document).flatMap
        (·.compilations options (statedVersion document))) := by
  unfold build
  by_cases hvalid : (options.validateDocument && !Document.isValid document) = true
  · rw [if_pos hvalid]
    exact .throw _
  · rw [if_neg hvalid]
    exact (PathIndex.adds_build (hrecords _ _) (hrecords _ _) document).map _

/-- What is compiled for a document, when each compilation is recorded: operation by operation, in the
order of the paths and of the methods, the schemas of the four parameter locations and of the media
types of the request body, for requests and with the engine for requests; then, response by response,
the schema of the headers and those of the media types of the body, for responses and with the engine
for responses. A media type counts once, where it is declared first, and what stands in the place of
its schema without being one counts as the empty schema. After that the record stays as it is, however
many requests and responses are checked. -/
theorem compiles_each_schema_once
    (hrecords : ∀ options version, (engine options version).RecordsAs options version) :
    (∀ c record, (build engine options document).run [] = .ok (c, record) →
      record = (DeclaredOperation.ofDocument document).flatMap
        (·.compilations options (statedVersion document))) ∧
    ∀ requests responses answers record,
      (session engine options document requests responses).run [] = .ok (answers, record) →
        ∃ c, (build engine options document).run [] = .ok (c, record) ∧
          answers = (requests.map c.answerRequest, responses.map c.answerResponse) := by
  constructor
  · intro c record hrun
    exact adds_build hrecords options document [] c record hrun
  · intro requests responses answers record hrun
    rw [session, StateT.run_bind] at hrun
    obtain ⟨⟨c, built⟩, hbuild, hreturn⟩ := Result.bind_eq_ok_iff.1 hrun
    cases hreturn
    exact ⟨c, hbuild, rfl⟩

/-- Things to be posted in two formats, the second of which is declared twice. -/
def formattedThings : Value :=
  .object [(.str "paths", .object [(.str "/things", .object [(.str "post", .object
    [(.str "requestBody", .object [(.str "content", .object
        [(.str "text/plain", .object [(.str "schema", .int 7)]),
          (.str "application/json", .object [(.str "schema", .bool true)]),
          (.str "Application/JSON; charset=utf-8", .object [(.str "schema", .bool false)])])]),
      (.str "responses", .object
        [(.str "200", .object []), (.str "404", .str "Not here")])])])])]

-- The number that is no schema counts as the empty one, the second format is compiled once, and what is
-- no response not at all.
theorem compilations_of_formattedThings : ∃ c record,
    (build Engine.recording { request := ⟨true, false⟩ } formattedThings).run [] = .ok (c, record) ∧
      record = List.replicate 4 ⟨({} : Parameter.Gathered).schema, .request, ⟨true, false⟩, none⟩ ++
        [⟨.object [], .request, ⟨true, false⟩, none⟩, ⟨.bool true, .request, ⟨true, false⟩, none⟩,
          ⟨({} : Parameter.Gathered).schema, .response, {}, none⟩] := by
  have hrun : ((build Engine.recording { request := ⟨true, false⟩ } formattedThings).run []).isOk =
      true := by decide +kernel
  obtain ⟨⟨c, record⟩, hc⟩ := Result.exists_of_isOk hrun
  have hrecord := (compiles_each_schema_once Engine.recordsAs_recording).1 c record hc
  refine ⟨c, record, hc, hrecord.trans ?_⟩
  decide +kernel

end Contract

end ApiContract
