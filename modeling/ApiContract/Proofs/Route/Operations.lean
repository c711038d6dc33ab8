import ApiContract.Proofs.Route.Lookup

/-!
# Listed operations

A document declares an operation under each method of each of its paths. The index lists what these
are built into, one operation for each, in the order of the document. Each of them is found again by
its path and method, and by its id, which no other operation has. What keeps an index from being
built is a document that is not well formed, or else an operation that cannot be built.
-/

namespace ApiContract

/-! ## What a document declares -/

/-- The entries of a document's paths object. -/
def declaredPaths (document : Value) : Fields :=
  match document.member? "paths" with
  | some (.object paths) => paths
  | _ => []

/-- An operation as a document declares it. -/
structure DeclaredOperation where
  template : String
  method : String
  /-- What stands under the method. -/
  value : Value
  /-- The parameters that the path declares for all of its operations. -/
  ofPath : Value

namespace DeclaredOperation

/-- The id that the operation declares, if it is not empty. -/
def id? (d : DeclaredOperation) : Option String :=
  ((d.value.member? "operationId").bind Value.string?).filter (!·.isEmpty)

/-- The operations that a path item declares under the given methods: those with a value other than
null. -/
def under (template : String) (item : Fields) (methods : List String) : List DeclaredOperation :=
  (methods.filter fun method => !(Operation.fieldOf item method).isNull).map fun method =>
    ⟨template, method, Operation.fieldOf item method, Operation.fieldOf item "parameters"⟩

/-- The operations that an entry of the paths object declares, in the order of methods. -/
def ofEntry : Scalar × Value → List DeclaredOperation
  | (.str template, .object item) => under template item httpMethods
  | _ => []

/-- The operations that a document declares, in order. -/
def ofDocument (document : Value) : List DeclaredOperation :=
  (declaredPaths document).flatMap ofEntry

/-- Build a declared operation, which has to be an object. -/
def build (requestEngine responseEngine : Engine (Except Failure)) (d : DeclaredOperation) :
    Except Failure Operation :=
  match d.value with
  | .object fields =>
    Operation.build d.template d.method fields requestEngine responseEngine d.ofPath
  | _ => .error (.contract (.operationNotObject (Text.upper d.method) d.template))

variable {requestEngine responseEngine : Engine (Except Failure)} {d : DeclaredOperation}
  {op : Operation} {template method : String} {item : Fields} {methods : List String}

-- A method without a value, or with null, declares nothing.
theorem under_cons_of_isNull (h : (Operation.fieldOf item method).isNull = true) :
    under template item (method :: methods) = under template item methods := by
  rw [under, List.filter_cons_of_neg (by simp [h])]
  rfl

theorem under_cons (h : (Operation.fieldOf item method).isNull = false) :
    under template item (method :: methods) =
      ⟨template, method, Operation.fieldOf item method, Operation.fieldOf item "parameters"⟩ ::
        under template item methods := by
  rw [under, List.filter_cons_of_pos (by simp [h])]
  rfl

-- What is declared by an entry is declared at its template, under a supported method.
theorem of_mem_ofEntry {entry : Scalar × Value} (h : d ∈ ofEntry entry) :
    entry.1 = .str d.template ∧ d.method ∈ httpMethods := by
  unfold ofEntry at h
  split at h
  · obtain ⟨method, hmethod, rfl⟩ := List.mem_map.1 h
    exact ⟨rfl, (List.mem_filter.1 hmethod).1⟩
  · cases h

-- What is declared by a document is declared by one of its paths.
theorem of_mem_ofDocument {document : Value} (h : d ∈ ofDocument document) :
    d.method ∈ httpMethods := by
  obtain ⟨entry, -, hd⟩ := List.mem_flatMap.1 h
  exact (of_mem_ofEntry hd).2

/-! ### Each operation once -/

-- No method is declared twice by a path item.
theorem nodup_ofEntry (entry : Scalar × Value) :
    ((ofEntry entry).map fun d => (d.template, d.method)).Nodup := by
  unfold ofEntry
  split
  · rename_i template item
    rw [under, List.map_map]
    have hmethods : httpMethods.Nodup := by decide
    refine (hmethods.filter _).map ?_
    intro method method' h
    exact (Prod.mk.inj h).2
  · exact List.nodup_nil

-- Two entries under different keys declare operations at different templates.
theorem disjoint_of_key_ne {entry other : Scalar × Value} (h : entry.1.sameKey other.1 = false) :
    ((ofEntry entry).map fun d => (d.template, d.method)).Disjoint
      ((ofEntry other).map fun d => (d.template, d.method)) := by
  intro p hp hp'
  obtain ⟨d, hd, rfl⟩ := List.mem_map.1 hp
  obtain ⟨e, he, heq⟩ := List.mem_map.1 hp'
  have htemplates : e.template = d.template := (Prod.mk.inj heq).1
  rw [(of_mem_ofEntry hd).1, (of_mem_ofEntry he).1, htemplates] at h
  simp at h

-- A well-keyed document declares each pair of a template and a method once.
theorem nodup_ofDocument {document : Value} (h : document.wellKeyed = true) :
    ((ofDocument document).map fun d => (d.template, d.method)).Nodup := by
  rw [ofDocument, List.map_flatMap, List.nodup_flatMap]
  refine ⟨fun entry _ => nodup_ofEntry entry, ?_⟩
  have hdistinct : Fields.distinct (declaredPaths document) = true := by
    unfold declaredPaths
    split
    · rename_i paths hpaths
      cases document with
      | object fields => exact Value.distinct_of_lookup h hpaths
      | scalar s => simp [Value.member?] at hpaths
      | list items => simp [Value.member?] at hpaths
    · rfl
  exact (Fields.pairwise_of_distinct hdistinct).imp fun h => disjoint_of_key_ne h

/-! ### What is built -/

-- Only objects are built into operations.
theorem built_of_build (h : d.build requestEngine responseEngine = .ok op) :
    ∃ fields, d.value = .object fields ∧
      Operation.Built d.template d.method fields requestEngine responseEngine d.ofPath op := by
  unfold build at h
  split at h
  · rename_i fields hvalue
    exact ⟨fields, hvalue, Operation.built_of_build h⟩
  · cases h

theorem path_of_build (h : d.build requestEngine responseEngine = .ok op) :
    op.path = d.template := by
  obtain ⟨_, -, hbuilt⟩ := built_of_build h
  exact hbuilt.path_eq

theorem method_of_build (h : d.build requestEngine responseEngine = .ok op) :
    op.method = Text.lower d.method := by
  obtain ⟨_, -, hbuilt⟩ := built_of_build h
  exact hbuilt.method_eq

theorem id_of_build (h : d.build requestEngine responseEngine = .ok op) :
    op.id = (d.value.member? "operationId").bind Value.string? := by
  obtain ⟨fields, hvalue, hbuilt⟩ := built_of_build h
  rw [hbuilt.id_eq, hvalue]
  rfl

-- An operation has the id that is declared.
theorem namedId?_of_build (h : d.build requestEngine responseEngine = .ok op) :
    op.namedId? = d.id? := by
  rw [Operation.namedId?, id_of_build h, id?]

theorem filterMap_namedId?_of_build {ds : List DeclaredOperation} {ops : List Operation}
    (h : List.Forall₂ (fun d op => d.build requestEngine responseEngine = .ok op) ds ops) :
    ops.filterMap (·.namedId?) = ds.filterMap (·.id?) := by
  induction h with
  | nil => rfl
  | cons hd _ ih => rw [List.filterMap_cons, List.filterMap_cons, namedId?_of_build hd, ih]

end DeclaredOperation

-- An operation is named by an id that is not empty.
theorem Operation.namedId?_eq_some_iff {op : Operation} {id : String} :
    op.namedId? = some id ↔ op.id = some id ∧ id ≠ "" := by
  rw [namedId?, Option.filter_eq_some_iff]
  simp

/-! ## What building answers -/

namespace PathIndex

open DeclaredOperation

variable {requestEngine responseEngine : Engine (Except Failure)}

/-- The declared operations can be listed behind those whose ids are taken: each of them is an
object, and no id is there twice. -/
structure Admissible (taken : List String) (ds : List DeclaredOperation) : Prop where
  objects : ∀ d ∈ ds, d.value.isObject = true
  ids : (taken ++ ds.filterMap (·.id?)).Nodup

/-- What building from declared operations may answer, and when: something that lists what each of
them is built into, if all is well formed; a document error, if not; and the failure of an operation
that cannot be built. -/
inductive Answers (requestEngine responseEngine : Engine (Except Failure)) {α : Type}
    (operationsOf : α → List Operation) (wellFormed : Prop) (ds : List DeclaredOperation) :
    Except Failure α → Prop
  | built (a : α) (h : wellFormed)
      (operations : List.Forall₂ (fun d op => d.build requestEngine responseEngine = .ok op) ds
        (operationsOf a)) :
      Answers requestEngine responseEngine operationsOf wellFormed ds (.ok a)
  | refused (e : ContractError) (kind_eq : e.kind = .document) (code_eq : e.code = 500)
      (h : ¬ wellFormed) :
      Answers requestEngine responseEngine operationsOf wellFormed ds (.error (.contract e))
  | failed (failure : Failure) (d : DeclaredOperation) (mem : d ∈ ds)
      (isObject : d.value.isObject = true)
      (fails : d.build requestEngine responseEngine = .error failure) :
      Answers requestEngine responseEngine operationsOf wellFormed ds (.error failure)

/-! ### The operations of a path -/

-- No operation before has the same id exactly when the id is not taken.
theorem sameId?_eq_none_iff {op : Operation} {seen : List Operation} :
    sameId? op seen = none ↔ ∀ id, op.namedId? = some id → id ∉ seen.filterMap (·.namedId?) := by
  unfold sameId?
  cases hid : op.namedId? with
  | none => simp
  | some id =>
    have hne : id ≠ "" := (Operation.namedId?_eq_some_iff.1 hid).2
    simp [Operation.namedId?_eq_some_iff, hne]

-- Taking one more id keeps the ids distinct exactly when it was not taken before.
theorem nodup_ids_concat {taken : List String} {d : DeclaredOperation} (htaken : taken.Nodup) :
    (taken ++ [d].filterMap (·.id?)).Nodup ↔ ∀ id, d.id? = some id → id ∉ taken := by
  cases hid : d.id? with
  | none => simp [hid, htaken]
  | some id =>
    have hids : [d].filterMap (·.id?) = [id] := by rw [List.filterMap_cons_some hid]; rfl
    rw [hids, ← List.concat_eq_append, List.nodup_concat]
    simp [htaken]

-- Operations behind others are admissible where they are with the ids of the others taken.
theorem admissible_append_iff {taken : List String} {ds es : List DeclaredOperation}
    (hds : ∀ d ∈ ds, d.value.isObject = true) :
    Admissible taken (ds ++ es) ↔ Admissible (taken ++ ds.filterMap (·.id?)) es := by
  have hids : taken ++ (ds ++ es).filterMap (·.id?) =
      (taken ++ ds.filterMap (·.id?)) ++ es.filterMap (·.id?) := by
    rw [List.filterMap_append, List.append_assoc]
  constructor
  · intro h
    refine ⟨fun e he => h.objects e (List.mem_append_right ds he), ?_⟩
    rw [← hids]
    exact h.ids
  · intro h
    refine ⟨List.forall_mem_append.2 ⟨hds, h.objects⟩, ?_⟩
    rw [hids]
    exact h.ids

theorem Admissible.left {taken : List String} {ds es : List DeclaredOperation}
    (h : Admissible taken (ds ++ es)) : Admissible taken ds := by
  have hds : ∀ d ∈ ds, d.value.isObject = true :=
    fun d hd => h.objects d (List.mem_append_left es hd)
  exact ⟨hds, ((admissible_append_iff hds).1 h).ids.of_append_left⟩

-- What is built first stands before what is built from the rest, which fails as the whole does.
theorem Answers.after {α β : Type} {operationsOf : α → List Operation}
    {operationsOf' : β → List Operation} {f : α → β} {ds es : List DeclaredOperation}
    {ops : List Operation} {wellFormed wellFormed' : Prop} {rest : Except Failure α}
    (hds : List.Forall₂ (fun d op => d.build requestEngine responseEngine = .ok op) ds ops)
    (hf : ∀ a, operationsOf' (f a) = ops ++ operationsOf a) (hwf : wellFormed' ↔ wellFormed)
    (h : Answers requestEngine responseEngine operationsOf wellFormed es rest) :
    Answers requestEngine responseEngine operationsOf' wellFormed' (ds ++ es)
      (rest >>= fun a => .ok (f a)) := by
  cases h with
  | built a h operations =>
    refine .built (f a) (hwf.2 h) ?_
    rw [hf]
    exact List.rel_append hds operations
  | refused e kind_eq code_eq h => exact .refused e kind_eq code_eq (mt hwf.1 h)
  | failed failure d mem isObject fails =>
    exact .failed failure d (List.mem_append_right ds mem) isObject fails

variable {template : String} {item : Fields}

theorem answers_buildOperations {seen : List Operation} (methods : List String)
    (hseen : (seen.filterMap (·.namedId?)).Nodup) :
    Answers requestEngine responseEngine id
      (Admissible (seen.filterMap (·.namedId?)) (under template item methods))
      (under template item methods)
      (buildOperations template item requestEngine responseEngine seen methods) := by
  induction methods generalizing seen with
  | nil => exact .built [] ⟨nofun, by simpa [under] using hseen⟩ .nil
  | cons method rest ih =>
    unfold buildOperations
    split
    · rename_i hnone
      rw [under_cons_of_isNull (by rw [Operation.fieldOf, hnone]; rfl)]
      exact ih hseen
    · rename_i hnull
      rw [under_cons_of_isNull (by rw [Operation.fieldOf, hnull]; rfl)]
      exact ih hseen
    · rename_i fields hobject
      have hfield : Operation.fieldOf item method = .object fields := by
        rw [Operation.fieldOf, hobject]
        rfl
      rw [under_cons (by rw [hfield]; rfl), hfield]
      let d : DeclaredOperation :=
        ⟨template, method, .object fields, Operation.fieldOf item "parameters"⟩
      cases hop : Operation.build template method fields requestEngine responseEngine
          (Operation.fieldOf item "parameters") with
      | error failure => exact .failed failure d List.mem_cons_self rfl hop
      | ok op =>
        have hd : d.build requestEngine responseEngine = .ok op := hop
        have happend : Admissible (seen.filterMap (·.namedId?))
              ([d] ++ under template item rest) ↔
            Admissible (seen.filterMap (·.namedId?) ++ [d].filterMap (·.id?))
              (under template item rest) :=
          admissible_append_iff (by simp [d, Value.isObject])
        dsimp only [bind, Except.bind]
        cases hsame : sameId? op seen with
        | some first =>
          refine .refused _ rfl rfl fun h => ?_
          have hfirst : Admissible (seen.filterMap (·.namedId?)) [d] := Admissible.left h
          have hfree := (nodup_ids_concat hseen).1 hfirst.ids
          rw [← namedId?_of_build hd, ← sameId?_eq_none_iff, hsame] at hfree
          cases hfree
        | none =>
          have hids : (seen ++ [op]).filterMap (·.namedId?) =
              seen.filterMap (·.namedId?) ++ [d].filterMap (·.id?) := by
            rw [List.filterMap_append, filterMap_namedId?_of_build (.cons hd .nil)]
          have htaken : ((seen ++ [op]).filterMap (·.namedId?)).Nodup := by
            rw [hids, nodup_ids_concat hseen, ← namedId?_of_build hd]
            exact sameId?_eq_none_iff.1 hsame
          have hrest := ih htaken
          rw [hids] at hrest
          exact hrest.after (.cons hd .nil) (fun _ => rfl) happend
    · rename_i v hnull hobject hvalue
      have hfield : Operation.fieldOf item method = v := by
        rw [Operation.fieldOf, hvalue]
        rfl
      have hisNull : v.isNull = false := by
        unfold Value.isNull
        split
        · exact absurd rfl hnull
        · rfl
      have hisObject : v.isObject = false := by
        unfold Value.isObject
        split
        · exact absurd rfl (hobject _)
        · rfl
      rw [under_cons (by rw [hfield, hisNull]), hfield]
      refine .refused _ rfl rfl fun h => ?_
      have hd := h.objects _ List.mem_cons_self
      rw [hisObject] at hd
      cases hd

/-! ### The paths of a document -/

/-- The entries of a paths object can be listed behind operations whose ids are taken: each of them
is an object under a template that starts with a slash, and what they declare is admissible. -/
structure AdmissiblePaths (taken : List String) (paths : Fields) : Prop where
  entries : ∀ entry ∈ paths, ∃ template item,
    entry = (.str template, .object item) ∧ template.startsWith "/" = true
  operations : Admissible taken (paths.flatMap ofEntry)

-- A path item whose operations are built can stand first where its ids are not taken.
theorem admissiblePaths_cons_iff {taken : List String} {paths : Fields}
    (hslash : template.startsWith "/" = true)
    (hobjects : ∀ d ∈ under template item httpMethods, d.value.isObject = true) :
    AdmissiblePaths taken ((.str template, .object item) :: paths) ↔
      AdmissiblePaths (taken ++ (under template item httpMethods).filterMap (·.id?)) paths := by
  constructor
  · intro h
    refine ⟨fun entry hentry => h.entries entry (List.mem_cons_of_mem _ hentry), ?_⟩
    exact (admissible_append_iff hobjects).1 h.operations
  · intro h
    refine ⟨List.forall_mem_cons.2 ⟨⟨template, item, rfl, hslash⟩, h.entries⟩, ?_⟩
    exact (admissible_append_iff hobjects).2 h.operations

theorem answers_buildRoutes (seen : List Operation) (paths : Fields)
    (hseen : (seen.filterMap (·.namedId?)).Nodup) :
    Answers requestEngine responseEngine (List.flatMap (·.operations))
      (AdmissiblePaths (seen.filterMap (·.namedId?)) paths) (paths.flatMap ofEntry)
      (buildRoutes requestEngine responseEngine seen paths) := by
  induction paths generalizing seen with
  | nil => exact .built [] ⟨nofun, nofun, by simpa using hseen⟩ .nil
  | cons entry rest ih =>
    -- An entry that is no path item is refused.
    have hrefused : ∀ e : ContractError, e.kind = .document → e.code = 500 →
        (¬ ∃ template item, entry = (.str template, .object item) ∧
          template.startsWith "/" = true) →
        Answers requestEngine responseEngine (List.flatMap (·.operations))
          (AdmissiblePaths (seen.filterMap (·.namedId?)) (entry :: rest))
          ((entry :: rest).flatMap ofEntry) (.error (.contract e) : Except Failure (List Route)) :=
      fun e kind_eq code_eq hentry =>
        .refused e kind_eq code_eq fun h => hentry (h.entries entry List.mem_cons_self)
    obtain ⟨key, value⟩ := entry
    unfold buildRoutes
    split
    · rename_i template
      cases hslash : template.startsWith "/" with
      | false =>
        refine hrefused _ rfl rfl ?_
        rintro ⟨template', item, heq, hslash'⟩
        cases heq
        rw [hslash] at hslash'
        cases hslash'
      | true =>
        cases value with
        | scalar s => exact hrefused _ rfl rfl nofun
        | list items => exact hrefused _ rfl rfl nofun
        | object item =>
          have hitem : Answers requestEngine responseEngine id
              (Admissible (seen.filterMap (·.namedId?)) (under template item httpMethods))
              (under template item httpMethods)
              (buildOperations template item requestEngine responseEngine seen httpMethods) :=
            answers_buildOperations httpMethods hseen
          change Answers _ _ _ _ _
            (buildOperations template item requestEngine responseEngine seen httpMethods >>=
              fun ops => buildRoutes requestEngine responseEngine (seen ++ ops) rest >>=
                fun routes => .ok (⟨Template.read template, ops⟩ :: routes))
          cases hops : buildOperations template item requestEngine responseEngine seen
              httpMethods with
          | error failure =>
            rw [hops] at hitem
            cases hitem with
            | refused e kind_eq code_eq h =>
              exact .refused e kind_eq code_eq fun hall => h (Admissible.left hall.operations)
            | failed failure d mem isObject fails =>
              exact .failed failure d (List.mem_append_left _ mem) isObject fails
          | ok ops =>
            rw [hops] at hitem
            cases hitem with
            | built ops h operations =>
              have hids : (seen ++ ops).filterMap (·.namedId?) = seen.filterMap (·.namedId?) ++
                  (under template item httpMethods).filterMap (·.id?) := by
                rw [List.filterMap_append]
                exact congrArg _ (filterMap_namedId?_of_build operations)
              have hrest := ih (seen ++ ops) (hids ▸ h.ids)
              rw [hids] at hrest
              exact hrest.after operations (fun _ => rfl)
                (admissiblePaths_cons_iff hslash h.objects)
    · rename_i hkey
      refine hrefused _ rfl rfl ?_
      rintro ⟨template, item, heq, -⟩
      cases heq
      exact hkey template rfl

end PathIndex

/-! ### The document -/

/-- The document has what an index needs: it is an object, and so are its paths if it has any, each
path item, under a template that starts with a slash, and each operation; no id that is not empty is
declared twice. -/
structure WellFormed (document : Value) : Prop where
  isObject : document.isObject = true
  paths : ∀ v, document.member? "paths" = some v → v.isObject = true
  items : ∀ entry ∈ declaredPaths document, ∃ template item,
    entry = (.str template, .object item) ∧ template.startsWith "/" = true
  operations : ∀ d ∈ DeclaredOperation.ofDocument document, d.value.isObject = true
  ids : ((DeclaredOperation.ofDocument document).filterMap (·.id?)).Nodup

namespace PathIndex

open DeclaredOperation

variable {requestEngine responseEngine : Engine (Except Failure)}

-- Where the paths are an object, all depends on what is listed there.
theorem answers_build_of_paths {document : Value} {paths : Fields}
    (hobject : document.isObject = true)
    (hmember : ∀ v, document.member? "paths" = some v → v.isObject = true)
    (hpaths : declaredPaths document = paths) :
    Answers requestEngine responseEngine operations (WellFormed document) (ofDocument document)
      (buildRoutes requestEngine responseEngine [] paths >>= fun routes => .ok ⟨routes⟩) := by
  subst hpaths
  have hroutes : Answers requestEngine responseEngine (List.flatMap (·.operations))
      (AdmissiblePaths [] (declaredPaths document)) (ofDocument document)
      (buildRoutes requestEngine responseEngine [] (declaredPaths document)) :=
    answers_buildRoutes [] (declaredPaths document) List.nodup_nil
  refine hroutes.after .nil (fun _ => rfl) ?_
  constructor
  · intro h
    exact ⟨h.items, h.operations, h.ids⟩
  · intro h
    exact ⟨hobject, hmember, h.entries, h.operations.objects, h.operations.ids⟩

/-- Building the index of any document lists what its operations are built into, if the document is
well formed; otherwise it ends with a document error, or before with the failure of an operation. -/
theorem answers_build (document : Value) :
    Answers requestEngine responseEngine operations (WellFormed document) (ofDocument document)
      (build document requestEngine responseEngine) := by
  cases document with
  | scalar s => exact .refused _ rfl rfl fun h => absurd h.isObject (by simp [Value.isObject])
  | list items => exact .refused _ rfl rfl fun h => absurd h.isObject (by simp [Value.isObject])
  | object fields =>
    have hmember : (Value.object fields).member? "paths" = Value.lookup fields "paths" := rfl
    cases hpaths : Value.lookup fields "paths" with
    | none =>
      rw [hpaths] at hmember
      have hbuild : build (.object fields) requestEngine responseEngine =
          (buildRoutes requestEngine responseEngine [] [] >>= fun routes => .ok ⟨routes⟩) := by
        simp only [build, hpaths]
        rfl
      rw [hbuild]
      apply answers_build_of_paths rfl
      · simp [hmember]
      · rw [declaredPaths, hmember]
    | some v =>
      rw [hpaths] at hmember
      have hrefused : v.isObject = false →
          Answers requestEngine responseEngine operations (WellFormed (.object fields))
            (ofDocument (.object fields)) (.error (.contract .pathsNotObject)) := by
        intro hv
        refine .refused _ rfl rfl fun h => ?_
        rw [h.paths v hmember] at hv
        cases hv
      simp only [build, hpaths, Option.getD_some]
      cases v with
      | scalar s => exact hrefused rfl
      | list items => exact hrefused rfl
      | object paths =>
        apply answers_build_of_paths rfl
        · rw [hmember]
          rintro v ⟨⟩
          rfl
        · rw [declaredPaths, hmember]

end PathIndex

end ApiContract
