import ApiContract.Proofs.Operation.Built
import ApiContract.Proofs.Related
import ApiContract.Proofs.Route.Template
import ApiContract.Proofs.Text.Case
import ApiContract.Proofs.Value.Keys
import ApiContract.Route.Index

/-!
# Declared templates

What a document says about routing: its path templates in order, each with the methods that its path
item declares. The index that is built from the document holds exactly these.
-/

namespace ApiContract

/-- A path template of a document, with the methods that its path item declares. -/
structure Declaration where
  template : String
  methods : List String
  deriving DecidableEq, Repr

namespace Declaration

/-- The methods that a path item declares: those with a value other than null. -/
def methodsOf (item : Fields) : List String :=
  httpMethods.filter fun method => !(Operation.fieldOf item method).isNull

/-- What an entry of the paths object declares. -/
def ofEntry? : Scalar × Value → Option Declaration
  | (.str template, .object item) => some ⟨template, methodsOf item⟩
  | _ => none

/-- The declared templates of a document, in order. -/
def ofDocument (document : Value) : List Declaration :=
  match document.member? "paths" with
  | some (.object paths) => paths.filterMap ofEntry?
  | _ => []

/-- Does the template match a path? -/
def fits (d : Declaration) (path : String) : Bool := (Template.read d.template).fits path

/-- The number of segments of the template without a placeholder. -/
def literalCount (d : Declaration) : Nat := (Template.read d.template).literalCount

-- A well-keyed document declares each template once.
theorem nodup_templates {document : Value} (h : document.wellKeyed = true) :
    ((ofDocument document).map (·.template)).Nodup := by
  rw [List.Nodup, List.pairwise_map]
  unfold ofDocument
  split
  · rename_i paths hpaths
    cases document with
    | object fields =>
      have hdistinct := Fields.pairwise_of_distinct (Value.distinct_of_lookup h hpaths)
      refine List.Pairwise.filterMap ofEntry? ?_ hdistinct
      rintro ⟨k, v⟩ ⟨l, w⟩ hkl d hd e he
      unfold ofEntry? at hd he
      split at hd
      · split at he
        · rcases Option.some.inj hd with rfl
          rcases Option.some.inj he with rfl
          rename_i hk _ _ _ hl
          simp only [Prod.mk.injEq] at hk hl
          rw [hk.1, hl.1] at hkl
          simpa using hkl
        · cases he
      · cases hd
    | scalar s => simp [Value.member?] at hpaths
    | list items => simp [Value.member?] at hpaths
  · exact List.Pairwise.nil

end Declaration

/-! ## Built routes -/

-- The methods of which operations can be declared are in lower case.
theorem lower_of_mem_httpMethods : ∀ method ∈ httpMethods, Text.lower method = method := by
  decide

/-- The route is what a path template and the fields of its path item are built into: an operation
for each declared method, in the order of methods. -/
structure Route.Built (requestEngine responseEngine : Engine (Except Failure)) (template : String)
    (item : Fields) (r : Route) : Prop where
  startsWith_slash : template.startsWith "/" = true
  template_eq : r.template = Template.read template
  operations : List.Forall₂ (fun method op => ∃ fields,
      Value.lookup item method = some (.object fields) ∧
        Operation.Built template method fields requestEngine responseEngine
          (Operation.fieldOf item "parameters") op)
    (Declaration.methodsOf item) r.operations

namespace PathIndex

variable {requestEngine responseEngine : Engine (Except Failure)}

-- Building the operations of a path item builds one for each of its methods that is not null.
theorem buildOperations_eq_ok {template : String} {item : Fields} {seen : List Operation}
    {methods : List String} {ops : List Operation}
    (h : buildOperations template item requestEngine responseEngine seen methods = .ok ops) :
    List.Forall₂ (fun method op => ∃ fields, Value.lookup item method = some (.object fields) ∧
        Operation.Built template method fields requestEngine responseEngine
          (Operation.fieldOf item "parameters") op)
      (methods.filter fun method => !(Operation.fieldOf item method).isNull) ops := by
  induction methods generalizing seen ops with
  | nil =>
    rcases Except.ok.inj h with rfl
    exact List.Forall₂.nil
  | cons method rest ih =>
    unfold buildOperations at h
    split at h
    · rename_i hnone
      simpa [Operation.fieldOf, hnone, Value.isNull] using ih h
    · rename_i hnull
      simpa [Operation.fieldOf, hnull, Value.isNull] using ih h
    · rename_i fields hobject
      simp only [Result.bind_eq_ok_iff] at h
      rcases h with ⟨op, hop, h⟩
      split at h
      · cases h
      · rcases Result.bind_eq_ok_iff.1 h with ⟨ops', hops', h⟩
        rcases Except.ok.inj h with rfl
        have htail := List.Forall₂.cons ⟨fields, hobject, Operation.built_of_build hop⟩ (ih hops')
        simpa [Operation.fieldOf, hobject, Value.isNull] using htail
    · cases h

-- Building the routes of a document builds one for each of its paths.
theorem buildRoutes_eq_ok {seen : List Operation} {paths : Fields} {routes : List Route}
    (h : buildRoutes requestEngine responseEngine seen paths = .ok routes) :
    List.Forall₂ (fun entry r => ∃ template item, entry = (.str template, .object item) ∧
      Route.Built requestEngine responseEngine template item r) paths routes := by
  induction paths generalizing seen routes with
  | nil =>
    rcases Except.ok.inj h with rfl
    exact List.Forall₂.nil
  | cons entry rest ih =>
    rcases entry with ⟨key, item⟩
    unfold buildRoutes at h
    split at h
    · rename_i template
      cases hslash : template.startsWith "/" with
      | false =>
        simp only [hslash, Bool.not_false, if_true] at h
        cases h
      | true =>
        simp only [hslash, Bool.not_true, Bool.false_eq_true, if_false] at h
        split at h
        · rename_i fields
          simp only [Result.bind_eq_ok_iff] at h
          rcases h with ⟨ops, hops, routes', hroutes', h⟩
          rcases Except.ok.inj h with rfl
          have hbuilt : Route.Built requestEngine responseEngine template fields
              ⟨Template.read template, ops⟩ := ⟨hslash, rfl, buildOperations_eq_ok hops⟩
          exact List.Forall₂.cons ⟨template, fields, rfl, hbuilt⟩ (ih hroutes')
        · cases h
    · cases h

-- A document whose index is built has paths, and a route for each.
theorem build_eq_ok {document : Value} {index : PathIndex}
    (h : build document requestEngine responseEngine = .ok index) :
    ∃ paths, (document.member? "paths").getD (.object []) = .object paths ∧
      List.Forall₂ (fun entry r => ∃ template item, entry = (.str template, .object item) ∧
        Route.Built requestEngine responseEngine template item r) paths index.routes := by
  unfold build at h
  split at h
  · split at h
    · rename_i paths hpaths
      simp only [Result.bind_eq_ok_iff] at h
      rcases h with ⟨routes, hroutes, h⟩
      rcases Except.ok.inj h with rfl
      exact ⟨paths, hpaths, buildRoutes_eq_ok hroutes⟩
    · cases h
  · cases h

end PathIndex

/-! ## What the index of a document holds -/

variable {requestEngine responseEngine : Engine (Except Failure)}

/-- What a route declares. -/
def Route.declaration (r : Route) : Declaration := ⟨r.template.text, r.operations.map (·.method)⟩

namespace Route.Built

variable {template : String} {item : Fields} {r : Route}

-- The methods of the operations of a built route are those that its path item declares.
theorem methods_eq (h : Route.Built requestEngine responseEngine template item r) :
    r.operations.map (·.method) = Declaration.methodsOf item := by
  have hlower : (Declaration.methodsOf item).map Text.lower = r.operations.map (·.method) := by
    refine Related.map_eq h.operations ?_
    rintro method op ⟨_, -, hop⟩
    exact hop.method_eq.symm
  have hself : (Declaration.methodsOf item).map Text.lower = Declaration.methodsOf item := by
    conv_rhs => rw [← List.map_id (Declaration.methodsOf item)]
    exact List.map_congr_left fun method hm =>
      lower_of_mem_httpMethods method (List.mem_filter.1 hm).1
  rw [← hlower, hself]

-- A built route declares what its entry does.
theorem declaration_eq (h : Route.Built requestEngine responseEngine template item r) :
    r.declaration = ⟨template, Declaration.methodsOf item⟩ := by
  rw [Route.declaration, h.methods_eq, h.template_eq, Template.text_read]

-- A path template and a path item are built into one route only.
theorem unique {r' : Route} (h : Route.Built requestEngine responseEngine template item r)
    (h' : Route.Built requestEngine responseEngine template item r') : r = r' := by
  rcases r with ⟨t, ops⟩
  rcases r' with ⟨t', ops'⟩
  have htemplates : t = t' := h.template_eq.trans h'.template_eq.symm
  have hops : ops = ops' := by
    refine List.right_unique_forall₂' ?_ h.operations h'.operations
    rintro method op op' ⟨fields, hfields, hop⟩ ⟨fields', hfields', hop'⟩
    obtain rfl : fields = fields' :=
      Value.object.inj (Option.some.inj (hfields.symm.trans hfields'))
    exact hop.unique hop'
  rw [htemplates, hops]

-- The operations of a built route are at its template.
theorem path_eq (h : Route.Built requestEngine responseEngine template item r) :
    ∀ op ∈ r.operations, op.path = template := by
  intro op hop
  rcases Related.exists_of_mem_right h.operations hop with ⟨method, -, fields, -, hbuilt⟩
  exact hbuilt.path_eq

end Route.Built

/-- The routes of an index that is built from a document. -/
structure PathIndex.Holds (index : PathIndex) (document : Value) : Prop where
  /-- They declare what the document does, in its order. -/
  declarations : index.routes.map Route.declaration = Declaration.ofDocument document
  template_eq : ∀ r ∈ index.routes, r.template = Template.read r.template.text
  path_eq : ∀ r ∈ index.routes, ∀ op ∈ r.operations, op.path = r.template.text

-- The index that is built from a document holds its declarations.
theorem PathIndex.holds_of_build {document : Value} {index : PathIndex}
    (h : build document requestEngine responseEngine = .ok index) : index.Holds document := by
  rcases build_eq_ok h with ⟨paths, hpaths, hroutes⟩
  have hbuilt : ∀ r ∈ index.routes, ∃ template item,
      Route.Built requestEngine responseEngine template item r := by
    intro r hr
    rcases Related.exists_of_mem_right hroutes hr with ⟨_, -, template, item, -, hb⟩
    exact ⟨template, item, hb⟩
  have hentries : paths.filterMap Declaration.ofEntry? = index.routes.map Route.declaration := by
    clear hpaths hbuilt
    generalize index.routes = routes at hroutes
    induction hroutes with
    | nil => rfl
    | cons hb _ ih =>
      rcases hb with ⟨template, item, rfl, hb⟩
      have hentry : Declaration.ofEntry? (.str template, .object item) =
          some ⟨template, Declaration.methodsOf item⟩ := rfl
      rw [List.filterMap_cons_some hentry, List.map_cons, hb.declaration_eq, ih]
  have hdocument : Declaration.ofDocument document = paths.filterMap Declaration.ofEntry? := by
    unfold Declaration.ofDocument
    cases hmember : document.member? "paths" with
    | none =>
      rw [hmember, Option.getD_none, Value.object.injEq] at hpaths
      rw [← hpaths, List.filterMap_nil]
    | some v =>
      rw [hmember, Option.getD_some] at hpaths
      rw [hpaths]
  refine ⟨by rw [hdocument, hentries], fun r hr => ?_, fun r hr op hop => ?_⟩
  · rcases hbuilt r hr with ⟨template, item, hb⟩
    rw [hb.template_eq, Template.text_read]
  · rcases hbuilt r hr with ⟨template, item, hb⟩
    rw [hb.path_eq op hop, hb.template_eq, Template.text_read]

end ApiContract
