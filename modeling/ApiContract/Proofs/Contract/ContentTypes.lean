import ApiContract.Proofs.Body.Entries
import ApiContract.Proofs.Contract.Found

/-!
# Listing content types

The content types at a path for a method are the patterns that the operation found there declares for
the bodies of its requests. None are listed where no operation is found, whatever the reason.
-/

namespace ApiContract

namespace Declaration

/-- No template matches the path. -/
def NoneFits (ds : List Declaration) (path : String) : Prop := ∀ d ∈ ds, d.fits path = false

/-- Of the templates that match the path one has the most literal segments, and none declares the
method. -/
def NoneDeclares (ds : List Declaration) (path method : String) : Prop :=
  (∃ d ∈ ds, d.fits path = true ∧
    ∀ e ∈ ds, e ≠ d → e.fits path = true → e.literalCount < d.literalCount) ∧
  ∀ d ∈ ds, d.fits path = true → method ∉ d.methods

/-- The path is no template that declares the method, and two of the templates that compete for it
lead. -/
def Tied (ds : List Declaration) (path method : String) : Prop :=
  (¬ ∃ d ∈ ds, d.template = path ∧ method ∈ d.methods) ∧
  ∃ d e, d ≠ e ∧ Leads ds path method d ∧ Leads ds path method e

end Declaration

namespace Routed

variable {ds : List Declaration} {path method : String} {answer : Except ContractError Operation}

-- A lookup fails in one of three ways, all of which are failures of looking up.
theorem isA_structuralLookup {e : ContractError} (h : Routed ds path method (.error e)) :
    e.kind.isA .structuralLookup = true := by
  cases h with
  | noMatch => rfl
  | undeclared => rfl
  | ambiguous => rfl

theorem exists_error_iff (h : Routed ds path method answer) :
    (∃ e, answer = .error e) ↔ Declaration.NoneFits ds path ∨
      Declaration.NoneDeclares ds path method ∨ Declaration.Tied ds path method := by
  rw [Declaration.NoneFits, Declaration.NoneDeclares, Declaration.Tied, ← h.code_404_iff,
    ← h.code_405_iff, ← h.ambiguous_iff]
  constructor
  · rintro ⟨e, rfl⟩
    cases h with
    | noMatch => exact Or.inl ⟨_, rfl, rfl⟩
    | undeclared => exact Or.inr (Or.inl ⟨_, rfl, rfl⟩)
    | ambiguous => exact Or.inr (Or.inr ⟨_, rfl, rfl, rfl⟩)
  · rintro (⟨e, he, -⟩ | ⟨e, he, -⟩ | ⟨e, he, -⟩) <;> exact ⟨e, he⟩

end Routed

/-! ## Declared patterns -/

namespace DeclaredOperation

/-- The patterns that the operation declares for the bodies of its requests, in order: the texts among
the keys of the content of its request body. -/
def requestPatterns (d : DeclaredOperation) : List String :=
  match d.value.member? "requestBody" with
  | some (.object body) =>
    (Operation.fieldOf body "content").fields.filterMap fun field =>
      (Value.scalar field.1).string?
  | _ => []

-- An operation that is built has the patterns that are declared.
theorem requestContentTypes_of_build {requestEngine responseEngine : Engine (Except Failure)}
    {d : DeclaredOperation} {op : Operation} (h : d.build requestEngine responseEngine = .ok op) :
    op.requestContentTypes = d.requestPatterns := by
  obtain ⟨fields, hvalue, hbuilt⟩ := built_of_build h
  have hbody := hbuilt.requestBody
  rw [requestPatterns, hvalue, Value.member?, Operation.requestContentTypes]
  generalize Value.lookup fields "requestBody" = declared at hbody
  rcases declared with _ | (_ | _ | body)
  case some.object =>
    obtain ⟨validator, hvalidator, hbody⟩ := Result.bind_eq_ok_iff.1 hbody
    rw [← Except.ok.inj hbody]
    exact (BodyValidator.ofEntries_of_build hvalidator).contentTypes_eq
  all_goals rw [← Except.ok.inj hbody]

end DeclaredOperation

namespace Contract

variable {engine : EngineOptions → Option String → Engine (Except Failure)}
  {options : ContractOptions} {document : Value} {c : Contract} {path method : String}

/-! ## What is listed -/

theorem requestContentTypes_of_lookup {op : Operation}
    (h : c.index.lookup path method = .ok op) :
    c.requestContentTypes (.str path) (.str method) = .ok op.requestContentTypes := by
  rw [requestContentTypes, PathIndex.lookupValues_str, h]
  rfl

-- A lookup that fails is answered by the empty list, whichever way it fails.
theorem requestContentTypes_of_error (hkeyed : document.wellKeyed = true)
    (hc : build engine options document = .ok c) {e : ContractError}
    (h : c.index.lookup path method = .error e) :
    c.requestContentTypes (.str path) (.str method) = .ok [] := by
  have hrouted := (PathIndex.holds_of_build (index_of_build hc)).routed_lookup hkeyed path method
  rw [h] at hrouted
  rw [requestContentTypes, PathIndex.lookupValues_str, h]
  exact if_pos hrouted.isA_structuralLookup

/-- The operation that a lookup finds, as the document declares it. -/
def Finds (c : Contract) (document : Value) (path method : String) (d : DeclaredOperation) : Prop :=
  d ∈ DeclaredOperation.ofDocument document ∧ ∃ op, c.index.lookup path method = .ok op ∧
    op.path = d.template ∧ op.method = d.method

-- What a lookup finds is built from a declared operation with the same template and method.
theorem exists_built_of_lookup (hc : build engine options document = .ok c) {op : Operation}
    (h : c.index.lookup path method = .ok op) :
    ∃ d ∈ DeclaredOperation.ofDocument document,
      (∃ requestEngine responseEngine, d.build requestEngine responseEngine = .ok op) ∧
        op.path = d.template ∧ op.method = d.method := by
  have hanswer := c.index.answer_lookup path method
  rw [h] at hanswer
  obtain ⟨d, hd, hbuilt, hpath, hmethod⟩ := Related.exists_of_mem_right
    (PathIndex.operations_in_place (index_of_build hc)) (LookupAnswer.mem hanswer)
  exact ⟨d, hd, ⟨_, _, hbuilt⟩, hpath, hmethod⟩

theorem exists_finds (hc : build engine options document = .ok c) {op : Operation}
    (h : c.index.lookup path method = .ok op) : ∃ d, c.Finds document path method d := by
  obtain ⟨d, hd, -, hpath, hmethod⟩ := exists_built_of_lookup hc h
  exact ⟨d, hd, op, h, hpath, hmethod⟩

-- Its patterns are listed: no other operation is declared for the same template and method.
theorem Finds.lists (hkeyed : document.wellKeyed = true)
    (hc : build engine options document = .ok c) {d : DeclaredOperation}
    (h : c.Finds document path method d) :
    c.requestContentTypes (.str path) (.str method) = .ok d.requestPatterns := by
  obtain ⟨hd, op, hop, hpath, hmethod⟩ := h
  obtain ⟨e, he, ⟨_, _, hbuilt⟩, hpath', hmethod'⟩ := exists_built_of_lookup hc hop
  have hsame : e = d :=
    List.inj_on_of_nodup_map (DeclaredOperation.nodup_ofDocument hkeyed) he hd
      (Prod.ext (hpath'.symm.trans hpath) (hmethod'.symm.trans hmethod))
  rw [requestContentTypes_of_lookup hop, DeclaredOperation.requestContentTypes_of_build hbuilt, hsame]

-- Nothing is listed where nothing is found, or where what is found has no patterns.
theorem lists_nothing_iff (hkeyed : document.wellKeyed = true)
    (hc : build engine options document = .ok c) (path method : String) :
    c.requestContentTypes (.str path) (.str method) = .ok [] ↔
      (∃ e, c.index.lookup path method = .error e) ∨
        ∃ d, c.Finds document path method d ∧ d.requestPatterns = [] := by
  constructor
  · intro hnothing
    cases hlookup : c.index.lookup path method with
    | error e => exact Or.inl ⟨e, rfl⟩
    | ok op =>
      obtain ⟨d, hd⟩ := exists_finds hc hlookup
      rw [hd.lists hkeyed hc] at hnothing
      exact Or.inr ⟨d, hd, Except.ok.inj hnothing⟩
  · rintro (⟨e, he⟩ | ⟨d, hd, hpatterns⟩)
    · exact requestContentTypes_of_error hkeyed hc he
    · rw [hd.lists hkeyed hc, hpatterns]

/-- What is listed at a path for a method. Where a lookup finds an operation, these are the patterns
that the operation declares, in order; where it fails, whichever way, nothing is listed. So nothing is
listed exactly when no template matches the path, when none of those that match declares the method,
when several templates tie for the path, or when the operation that is found declares no patterns. -/
theorem lists_declared_patterns (hkeyed : document.wellKeyed = true)
    (hc : build engine options document = .ok c) (path method : String) :
    let ds := Declaration.ofDocument document
    (∀ op, c.index.lookup path method = .ok op → ∃ d, c.Finds document path method d ∧
      c.requestContentTypes (.str path) (.str method) = .ok d.requestPatterns) ∧
    (∀ e, c.index.lookup path method = .error e →
      c.requestContentTypes (.str path) (.str method) = .ok []) ∧
    (c.requestContentTypes (.str path) (.str method) = .ok [] ↔
      (Declaration.NoneFits ds path ∨ Declaration.NoneDeclares ds path (Text.lower method) ∨
        Declaration.Tied ds path (Text.lower method)) ∨
      ∃ d, c.Finds document path method d ∧ d.requestPatterns = []) := by
  intro ds
  have hrouted := (PathIndex.holds_of_build (index_of_build hc)).routed_lookup hkeyed path method
  refine ⟨fun op hop => ?_, fun e he => requestContentTypes_of_error hkeyed hc he, ?_⟩
  · obtain ⟨d, hd⟩ := exists_finds hc hop
    exact ⟨d, hd, hd.lists hkeyed hc⟩
  · rw [← hrouted.exists_error_iff]
    exact lists_nothing_iff hkeyed hc path method

/-- Two templates, each with a placeholder where the other one has text; both take bodies. -/
def crossingNotes : Value :=
  .object [(.str "paths", .object
    [(.str "/a/\x7bx\x7d", .object [(.str "post", .object
        [(.str "requestBody", .object
          [(.str "content", .object [(.str "text/plain", .object [])])])])]),
      (.str "/\x7by\x7d/b", .object [(.str "post", .object
        [(.str "requestBody", .object
          [(.str "content", .object [(.str "application/json", .object [])])])])])])]

-- Off the crossing, the patterns of the only template that matches are listed.
theorem lists_patterns_of_crossingNotes : crossingNotes.wellKeyed = true ∧ ∃ c,
    build Engine.standard {} crossingNotes = .ok c ∧
      (∃ op, c.index.lookup "/a/c" "POST" = .ok op) ∧ ∃ d,
      c.Finds crossingNotes "/a/c" "POST" d ∧
        c.requestContentTypes (.str "/a/c") (.str "POST") = .ok d.requestPatterns := by
  have hkeyed : crossingNotes.wellKeyed = true := by decide
  obtain ⟨c, hc⟩ : ∃ c, build Engine.standard {} crossingNotes = .ok c :=
    Result.exists_of_isOk (by decide +kernel)
  have hfound : ((build Engine.standard {} crossingNotes).toOption.any fun c =>
      (c.index.lookup "/a/c" "POST").isOk) = true := by decide +kernel
  rw [hc] at hfound
  obtain ⟨op, hop⟩ := Result.exists_of_isOk hfound
  exact ⟨hkeyed, c, hc, ⟨op, hop⟩, (lists_declared_patterns hkeyed hc "/a/c" "POST").1 op hop⟩

-- At the crossing nothing is listed, although a template matches the path and every operation has
-- patterns: that the lookup is ambiguous stays hidden.
theorem lists_nothing_at_crossing : ∃ c, build Engine.standard {} crossingNotes = .ok c ∧
    (∃ e, c.index.lookup "/a/b" "post" = .error e ∧ e.kind = .ambiguousPath ∧ e.code = 409) ∧
    (∀ op ∈ c.index.operations, op.method = "post" ∧ op.requestContentTypes ≠ []) ∧
    c.requestContentTypes (.str "/a/b") (.str "post") = .ok [] := by
  obtain ⟨c, hc⟩ : ∃ c, build Engine.standard {} crossingNotes = .ok c :=
    Result.exists_of_isOk (by decide +kernel)
  have htied : ((build Engine.standard {} crossingNotes).toOption.any fun c =>
      match c.index.lookup "/a/b" "post" with
      | .ok _ => false
      | .error e => e.kind == .ambiguousPath && e.code == 409) = true := by decide +kernel
  have hpatterns : ((build Engine.standard {} crossingNotes).toOption.any fun c =>
      c.index.operations.all fun op =>
        op.method == "post" && !op.requestContentTypes.isEmpty) = true := by decide +kernel
  rw [hc] at htied hpatterns
  obtain ⟨e, he, hkind, hcode⟩ : ∃ e, c.index.lookup "/a/b" "post" = .error e ∧
      e.kind = .ambiguousPath ∧ e.code = 409 := by
    cases hlookup : c.index.lookup "/a/b" "post" with
    | ok op => simp [Except.toOption, hlookup] at htied
    | error e => exact ⟨e, rfl, by simpa [Except.toOption, hlookup] using htied⟩
  refine ⟨c, hc, ⟨e, he, hkind, hcode⟩, ?_, requestContentTypes_of_error (by decide) hc he⟩
  simpa [Except.toOption] using hpatterns

end Contract

end ApiContract
