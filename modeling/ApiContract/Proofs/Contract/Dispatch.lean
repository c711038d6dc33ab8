import ApiContract.Proofs.Contract.Local
import ApiContract.Proofs.Operation.Axis
import ApiContract.Proofs.Route.Listing

/-!
# Dispatch by id and by path

An operation with an id is reached by its id as well as by path and method. Both ways lead to the same
checks: a request or a response is accepted either way or fails either way with the same failure.
-/

namespace ApiContract

-- What an operation was looked up by makes a difference only to the id that is reported.
theorem Operation.matches_validateRequest (op : Operation) (request : Fields)
    (lookedUp other : Option String) :
    Result.Matches Eq (fun id id' =>
        id = op.reportedId request lookedUp ∧ id' = op.reportedId request other)
      (op.validateRequest request lookedUp) (op.validateRequest request other) := by
  rw [validateRequest_eq, validateRequest_eq]
  cases RequestAxis.all.forM (op.requestAnswer request) with
  | error failure => exact .error rfl
  | ok _ => exact .ok ⟨rfl, rfl⟩

namespace Contract

/-- The id that a request names, if it is not empty. -/
def requestedId? (request : Value) : Option String :=
  ((request.member? "operationId").bind Value.string?).filter (!·.isEmpty)

variable {op : Operation} {id : String}

-- A request that was looked up by an id is reported under it.
theorem reportedId_of_lookedUp {request : Fields} (hne : id ≠ "") :
    op.reportedId request (some id) = some id := by
  have hkept : (some id).filter (!·.isEmpty) = some id := by
    rw [Option.filter_eq_some_iff]
    simpa using hne
  rw [Operation.reportedId, hkept]

-- Otherwise the id that it names comes before the one of the operation.
theorem reportedId_of_path {request : Fields} (hid : op.id = some id) :
    op.reportedId request none = some ((requestedId? (.object request)).getD id) := by
  have hnone : (none : Option String).filter (!·.isEmpty) = none := rfl
  rw [Operation.reportedId, hnone, requestedId?, Value.member?]
  dsimp only
  split
  · rename_i found hfound
    rw [hfound, Option.getD_some]
  · rename_i hfound
    rw [hfound, hid, Option.getD_none]

-- A request of any shape is checked alike, whatever its operation was looked up by.
theorem matches_requestTo (hid : op.id = some id) (hne : id ≠ "") (request : Value) :
    Result.Matches Eq (fun byId byPath =>
        byId = some id ∧ byPath = some ((requestedId? request).getD id))
      (requestTo op request (some id)) (requestTo op request none) := by
  cases request with
  | scalar s => exact .error rfl
  | list items => exact .error rfl
  | object fields =>
    have h := op.matches_validateRequest fields (some id) none
    rw [reportedId_of_lookedUp hne, reportedId_of_path hid] at h
    exact h

variable {engine : EngineOptions → Option String → Engine (Except Failure)}
  {options : ContractOptions} {document : Value} {c : Contract}

/-- Dispatch by id and by path agree. An operation with an id that is not empty is reached at its own
template in any letter case of its method. Wherever it is reached by path and method, a request fails
with the same failure as by the id, or it succeeds both times: by the id it is reported under that
id, by path under the one that the request names, if it names one. A response has the same outcome
both times. -/
theorem dispatch_agrees (hkeyed : document.wellKeyed = true)
    (hc : build engine options document = .ok c) (hop : op ∈ c.index.operations)
    (hid : op.id = some id) (hne : id ≠ "") :
    (∀ method, Text.lower method = op.method → c.index.lookup op.path method = .ok op) ∧
    ∀ path method, c.index.lookup path method = .ok op →
      (∀ request, Result.Matches Eq (fun byId byPath =>
          byId = some id ∧ byPath = some ((requestedId? request).getD id))
        (c.validateRequestById (.str id) request)
        (c.validateRequestByPath (.str path) (.str method) request)) ∧
      ∀ status response, c.validateResponse (.str path) (.str method) status response =
        c.validateResponseById (.str id) status response := by
  have hindex := index_of_build hc
  have hlookupId : c.index.lookupIdValue (.str id) = .ok op := by
    have hfound : c.index.lookupId id = .ok op :=
      (PathIndex.lookupId_eq_ok_iff hindex).2 ⟨hop, Operation.namedId?_eq_some_iff.2 ⟨hid, hne⟩⟩
    rw [PathIndex.lookupIdValue, hfound]
    rfl
  refine ⟨fun method => PathIndex.lookup_self hkeyed hindex hop, fun path method hlookup => ?_⟩
  have hlookupPath : c.index.lookupValues (.str path) (.str method) = .ok op := by
    have hvalues : c.index.lookupValues (.str path) (.str method) =
      (c.index.lookup path method).mapError Failure.contract := rfl
    rw [hvalues, hlookup]
    rfl
  constructor
  · intro request
    rw [validateRequestById, validateRequestByPath, hlookupId, hlookupPath]
    exact matches_requestTo hid hne request
  · intro status response
    rw [validateResponse, validateResponseById, hlookupId, hlookupPath]

-- A response for one of the pets is checked alike by path and by the id of its operation.
theorem dispatch_agrees_on_pets : ∃ (c : Contract) (op : Operation),
    build Engine.standard {} PathIndex.petPaths = .ok c ∧ op ∈ c.index.operations ∧
      op.path = "/pets/\x7bid\x7d" ∧ op.id = some "show" ∧ c.index.lookup op.path "GET" = .ok op ∧
      ∀ status response, c.validateResponse (.str op.path) (.str "GET") status response =
        c.validateResponseById (.str "show") status response := by
  obtain ⟨c, hc⟩ : ∃ c, build Engine.standard {} PathIndex.petPaths = .ok c :=
    Result.exists_of_isOk (by decide +kernel)
  obtain ⟨op, hop, hbuilt, hpath, hmethod⟩ :=
    Related.exists_of_mem_left (PathIndex.operations_in_place (index_of_build hc))
      (List.mem_of_getElem? (i := 2) rfl)
  have hid : op.id = some "show" := DeclaredOperation.id_of_build hbuilt
  have h := dispatch_agrees (by decide) hc hop hid (by decide)
  have hlookup : c.index.lookup op.path "GET" = .ok op := h.1 "GET" (by rw [hmethod]; decide)
  exact ⟨c, op, hc, hop, hpath, hid, hlookup, (h.2 op.path "GET" hlookup).2⟩

end Contract

end ApiContract
