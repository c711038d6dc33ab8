import ApiContract.Contract
import ApiContract.Proofs.Result
import ApiContract.Proofs.Route.Lookup
import Mathlib.Data.List.Perm.Basic

/-!
# Routing and validation are local

What a contract does at a path is settled by the entries of the document whose templates match the
path. Neither the order in which a document declares its paths nor what it declares of others makes a
difference, except that an ambiguous path names its templates in the order of the document.
-/

namespace ApiContract

/-! ## The order of routes -/

namespace PathIndex

variable {routes routes' : List Route}

theorem mostLiteral_perm (h : routes.Perm routes') : mostLiteral routes = mostLiteral routes' := by
  have hle : ∀ {rs ss : List Route}, rs.Perm ss → mostLiteral rs ≤ mostLiteral ss := by
    intro rs ss hperm
    refine foldl_max_le_iff.2 ⟨Nat.zero_le _, fun n hn => ?_⟩
    have hmem : n ∈ ss.map (·.template.literalCount) := (hperm.map _).mem_iff.1 hn
    exact (foldl_max_le_iff.1 (Nat.le_refl (mostLiteral ss))).2 n hmem
  exact Nat.le_antisymm (hle h) (hle h.symm)

theorem preferred_perm (h : routes.Perm routes') (method : Option String) :
    (preferred method routes).Perm (preferred method routes') := by
  cases method with
  | none => exact h
  | some method =>
    have hdeclaring := h.filter (·.declares (Text.lower method))
    unfold preferred
    dsimp only
    rw [hdeclaring.isEmpty_eq]
    split
    · exact h
    · exact hdeclaring

theorem topTier_perm (h : routes.Perm routes') : (topTier routes).Perm (topTier routes') := by
  rw [topTier, topTier, mostLiteral_perm h]
  exact h.filter _

end PathIndex

/-! ## Answers that differ in an order -/

/-- The same error, but for the order in which an ambiguous path names its templates. -/
inductive ContractError.Reordered : ContractError → ContractError → Prop
  | same (e : ContractError) : Reordered e e
  | ambiguous (path : String) {templates others : List String} (h : templates.Perm others) :
    Reordered (.ambiguousPath path templates) (.ambiguousPath path others)

/-- The same failure, but for the order in which an ambiguous path names its templates. -/
inductive Failure.Reordered : Failure → Failure → Prop
  | same (failure : Failure) : Reordered failure failure
  | contract {e other : ContractError} (h : e.Reordered other) :
    Reordered (.contract e) (.contract other)

/-- The same result or the same failure, but for the order in which an ambiguous path names its
templates. -/
abbrev SameAnswer {α : Type} : Except Failure α → Except Failure α → Prop :=
  Result.Matches Failure.Reordered Eq

-- Every answer is the same as itself.
theorem SameAnswer.refl {α : Type} (x : Except Failure α) : SameAnswer x x := by
  cases x with
  | ok a => exact .ok rfl
  | error failure => exact .error (.same failure)

-- The same is made of the same answers.
theorem SameAnswer.bind {α β : Type} {x y : Except Failure α} {f : α → Except Failure β}
    (h : SameAnswer x y) : SameAnswer (x >>= f) (y >>= f) := by
  refine Result.Matches.bind h ?_
  rintro a _ rfl
  exact SameAnswer.refl (f a)

/-! ## Two indices with the same routes for a path -/

namespace PathIndex

/-- The indices have the same routes for a path, in any order, and if one of these is the path's own
template, it is the same route for both. -/
structure AgreeAt (index index' : PathIndex) (path : String) : Prop where
  route?_eq : index.route? path = index'.route? path
  candidates : (index.candidates path).Perm (index'.candidates path)

variable {index index' : PathIndex} {path : String}

-- Which route serves the path does not depend on the order of those that match it.
theorem AgreeAt.matches_serve (h : index.AgreeAt index' path) (method : Option String) :
    Result.Matches ContractError.Reordered Eq (index.serve path method)
      (index'.serve path method) := by
  have htier := topTier_perm (preferred_perm h.candidates method)
  unfold serve
  generalize topTier (preferred method (index.candidates path)) = tier at htier
  generalize topTier (preferred method (index'.candidates path)) = tier' at htier
  cases tier with
  | nil =>
    rw [htier.symm.eq_nil]
    exact .error (.same _)
  | cons r rest =>
    cases rest with
    | nil =>
      rw [List.perm_singleton.1 htier.symm]
      exact .ok rfl
    | cons s rest =>
      have hlength := htier.length_eq
      cases tier' with
      | nil => simp at hlength
      | cons r' rest' =>
        cases rest' with
        | nil => simp at hlength
        | cons s' rest' => exact .error (.ambiguous path (htier.map _))

theorem AgreeAt.matches_lookup (h : index.AgreeAt index' path) (method : String) :
    Result.Matches ContractError.Reordered Eq (index.lookup path method)
      (index'.lookup path method) := by
  unfold lookup
  dsimp only
  rw [h.route?_eq]
  split
  · exact .ok rfl
  · refine (h.matches_serve _).bind ?_
    rintro r _ rfl
    split
    · exact .ok rfl
    · exact .error (.same _)

/-! ### Methods of any shape -/

theorem AgreeAt.same_lookupValues (h : index.AgreeAt index' path) (method : Value) :
    SameAnswer (index.lookupValues (.str path) method)
      (index'.lookupValues (.str path) method) := by
  have hlookup : ∀ method, SameAnswer ((index.lookup path method).mapError Failure.contract)
      ((index'.lookup path method).mapError Failure.contract) := fun method =>
    (h.matches_lookup method).mapError fun _ _ he => .contract he
  unfold lookupValues
  cases methodOf method with
  | error failure => exact .error (.same failure)
  | ok method => exact hlookup method

theorem AgreeAt.same_serveValues (h : index.AgreeAt index' path) (method : Value) :
    SameAnswer (index.serveValues (.str path) method) (index'.serveValues (.str path) method) := by
  have hserve : ∀ asked, SameAnswer
      ((index.serve path asked).mapError Failure.contract >>= fun r => .ok r.template.text)
      ((index'.serve path asked).mapError Failure.contract >>= fun r => .ok r.template.text) :=
    fun asked => SameAnswer.bind ((h.matches_serve asked).mapError fun _ _ he => .contract he)
  unfold serveValues
  refine Result.Matches.bind (R := fun p q => p = path ∧ q = path) (.ok ⟨rfl, rfl⟩) ?_
  rintro p q ⟨hp, hq⟩
  rw [hp, hq, h.candidates.isEmpty_eq]
  by_cases hempty : (index'.candidates path).isEmpty = true
  · rw [if_pos hempty, if_pos hempty]
    exact SameAnswer.refl (.error (.contract .noPathMatch))
  · rw [if_neg hempty, if_neg hempty]
    dsimp only
    split
    · exact hserve none
    · cases methodOf method with
      | error failure => exact .error (.same failure)
      | ok asked => exact hserve (some asked)

end PathIndex

/-! ## The entries of a document at a path -/

/-- Does an entry of the paths object stand under a template that matches the path? -/
def entryFits (path : String) : Scalar × Value → Bool
  | (.str template, _) => (Template.read template).fits path
  | _ => false

/-- The entries of a document's paths object whose templates match the path. -/
def entriesAt (document : Value) (path : String) : Fields :=
  match document.member? "paths" with
  | some (.object paths) => paths.filter (entryFits path)
  | _ => []

namespace PathIndex

variable {requestEngine responseEngine : Engine (Except Failure)} {index index' : PathIndex}
  {document document' : Value} {path : String} {r : Route}

-- The routes that match a path are what the entries that match it are built into.
theorem mem_candidates_iff
    (h : build document requestEngine responseEngine = .ok index) :
    r ∈ index.candidates path ↔ ∃ template item,
      (.str template, .object item) ∈ entriesAt document path ∧
        Route.Built requestEngine responseEngine template item r := by
  rcases build_eq_ok h with ⟨paths, hpaths, hroutes⟩
  have hentries : entriesAt document path = paths.filter (entryFits path) := by
    unfold entriesAt
    cases hmember : document.member? "paths" with
    | none =>
      rw [hmember, Option.getD_none, Value.object.injEq] at hpaths
      rw [← hpaths, List.filter_nil]
    | some v =>
      rw [hmember, Option.getD_some] at hpaths
      rw [hpaths]
  rw [hentries, candidates, List.mem_filter]
  constructor
  · rintro ⟨hr, hfits⟩
    rcases Related.exists_of_mem_right hroutes hr with ⟨_, hentry, template, item, rfl, hbuilt⟩
    refine ⟨template, item, List.mem_filter.2 ⟨hentry, ?_⟩, hbuilt⟩
    rw [entryFits, ← hbuilt.template_eq, hfits]
  · rintro ⟨template, item, hentry, hbuilt⟩
    rcases List.mem_filter.1 hentry with ⟨hentry, hfits⟩
    rcases Related.exists_of_mem_left hroutes hentry with ⟨s, hs, _, _, heq, hs'⟩
    obtain ⟨htemplate, hitem⟩ := Prod.mk.inj heq
    obtain rfl := Scalar.str.inj htemplate
    obtain rfl := Value.object.inj hitem
    obtain rfl := hbuilt.unique hs'
    refine ⟨hs, ?_⟩
    rw [hbuilt.template_eq]
    exact hfits

-- Documents with the same entries at a path have the same routes for it.
theorem agreeAt_of_build (hkeyed : document.wellKeyed = true)
    (hkeyed' : document'.wellKeyed = true)
    (h : build document requestEngine responseEngine = .ok index)
    (h' : build document' requestEngine responseEngine = .ok index')
    (hsame : ∀ entry, entry ∈ entriesAt document path ↔ entry ∈ entriesAt document' path) :
    index.AgreeAt index' path := by
  have hholds := holds_of_build h
  have hholds' := holds_of_build h'
  have hmem : ∀ r, r ∈ index.candidates path ↔ r ∈ index'.candidates path := by
    intro r
    rw [mem_candidates_iff h, mem_candidates_iff h']
    simp only [hsame]
  -- The path's own template matches the path, so its route is one of those that match.
  have hexact : ∀ {i : PathIndex} {d : Value}, i.Holds d → d.wellKeyed = true → ∀ r,
      i.route? path = some r ↔ r ∈ i.candidates path ∧ r.template.text = path := by
    intro i d hi hd r
    rw [hi.route?_eq_some_iff hd, candidates, List.mem_filter]
    constructor
    · rintro ⟨hr, htext⟩
      refine ⟨⟨hr, ?_⟩, htext⟩
      rw [hi.template_eq r hr, htext, Template.fits_read_self]
    · rintro ⟨⟨hr, -⟩, htext⟩
      exact ⟨hr, htext⟩
  constructor
  · refine Option.ext fun r => ?_
    rw [hexact hholds hkeyed, hexact hholds' hkeyed', hmem]
  · exact (List.perm_ext_iff_of_nodup (hholds.nodup_candidates hkeyed)
      (hholds'.nodup_candidates hkeyed')).2 hmem

end PathIndex

/-! ## Two contracts at a path -/

namespace Contract

/-- Whatever the contracts are asked about the path, they give the same answer, except that an
ambiguous path may name its templates in another order. -/
structure AgreeAt (c c' : Contract) (path : String) : Prop where
  lookup : ∀ method, SameAnswer (c.index.lookupValues (.str path) method)
    (c'.index.lookupValues (.str path) method)
  serve : ∀ method, SameAnswer (c.index.serveValues (.str path) method)
    (c'.index.serveValues (.str path) method)
  request : ∀ method request, SameAnswer (c.validateRequestByPath (.str path) method request)
    (c'.validateRequestByPath (.str path) method request)
  response : ∀ method status response,
    SameAnswer (c.validateResponse (.str path) method status response)
      (c'.validateResponse (.str path) method status response)
  contentTypes : ∀ method,
    c.requestContentTypes (.str path) method = c'.requestContentTypes (.str path) method

variable {engine : EngineOptions → Option String → Engine (Except Failure)}
  {options : ContractOptions} {document document' : Value} {c c' : Contract} {path : String}

-- The index of a contract is built with an engine for each direction.
theorem index_of_build (h : build engine options document = .ok c) :
    PathIndex.build document (engine options.request (statedVersion document))
      (engine options.response (statedVersion document)) = .ok c.index := by
  unfold build at h
  by_cases hvalid : (options.validateDocument && !Document.isValid document) = true
  · rw [if_pos hvalid] at h
    cases h
  · rw [if_neg hvalid] at h
    rcases Result.bind_eq_ok_iff.1 h with ⟨index, hindex, h⟩
    rcases Except.ok.inj h with rfl
    exact hindex

-- Contracts agree at a path where their indices do.
theorem agreeAt_of_index (h : c.index.AgreeAt c'.index path) : c.AgreeAt c' path := by
  have hlookup := h.same_lookupValues
  refine ⟨hlookup, h.same_serveValues, fun method request => (hlookup method).bind,
    fun method status response => (hlookup method).bind, fun method => ?_⟩
  unfold requestContentTypes
  have hmethod := hlookup method
  generalize c.index.lookupValues (.str path) method = answer at hmethod
  generalize c'.index.lookupValues (.str path) method = answer' at hmethod
  cases hmethod with
  | ok heq => rw [heq]
  | error hreordered =>
    cases hreordered with
    | same => rfl
    | contract he =>
      -- An ambiguous path is no path that leads to an operation, whatever templates it names.
      cases he with
      | same => rfl
      | ambiguous => rfl

/-- Routing and validation are local. When the entries that match a path are the same in two
documents of one version, contracts that are built with the same options agree at the path, whatever
the order of the entries and whatever else the documents declare. -/
theorem agreeAt_of_same_entries (hkeyed : document.wellKeyed = true)
    (hkeyed' : document'.wellKeyed = true)
    (hversion : statedVersion document = statedVersion document')
    (hc : build engine options document = .ok c) (hc' : build engine options document' = .ok c')
    (hsame : ∀ entry, entry ∈ entriesAt document path ↔ entry ∈ entriesAt document' path) :
    c.AgreeAt c' path := by
  have hindex' := index_of_build hc'
  rw [← hversion] at hindex'
  exact agreeAt_of_index
    (PathIndex.agreeAt_of_build hkeyed hkeyed' (index_of_build hc) hindex' hsame)

/-- The crossing templates the other way round, with a further path behind them. -/
def crossingTemplatesReversed : Value :=
  .object [(.str "paths", .object
    [(.str "/\x7by\x7d/b", .object [(.str "get", .object [])]),
      (.str "/a/\x7bx\x7d", .object [(.str "get", .object [])]),
      (.str "/c", .object [(.str "put", .object [])])])]

-- Where the two templates cross, either document leads to the same answers.
theorem agreeAt_of_crossing_templates : ∃ c c' : Contract,
    build Engine.standard {} crossingTemplates = .ok c ∧
      build Engine.standard {} crossingTemplatesReversed = .ok c' ∧
      (entriesAt crossingTemplates "/a/b").length = 2 ∧ c.AgreeAt c' "/a/b" := by
  have hentries : entriesAt crossingTemplatesReversed "/a/b" =
      (entriesAt crossingTemplates "/a/b").reverse := rfl
  have hversion : statedVersion crossingTemplates = statedVersion crossingTemplatesReversed := rfl
  have hsame : ∀ entry, entry ∈ entriesAt crossingTemplates "/a/b" ↔
      entry ∈ entriesAt crossingTemplatesReversed "/a/b" := by
    intro entry
    rw [hentries, List.mem_reverse]
  have hbuild : ∃ c : Contract, build Engine.standard {} crossingTemplates = .ok c :=
    Result.exists_of_isOk (by decide +kernel)
  have hbuild' : ∃ c : Contract, build Engine.standard {} crossingTemplatesReversed = .ok c :=
    Result.exists_of_isOk (by decide +kernel)
  rcases hbuild with ⟨c, hc⟩
  rcases hbuild' with ⟨c', hc'⟩
  exact ⟨c, c', hc, hc', rfl,
    agreeAt_of_same_entries (by decide) (by decide) hversion hc hc' hsame⟩

end Contract

end ApiContract
