import ApiContract.Proofs.Route.Declaration
import Mathlib.Data.List.Nodup

/-!
# Looking up operations

A lookup is sound and complete for the declarations of the document: it finds the operation of the
path's own template, or of the best template that matches the path, and it fails in one of three
ways, each under a condition of its own.
-/

namespace ApiContract

/-! ## The rule of routing -/

namespace Declaration

variable {ds : List Declaration} {path method : String} {d e : Declaration}

/-- The template is one of those among which the most literal is taken: it matches the path, and it
declares the method unless none that matches does. -/
structure Competes (ds : List Declaration) (path method : String) (d : Declaration) : Prop where
  mem : d ∈ ds
  fits : d.fits path = true
  declares : method ∈ d.methods ∨ ∀ e ∈ ds, e.fits path = true → method ∉ e.methods

/-- No template that competes has more literal segments. -/
structure Leads (ds : List Declaration) (path method : String) (d : Declaration) : Prop where
  competes : Competes ds path method d
  most : ∀ e, Competes ds path method e → e.literalCount ≤ d.literalCount

/-- Every other template that competes has fewer literal segments. -/
structure Wins (ds : List Declaration) (path method : String) (d : Declaration) : Prop where
  competes : Competes ds path method d
  strict : ∀ e, e ≠ d → Competes ds path method e → e.literalCount < d.literalCount

instance : Decidable (Competes ds path method d) :=
  decidable_of_iff (d ∈ ds ∧ d.fits path = true ∧
      (method ∈ d.methods ∨ ∀ e ∈ ds, e.fits path = true → method ∉ e.methods))
    ⟨fun h => ⟨h.1, h.2.1, h.2.2⟩, fun h => ⟨h.mem, h.fits, h.declares⟩⟩

instance : Decidable (Leads ds path method d) :=
  decidable_of_iff (Competes ds path method d ∧
      ∀ e ∈ ds, Competes ds path method e → e.literalCount ≤ d.literalCount)
    ⟨fun h => ⟨h.1, fun e he => h.2 e he.mem he⟩, fun h => ⟨h.competes, fun e _ he => h.most e he⟩⟩

-- Two templates cannot tie for the lead when there is a winner.
theorem Wins.not_tied (h : Wins ds path method d) {e e' : Declaration}
    (he : Leads ds path method e) (he' : Leads ds path method e') : e = e' := by
  have heq : ∀ f, Leads ds path method f → f = d := by
    intro f hf
    by_contra hne
    have hlt := h.strict f hne hf.competes
    have hle := hf.most d h.competes
    omega
  rw [heq e he, heq e' he']

end Declaration

/-! ## The best of several routes -/

namespace PathIndex

-- A fold for the maximum is bounded by what bounds its start and all elements.
theorem foldl_max_le_iff {ns : List Nat} {start bound : Nat} :
    ns.foldl max start ≤ bound ↔ start ≤ bound ∧ ∀ n ∈ ns, n ≤ bound := by
  induction ns generalizing start with
  | nil => simp
  | cons n ns ih =>
    rw [List.foldl_cons, ih, List.forall_mem_cons, Nat.max_le, and_assoc]

-- The top tier holds the routes that none of the others surpasses.
theorem mem_topTier {routes : List Route} {r : Route} : r ∈ topTier routes ↔
    r ∈ routes ∧ ∀ s ∈ routes, s.template.literalCount ≤ r.template.literalCount := by
  have hbound : ∀ bound, mostLiteral routes ≤ bound ↔
      ∀ s ∈ routes, s.template.literalCount ≤ bound := by
    intro bound
    rw [mostLiteral, foldl_max_le_iff]
    simp
  rw [topTier, List.mem_filter, beq_iff_eq]
  refine and_congr_right fun hr => ?_
  rw [← hbound]
  have hle := (hbound _).1 (Nat.le_refl _) r hr
  omega

-- Where there are routes, there is one that none surpasses.
theorem exists_mem_topTier {routes : List Route} (h : routes ≠ []) : ∃ r, r ∈ topTier routes := by
  simp only [mem_topTier]
  induction routes with
  | nil => exact absurd rfl h
  | cons r rest ih =>
    by_cases hrest : rest = []
    · subst hrest
      exact ⟨r, by simp⟩
    · rcases ih hrest with ⟨best, hmem, hbest⟩
      by_cases hle : r.template.literalCount ≤ best.template.literalCount
      · refine ⟨best, List.mem_cons_of_mem r hmem, ?_⟩
        simpa using ⟨hle, hbest⟩
      · refine ⟨r, List.mem_cons_self, ?_⟩
        simp only [List.mem_cons, forall_eq_or_imp, Nat.le_refl, true_and]
        intro s hs
        have := hbest s hs
        omega

-- The preferred routes are those that declare the method, or all if none does.
theorem mem_preferred {routes : List Route} {method : String} {r : Route} :
    r ∈ preferred (some method) routes ↔ r ∈ routes ∧
      (r.declares (Text.lower method) = true ∨
        ∀ s ∈ routes, s.declares (Text.lower method) = false) := by
  unfold preferred
  dsimp only
  split
  · rename_i hempty
    have hnone : ∀ s ∈ routes, s.declares (Text.lower method) = false := by
      simpa using hempty
    exact ⟨fun hr => ⟨hr, Or.inr hnone⟩, fun hr => hr.1⟩
  · rename_i hsome
    rw [List.mem_filter]
    refine and_congr_right fun hr => ⟨Or.inl, fun h => h.resolve_right fun hnone => hsome ?_⟩
    simpa using hnone

theorem preferred_sublist (method : Option String) (routes : List Route) :
    (preferred method routes).Sublist routes := by
  unfold preferred
  split
  · exact List.Sublist.refl routes
  · dsimp only
    split
    · exact List.Sublist.refl routes
    · exact List.filter_sublist

/-! ## The routes of a document -/

/-- The routes from which the one that serves a path is taken. -/
def tier (index : PathIndex) (path method : String) : List Route :=
  topTier (preferred (some method) (index.candidates path))

-- A route declares the methods of its operations.
theorem declares_iff {r : Route} {method : String} :
    r.declares method = true ↔ method ∈ r.declaration.methods := by
  simp [Route.declares, Route.operation?, Route.declaration]

-- The operation of a route under a method is one of its operations and has the method.
theorem operation?_eq_some {r : Route} {method : String} {op : Operation}
    (hop : r.operation? method = some op) :
    op ∈ r.operations ∧ op.method = method := by
  exact ⟨List.mem_of_find?_eq_some hop, by simpa using List.find?_some hop⟩

namespace Holds

variable {index : PathIndex} {document : Value} {path method : String} {r s : Route}

-- The declarations of a document are those of the routes.
theorem mem_iff (h : index.Holds document) {d : Declaration} :
    d ∈ Declaration.ofDocument document ↔ ∃ r ∈ index.routes, r.declaration = d := by
  rw [← h.declarations, List.mem_map]

-- A route matches the paths that its declaration does.
theorem fits_eq (h : index.Holds document) (hr : r ∈ index.routes) :
    r.declaration.fits path = r.template.fits path := by
  rw [Declaration.fits, Route.declaration, ← h.template_eq r hr]

-- A route has as many literal segments as its declaration.
theorem literalCount_eq (h : index.Holds document) (hr : r ∈ index.routes) :
    r.declaration.literalCount = r.template.literalCount := by
  rw [Declaration.literalCount, Route.declaration, ← h.template_eq r hr]

-- Different routes of a well-keyed document have different declarations.
theorem eq_of_text_eq (h : index.Holds document) (hkeyed : document.wellKeyed = true)
    (hr : r ∈ index.routes) (hs : s ∈ index.routes) (heq : r.template.text = s.template.text) :
    r = s := by
  have hnodup := Declaration.nodup_templates hkeyed
  rw [← h.declarations, List.map_map] at hnodup
  exact List.inj_on_of_nodup_map hnodup hr hs heq

-- The candidates among which a lookup chooses are those that compete.
theorem mem_preferred_iff (h : index.Holds document) :
    r ∈ preferred (some (Text.lower method)) (index.candidates path) ↔ r ∈ index.routes ∧
      Declaration.Competes (Declaration.ofDocument document) path (Text.lower method)
        r.declaration := by
  rw [mem_preferred, candidates, List.mem_filter, Text.lower_lower, declares_iff]
  constructor
  · rintro ⟨⟨hr, hfits⟩, hdeclares⟩
    refine ⟨hr, h.mem_iff.2 ⟨r, hr, rfl⟩, by rw [h.fits_eq hr, hfits], hdeclares.imp_right ?_⟩
    intro hnone e he hefits
    rcases h.mem_iff.1 he with ⟨s, hs, rfl⟩
    have := hnone s (List.mem_filter.2 ⟨hs, by rwa [← h.fits_eq hs]⟩)
    rwa [← Bool.not_eq_true, declares_iff] at this
  · rintro ⟨hr, hcompetes⟩
    refine ⟨⟨hr, by rw [← h.fits_eq hr, hcompetes.fits]⟩, hcompetes.declares.imp_right ?_⟩
    intro hnone s hs
    rw [List.mem_filter] at hs
    rw [← Bool.not_eq_true, declares_iff]
    exact hnone _ (h.mem_iff.2 ⟨s, hs.1, rfl⟩) (by rw [h.fits_eq hs.1, hs.2])

-- The routes from which the one that serves a path is taken are those that lead.
theorem mem_tier_iff (h : index.Holds document) :
    r ∈ index.tier path (Text.lower method) ↔ r ∈ index.routes ∧
      Declaration.Leads (Declaration.ofDocument document) path (Text.lower method)
        r.declaration := by
  rw [tier, mem_topTier, h.mem_preferred_iff]
  constructor
  · rintro ⟨⟨hr, hcompetes⟩, hmost⟩
    refine ⟨hr, hcompetes, fun e he => ?_⟩
    rcases h.mem_iff.1 he.mem with ⟨s, hs, rfl⟩
    rw [h.literalCount_eq hs, h.literalCount_eq hr]
    exact hmost s (h.mem_preferred_iff.2 ⟨hs, he⟩)
  · rintro ⟨hr, hleads⟩
    refine ⟨⟨hr, hleads.competes⟩, fun s hs => ?_⟩
    rw [h.mem_preferred_iff] at hs
    rw [← h.literalCount_eq hs.1, ← h.literalCount_eq hr]
    exact hleads.most _ hs.2

-- No route stands twice among those that match a path.
theorem nodup_candidates (h : index.Holds document) (hkeyed : document.wellKeyed = true) :
    (index.candidates path).Nodup := by
  have hnodup := Declaration.nodup_templates hkeyed
  rw [← h.declarations] at hnodup
  have hroutes : index.routes.Nodup := (hnodup.of_map _).of_map _
  exact hroutes.filter _

-- No route stands twice among those from which the one that serves a path is taken.
theorem nodup_tier (h : index.Holds document) (hkeyed : document.wellKeyed = true) :
    (index.tier path method).Nodup := by
  have hcandidates : (index.candidates path).Nodup := h.nodup_candidates hkeyed
  exact (hcandidates.sublist (preferred_sublist _ _)).filter _

-- Where a template matches the path, there are routes to choose from.
theorem tier_ne_nil (h : index.Holds document) {d : Declaration}
    (hd : d ∈ Declaration.ofDocument document) (hfits : d.fits path = true) :
    index.tier path method ≠ [] := by
  rcases h.mem_iff.1 hd with ⟨r, hr, rfl⟩
  have hcandidate : r ∈ index.candidates path :=
    List.mem_filter.2 ⟨hr, by rwa [← h.fits_eq hr]⟩
  have hpreferred : preferred (some method) (index.candidates path) ≠ [] := by
    unfold preferred
    dsimp only
    split
    · exact List.ne_nil_of_mem hcandidate
    · rename_i hsome
      simpa using hsome
  rcases exists_mem_topTier hpreferred with ⟨best, hbest⟩
  exact List.ne_nil_of_mem hbest

-- A single route from which to choose is a winner.
theorem wins_of_tier (h : index.Holds document)
    (htier : index.tier path (Text.lower method) = [r]) : r ∈ index.routes ∧
      Declaration.Wins (Declaration.ofDocument document) path (Text.lower method)
        r.declaration := by
  rcases h.mem_tier_iff.1 (htier ▸ List.mem_singleton_self r) with ⟨hr, hleads⟩
  refine ⟨hr, hleads.competes, fun e hne he => ?_⟩
  by_contra hge
  rcases h.mem_iff.1 he.mem with ⟨s, hs, rfl⟩
  have hsleads : Declaration.Leads (Declaration.ofDocument document) path (Text.lower method)
      s.declaration := by
    refine ⟨he, fun f hf => ?_⟩
    have := hleads.most f hf
    omega
  have hmem := h.mem_tier_iff.2 ⟨hs, hsleads⟩
  rw [htier, List.mem_singleton] at hmem
  exact hne (by rw [hmem])

-- The route of a template is the one with its text.
theorem route?_eq_some_iff (h : index.Holds document) (hkeyed : document.wellKeyed = true) :
    index.route? path = some r ↔ r ∈ index.routes ∧ r.template.text = path := by
  constructor
  · intro hr
    exact ⟨List.mem_of_find?_eq_some hr, by simpa using List.find?_some hr⟩
  · rintro ⟨hr, htext⟩
    cases hfound : index.route? path with
    | none => exact absurd htext (by simpa using List.find?_eq_none.1 hfound r hr)
    | some s =>
      have hs : s.template.text = path := by simpa using List.find?_some hfound
      rw [h.eq_of_text_eq hkeyed (List.mem_of_find?_eq_some hfound) hr (hs.trans htext.symm)]

end Holds

end PathIndex

/-! ## The outcome of a lookup -/

open PathIndex

/-- What a lookup may answer, and when: `found` gives an operation whose template is the path itself
or a winner, and the others tell the three failures apart. -/
inductive Routed (ds : List Declaration) (path method : String) :
    Except ContractError Operation → Prop
  | found (op : Operation) (d : Declaration) (mem : d ∈ ds) (path_eq : op.path = d.template)
      (method_eq : op.method = method) (declares : method ∈ d.methods) (fits : d.fits path = true)
      (best : path = d.template ∨ Declaration.Wins ds path method d) :
      Routed ds path method (.ok op)
  | noMatch (none_fits : ∀ d ∈ ds, d.fits path = false) :
      Routed ds path method (.error .noPathMatch)
  | undeclared (d : Declaration) (wins : Declaration.Wins ds path method d)
      (none_declares : ∀ e ∈ ds, e.fits path = true → method ∉ e.methods) :
      Routed ds path method (.error .methodNotDeclared)
  | ambiguous (d e : Declaration) (templates : List String) (ne : d ≠ e)
      (left : Declaration.Leads ds path method d) (right : Declaration.Leads ds path method e)
      (not_exact : ¬ ∃ d ∈ ds, d.template = path ∧ method ∈ d.methods) :
      Routed ds path method (.error (.ambiguousPath path templates))

namespace Routed

variable {ds : List Declaration} {path method : String} {answer : Except ContractError Operation}

-- The answer is 404 exactly when no template matches the path.
theorem code_404_iff (h : Routed ds path method answer) :
    (∃ e, answer = .error e ∧ e.code = 404) ↔ ∀ d ∈ ds, d.fits path = false := by
  constructor
  · rintro ⟨e, rfl, hcode⟩
    cases h with
    | noMatch none_fits => exact none_fits
    | undeclared => exact absurd hcode (by decide)
    | ambiguous => exact absurd (show (409 : Int) = 404 from hcode) (by decide)
  · intro hnone
    cases h with
    | found op d mem _ _ _ fits => exact absurd fits (by simp [hnone d mem])
    | noMatch => exact ⟨_, rfl, rfl⟩
    | undeclared d wins =>
      exact absurd wins.competes.fits (by simp [hnone d wins.competes.mem])
    | ambiguous d e _ _ left =>
      exact absurd left.competes.fits (by simp [hnone d left.competes.mem])

/-- The answer is 405 exactly when a template has more literal segments than all others that match,
and none that matches declares the method. -/
theorem code_405_iff (h : Routed ds path method answer) :
    (∃ e, answer = .error e ∧ e.code = 405) ↔
      (∃ d ∈ ds, d.fits path = true ∧
        ∀ e ∈ ds, e ≠ d → e.fits path = true → e.literalCount < d.literalCount) ∧
      ∀ d ∈ ds, d.fits path = true → method ∉ d.methods := by
  constructor
  · rintro ⟨e, rfl, hcode⟩
    cases h with
    | noMatch => exact absurd hcode (by decide)
    | undeclared d wins none_declares =>
      refine ⟨⟨d, wins.competes.mem, wins.competes.fits, fun e he hne hfits => ?_⟩, none_declares⟩
      exact wins.strict e hne ⟨he, hfits, Or.inr none_declares⟩
    | ambiguous => exact absurd (show (409 : Int) = 405 from hcode) (by decide)
  · rintro ⟨⟨d, hd, hfits, hstrict⟩, hnone⟩
    have hwins : Declaration.Wins ds path method d :=
      ⟨⟨hd, hfits, Or.inr hnone⟩, fun e hne he => hstrict e he.mem hne he.fits⟩
    cases h with
    | found op e mem _ _ declares fits => exact absurd declares (hnone e mem fits)
    | noMatch none_fits => exact absurd hfits (by simp [none_fits d hd])
    | undeclared => exact ⟨_, rfl, rfl⟩
    | ambiguous e e' _ ne left right => exact absurd (hwins.not_tied left right) ne

/-- The answer is that the path is ambiguous exactly when it is no template with the method and two
templates tie for the lead. -/
theorem ambiguous_iff (h : Routed ds path method answer) :
    (∃ e, answer = .error e ∧ e.kind = .ambiguousPath ∧ e.code = 409) ↔
      (¬ ∃ d ∈ ds, d.template = path ∧ method ∈ d.methods) ∧
      ∃ d e, d ≠ e ∧ Declaration.Leads ds path method d ∧ Declaration.Leads ds path method e := by
  constructor
  · rintro ⟨e, rfl, hkind, hcode⟩
    cases h with
    | noMatch => exact absurd hcode (by decide)
    | undeclared => exact absurd hcode (by decide)
    | ambiguous d e _ ne left right not_exact => exact ⟨not_exact, d, e, ne, left, right⟩
  · rintro ⟨hnot, d, e, hne, hd, he⟩
    cases h with
    | found op f mem _ _ declares _ best =>
      rcases best with hexact | hwins
      · exact absurd ⟨f, mem, hexact.symm, declares⟩ hnot
      · exact absurd (hwins.not_tied hd he) hne
    | noMatch none_fits =>
      exact absurd hd.competes.fits (by simp [none_fits d hd.competes.mem])
    | undeclared f wins => exact absurd (wins.not_tied hd he) hne
    | ambiguous => exact ⟨_, rfl, rfl, rfl⟩

end Routed

namespace PathIndex.Holds

variable {index : PathIndex} {document : Value} {path method : String} {r s : Route}

-- An operation that is found by the text of the path belongs to a template that is the path.
theorem routed_exact {op : Operation} (h : index.Holds document)
    (hkeyed : document.wellKeyed = true)
    (hexact : (index.route? path).bind (·.operation? method) = some op) :
    Routed (Declaration.ofDocument document) path method (.ok op) := by
  rcases Option.bind_eq_some_iff.1 hexact with ⟨r, hr, hop⟩
  rcases (h.route?_eq_some_iff hkeyed).1 hr with ⟨hmem, htext⟩
  rcases operation?_eq_some hop with ⟨hop, hmethod⟩
  have hdeclares : method ∈ r.declaration.methods := hmethod ▸ List.mem_map_of_mem hop
  have hfits : r.declaration.fits path = true := by
    rw [h.fits_eq hmem, h.template_eq r hmem, htext]
    exact Template.fits_read_self path
  exact .found op r.declaration (h.mem_iff.2 ⟨r, hmem, rfl⟩) (h.path_eq r hmem op hop) hmethod
    hdeclares hfits (Or.inl htext.symm)

-- When nothing is found so, the path is no template that declares the method.
theorem not_declared_of_not_exact (h : index.Holds document) (hkeyed : document.wellKeyed = true)
    (hexact : (index.route? path).bind (·.operation? method) = none) :
    ¬ ∃ d ∈ Declaration.ofDocument document, d.template = path ∧ method ∈ d.methods := by
  rintro ⟨d, hd, htext, hdeclares⟩
  rcases h.mem_iff.1 hd with ⟨r, hr, rfl⟩
  rw [(h.route?_eq_some_iff hkeyed).2 ⟨hr, htext⟩, Option.bind_some] at hexact
  rw [← declares_iff, Route.declares, hexact] at hdeclares
  cases hdeclares

theorem routed_nil (h : index.Holds document) (htier : index.tier path (Text.lower method) = []) :
    Routed (Declaration.ofDocument document) path (Text.lower method) (.error .noPathMatch) := by
  refine .noMatch fun d hd => ?_
  by_contra hfits
  exact h.tier_ne_nil hd (by simpa using hfits) htier

-- The only route of the tier either declares the method, or no route that matches does.
theorem routed_single (h : index.Holds document)
    (htier : index.tier path (Text.lower method) = [r]) :
    Routed (Declaration.ofDocument document) path (Text.lower method)
      (match r.operation? (Text.lower method) with
        | some op => .ok op
        | none => .error .methodNotDeclared) := by
  rcases h.wins_of_tier htier with ⟨hr, hwins⟩
  cases hop : r.operation? (Text.lower method) with
  | some op =>
    rcases operation?_eq_some hop with ⟨hmem, hmethod⟩
    have hdeclares : Text.lower method ∈ r.declaration.methods := by
      rw [← declares_iff, Route.declares, hop]
      rfl
    exact .found op r.declaration hwins.competes.mem (h.path_eq r hr op hmem) hmethod hdeclares
      hwins.competes.fits (Or.inr hwins)
  | none =>
    have hundeclared : Text.lower method ∉ r.declaration.methods := by
      rw [← declares_iff, Route.declares, hop]
      simp
    exact .undeclared r.declaration hwins (hwins.competes.declares.resolve_left hundeclared)

-- Two routes of the tier are two templates that lead.
theorem routed_tied {rest : List Route} {templates : List String} (h : index.Holds document)
    (hkeyed : document.wellKeyed = true)
    (htier : index.tier path (Text.lower method) = r :: s :: rest)
    (hnot : ¬ ∃ d ∈ Declaration.ofDocument document, d.template = path ∧
      Text.lower method ∈ d.methods) :
    Routed (Declaration.ofDocument document) path (Text.lower method)
      (.error (.ambiguousPath path templates)) := by
  have hnodup : (index.tier path (Text.lower method)).Nodup := h.nodup_tier hkeyed
  rw [htier] at hnodup
  have hrtier : r ∈ index.tier path (Text.lower method) := by
    rw [htier]
    exact List.mem_cons_self
  have hstier : s ∈ index.tier path (Text.lower method) := by
    rw [htier]
    exact List.mem_cons_of_mem r List.mem_cons_self
  rcases h.mem_tier_iff.1 hrtier with ⟨hr, hrleads⟩
  rcases h.mem_tier_iff.1 hstier with ⟨hs, hsleads⟩
  refine .ambiguous r.declaration s.declaration _ (fun heq => ?_) hrleads hsleads hnot
  have hrs : r = s := h.eq_of_text_eq hkeyed hr hs (congrArg Declaration.template heq)
  simp [hrs] at hnodup

/-- A lookup answers by the rule of routing. -/
theorem routed_lookup (h : index.Holds document) (hkeyed : document.wellKeyed = true)
    (path method : String) :
    Routed (Declaration.ofDocument document) path (Text.lower method)
      (index.lookup path method) := by
  unfold PathIndex.lookup
  dsimp only
  cases hexact : (index.route? path).bind (·.operation? (Text.lower method)) with
  | some op => exact h.routed_exact hkeyed hexact
  | none =>
    have hnot := h.not_declared_of_not_exact hkeyed hexact
    -- What is left depends only on how many routes there are to choose from.
    have htiers : topTier (preferred (some (Text.lower method)) (index.candidates path)) =
      index.tier path (Text.lower method) := rfl
    rw [PathIndex.serve, htiers]
    cases htier : index.tier path (Text.lower method) with
    | nil => exact h.routed_nil htier
    | cons r rest =>
      cases rest with
      | nil => exact h.routed_single htier
      | cons s rest => exact h.routed_tied hkeyed htier hnot

end PathIndex.Holds

/-- The lookup in the index of any document is sound and complete; an object of the document holds
each of its keys once, as it does in every document that is loaded. The lookup finds an operation
with the method whose template matches the path, and is the path itself or beats every other
template that matches and declares the method. It fails with 404 exactly when no template matches;
with 405 exactly when some do, none of them declares the method and one has more literal segments
than all others; and as ambiguous exactly when the path is no template that declares the method and
two of the templates that compete tie for the lead. There are no other failures. -/
theorem lookup_sound_and_complete {requestEngine responseEngine : Engine (Except Failure)}
    {document : Value} {index : PathIndex} (hkeyed : document.wellKeyed = true)
    (hbuild : PathIndex.build document requestEngine responseEngine = .ok index)
    (path method : String) :
    let ds := Declaration.ofDocument document
    let m := Text.lower method
    (∀ op, index.lookup path method = .ok op → op.method = m ∧
      ∃ d ∈ ds, op.path = d.template ∧ m ∈ d.methods ∧ d.fits path = true ∧
        (path = d.template ∨ ∀ e ∈ ds, e ≠ d → e.fits path = true → m ∈ e.methods →
          e.literalCount < d.literalCount)) ∧
    ((∃ e, index.lookup path method = .error e ∧ e.code = 404) ↔
      ∀ d ∈ ds, d.fits path = false) ∧
    ((∃ e, index.lookup path method = .error e ∧ e.code = 405) ↔
      (∃ d ∈ ds, d.fits path = true ∧
        ∀ e ∈ ds, e ≠ d → e.fits path = true → e.literalCount < d.literalCount) ∧
      ∀ d ∈ ds, d.fits path = true → m ∉ d.methods) ∧
    ((∃ e, index.lookup path method = .error e ∧ e.kind = .ambiguousPath ∧ e.code = 409) ↔
      (¬ ∃ d ∈ ds, d.template = path ∧ m ∈ d.methods) ∧
      ∃ d e, d ≠ e ∧ Declaration.Leads ds path m d ∧ Declaration.Leads ds path m e) ∧
    ∀ e, index.lookup path method = .error e → e.code = 404 ∨ e.code = 405 ∨ e.code = 409 := by
  intro ds m
  have hrouted := (PathIndex.holds_of_build hbuild).routed_lookup hkeyed path method
  refine ⟨fun op hop => ?_, hrouted.code_404_iff, hrouted.code_405_iff, hrouted.ambiguous_iff,
    fun e he => ?_⟩
  · rw [hop] at hrouted
    cases hrouted with
    | found _ d mem path_eq method_eq declares fits best =>
      refine ⟨method_eq, d, mem, path_eq, declares, fits, best.imp_right ?_⟩
      exact fun wins e he hne hfits hm => wins.strict e hne ⟨he, hfits, Or.inl hm⟩
  · rw [he] at hrouted
    cases hrouted with
    | noMatch => exact Or.inl rfl
    | undeclared => exact Or.inr (Or.inl rfl)
    | ambiguous => exact Or.inr (Or.inr rfl)

/-- Two templates, each with a placeholder where the other one has text. -/
def crossingTemplates : Value :=
  .object [(.str "paths", .object
    [(.str "/a/\x7bx\x7d", .object [(.str "get", .object [])]),
      (.str "/\x7by\x7d/b", .object [(.str "get", .object [])])])]

-- Where two templates cross, a lookup is ambiguous.
theorem lookup_of_crossing_templates :
    crossingTemplates.wellKeyed = true ∧ ∃ index : PathIndex,
      PathIndex.build crossingTemplates (Engine.silent (m := Except Failure))
        (Engine.silent (m := Except Failure)) = .ok index ∧
      ∃ e, index.lookup "/a/b" "GET" = .error e ∧ e.kind = .ambiguousPath ∧ e.code = 409 := by
  refine ⟨by decide, ?_⟩
  cases hbuild : PathIndex.build crossingTemplates (Engine.silent (m := Except Failure))
      (Engine.silent (m := Except Failure)) with
  | error f =>
    have hok : (PathIndex.build crossingTemplates (Engine.silent (m := Except Failure))
      (Engine.silent (m := Except Failure))).isOk = true := by decide +kernel
    rw [hbuild] at hok
    cases hok
  | ok index =>
    have h := lookup_sound_and_complete (by decide) hbuild "/a/b" "GET"
    refine ⟨index, rfl, h.2.2.2.1.2 ⟨by decide, ?_⟩⟩
    exact ⟨⟨"/a/\x7bx\x7d", ["get"]⟩, ⟨"/\x7by\x7d/b", ["get"]⟩, by decide⟩

end ApiContract
