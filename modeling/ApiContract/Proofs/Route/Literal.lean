import ApiContract.Proofs.Route.Instance
import ApiContract.Proofs.Route.Lookup

/-!
# Templates without placeholders

A template without placeholders has more literal segments than any other template that matches its
text. So the path that is its text is served by the template, and a lookup that goes by the text of
the path finds the operation that matching would have found.
-/

namespace ApiContract

namespace Template

variable {cs rest part : List Char} {c : Char}

/-! ## Texts with a placeholder -/

/-- A placeholder stands somewhere in the text. -/
def HasPlaceholder (cs : List Char) : Prop :=
  ∃ front name back, IsName name ∧ cs = front ++ inBraces name ++ back

theorem not_hasPlaceholder_nil : ¬ HasPlaceholder [] := by
  rintro ⟨front, name, back, -, heq⟩
  simp [inBraces] at heq

-- A placeholder begins with the first character or stands behind it.
theorem hasPlaceholder_cons_iff (hkept : ¬ OpensPlaceholder (c :: rest)) :
    HasPlaceholder (c :: rest) ↔ HasPlaceholder rest := by
  constructor
  · rintro ⟨front, name, back, hname, heq⟩
    cases front with
    | nil => exact absurd ⟨name, back, hname, heq⟩ hkept
    | cons c' front => exact ⟨front, name, back, hname, (List.cons.inj heq).2⟩
  · rintro ⟨front, name, back, hname, rfl⟩
    exact ⟨c :: front, name, back, hname, rfl⟩

-- The text has a placeholder exactly when one is read in it.
theorem placeholder_mem_ofChars_iff :
    .placeholder ∈ TemplateToken.ofChars cs ↔ HasPlaceholder cs := by
  induction cs using Template.induction with
  | nil => exact iff_of_false List.not_mem_nil not_hasPlaceholder_nil
  | placeholder name rest hname =>
    rw [TemplateToken.ofChars_placeholder hname]
    exact iff_of_true List.mem_cons_self ⟨[], name, rest, hname, rfl⟩
  | kept c rest hkept ih =>
    rw [TemplateToken.ofChars_kept hkept, hasPlaceholder_cons_iff hkept, ← ih, List.mem_cons,
      or_iff_right nofun]

instance : Decidable (HasPlaceholder cs) := decidable_of_iff _ placeholder_mem_ofChars_iff

theorem HasPlaceholder.of_infix (h : HasPlaceholder part) (hpart : part <:+: cs) :
    HasPlaceholder cs := by
  obtain ⟨before, after, rfl⟩ := hpart
  obtain ⟨front, name, back, hname, rfl⟩ := h
  exact ⟨before ++ front, name, back ++ after, hname, by simp⟩

end Template

namespace Text

variable {separator : Char}

-- What stands between separators is a part of the whole.
theorem infix_intercalate {parts : List (List Char)} {part : List Char} (h : part ∈ parts) :
    part <:+: List.intercalate [separator] parts := by
  induction parts with
  | nil => cases h
  | cons first parts ih =>
    cases parts with
    | nil =>
      rw [List.mem_singleton.1 h]
      simp [List.intercalate]
    | cons next parts =>
      rw [List.intercalate_cons_cons]
      rcases List.mem_cons.1 h with rfl | h
      · rw [List.append_assoc]
        exact (List.prefix_append _ _).isInfix
      · exact (ih h).trans (List.suffix_append _ _).isInfix

theorem infix_of_mem_splitChars {cs part : List Char} (h : part ∈ splitChars separator cs) :
    part <:+: cs := by
  have hinfix : part <:+: List.intercalate [separator] (splitChars separator cs) :=
    infix_intercalate h
  rwa [intercalate_splitChars] at hinfix

end Text

namespace Segment

variable {cs part : List Char}

theorem ofChars_of_plain (h : ¬ Template.HasPlaceholder cs) : ofChars cs = .literal cs := by
  rw [← Template.placeholder_mem_ofChars_iff, ← List.contains_iff_mem] at h
  exact if_neg h

-- A literal segment is the text that it was read from, and matches only that.
theorem eq_of_fits_of_isLiteral (hliteral : (ofChars cs).isLiteral = true)
    (hfits : (ofChars cs).fits part = true) : cs = part := by
  unfold ofChars at hliteral hfits
  dsimp only at hliteral hfits
  split at hliteral
  · cases hliteral
  · rename_i hplain
    rw [if_neg hplain, fits, beq_iff_eq] at hfits
    exact hfits

end Segment

namespace Template

variable {parts parts' : List (List Char)} {s t : String}

/-! ## Literal segments -/

-- A template without placeholders has literal segments only.
theorem literalCount_of_plain (h : ¬ HasPlaceholder t.toList) :
    (read t).literalCount = (Text.splitChars '/' t.toList).length := by
  have hliteral : ∀ segment ∈ (read t).segments, segment.isLiteral = true := by
    intro segment hsegment
    obtain ⟨part, hpart, rfl⟩ := List.mem_map.1 hsegment
    rw [Segment.ofChars_of_plain fun hpart' => h (hpart'.of_infix (Text.infix_of_mem_splitChars hpart))]
    rfl
  rw [literalCount, List.filter_eq_self.2 hliteral, read, List.length_map]

-- Segments that match other parts than their own are not all literal.
theorem exists_not_isLiteral
    (h : List.Forall₂ (fun part part' => (Segment.ofChars part).fits part' = true) parts parts')
    (hne : parts ≠ parts') : ∃ part ∈ parts, (Segment.ofChars part).isLiteral ≠ true := by
  induction h with
  | nil => exact absurd rfl hne
  | @cons part part' parts parts' hpart _ ih =>
    by_cases hliteral : (Segment.ofChars part).isLiteral = true
    · have hrest : parts ≠ parts' := by
        rintro rfl
        exact hne (by rw [Segment.eq_of_fits_of_isLiteral hliteral hpart])
      obtain ⟨other, hother, hpattern⟩ := ih hrest
      exact ⟨other, List.mem_cons_of_mem part hother, hpattern⟩
    · exact ⟨part, List.mem_cons_self, hliteral⟩

/-- Of the templates that match the text of one without placeholders, that one has the most literal
segments, and no other has as many. -/
theorem literalCount_lt_of_fits (hplain : ¬ HasPlaceholder t.toList)
    (hfits : (read s).fits t = true) (hne : s ≠ t) :
    (read s).literalCount < (read t).literalCount := by
  have hparts : List.Forall₂ _ (Text.splitChars '/' s.toList) (Text.splitChars '/' t.toList) :=
    fitsParts_map_iff.1 hfits
  have hdiffer : Text.splitChars '/' s.toList ≠ Text.splitChars '/' t.toList := by
    intro heq
    have htexts := congrArg (List.intercalate ['/']) heq
    rw [Text.intercalate_splitChars, Text.intercalate_splitChars] at htexts
    exact hne (String.toList_inj.1 htexts)
  obtain ⟨part, hpart, hpattern⟩ := exists_not_isLiteral hparts hdiffer
  calc (read s).literalCount
      < (read s).segments.length :=
        List.length_filter_lt_length_iff_exists.2 ⟨_, List.mem_map_of_mem hpart, hpattern⟩
    _ = (Text.splitChars '/' t.toList).length := by rw [read, List.length_map, hparts.length_eq]
    _ = (read t).literalCount := (literalCount_of_plain hplain).symm

end Template

/-! ## Serving the text of a template -/

namespace PathIndex

-- A route that surpasses all others is the top tier.
theorem topTier_eq_singleton {routes : List Route} {r : Route} (hnodup : routes.Nodup)
    (hr : r ∈ routes)
    (hmost : ∀ s ∈ routes, s ≠ r → s.template.literalCount < r.template.literalCount) :
    topTier routes = [r] := by
  have hmem : ∀ s, s ∈ topTier routes ↔ s ∈ [r] := by
    intro s
    rw [mem_topTier, List.mem_singleton]
    constructor
    · rintro ⟨hs, hbest⟩
      by_contra hne
      exact absurd (hbest r hr) (Nat.not_le.2 (hmost s hs hne))
    · rintro rfl
      refine ⟨hr, fun s' hs' => ?_⟩
      by_cases heq : s' = s
      · rw [heq]
      · exact Nat.le_of_lt (hmost s' hs' heq)
  have hperm : (topTier routes).Perm [r] :=
    (List.perm_ext_iff_of_nodup (hnodup.filter _) (List.nodup_singleton r)).2 hmem
  exact hperm.eq_singleton

-- The template of the route that serves a path is given for texts as path and method.
theorem serveValues_of_serve {index : PathIndex} {path : String} {method : Option String} {r : Route}
    (hr : r ∈ index.candidates path) (hserve : index.serve path method = .ok r) :
    index.serveValues (.str path) (match method with | none => .null | some m => .str m) =
      .ok r.template.text := by
  have hsome : ¬ (index.candidates path).isEmpty = true := by
    rw [List.isEmpty_iff]
    exact List.ne_nil_of_mem hr
  have hserved : index.serveValues (.str path)
      (match method with | none => .null | some m => .str m) =
        (index.serve path method).mapError .contract >>= fun r => .ok r.template.text := by
    cases method <;> exact if_neg hsome
  rw [hserved, hserve]
  rfl

/-- The operation that a lookup finds when it goes by matching alone. -/
def lookupByMatch (index : PathIndex) (path method : String) : Except ContractError Operation := do
  match (← index.serve path (some (Text.lower method))).operation? (Text.lower method) with
  | some op => .ok op
  | none => .error .methodNotDeclared

namespace Holds

variable {index : PathIndex} {document : Value} {r s : Route} {method : String}

-- A template matches its own text.
theorem mem_candidates_self (h : index.Holds document) (hr : r ∈ index.routes) :
    r ∈ index.candidates r.template.text := by
  refine List.mem_filter.2 ⟨hr, ?_⟩
  rw [h.template_eq r hr]
  exact Template.fits_read_self _

-- A route whose template has no placeholder serves the text of the template wherever it is preferred.
theorem serve_of_plain (h : index.Holds document) (hkeyed : document.wellKeyed = true)
    (hr : r ∈ index.routes) (hplain : ¬ Template.HasPlaceholder r.template.text.toList)
    {method : Option String}
    (hpreferred : r ∈ preferred method (index.candidates r.template.text)) :
    index.serve r.template.text method = .ok r := by
  have htier : topTier (preferred method (index.candidates r.template.text)) = [r] := by
    refine topTier_eq_singleton ?_ hpreferred fun s hs hne => ?_
    · exact (h.nodup_candidates hkeyed).sublist (preferred_sublist _ _)
    · obtain ⟨hroute, hfits⟩ := List.mem_filter.1 ((preferred_sublist _ _).subset hs)
      have htext : s.template.text ≠ r.template.text := fun heq =>
        hne (h.eq_of_text_eq hkeyed hroute hr heq)
      rw [h.template_eq s hroute] at hfits ⊢
      rw [h.template_eq r hr]
      exact Template.literalCount_lt_of_fits hplain hfits htext
  rw [serve, htier]

-- It also serves a method that it declares.
theorem serve_declared_of_plain (h : index.Holds document) (hkeyed : document.wellKeyed = true)
    (hr : r ∈ index.routes) (hplain : ¬ Template.HasPlaceholder r.template.text.toList)
    (hmethod : Text.lower method ∈ r.declaration.methods) :
    index.serve r.template.text (some method) = .ok r := by
  refine h.serve_of_plain hkeyed hr hplain ?_
  rw [mem_preferred, declares_iff]
  exact ⟨h.mem_candidates_self hr, Or.inl hmethod⟩

-- The text of a template leads to the operation that its route has for a method.
theorem lookup_of_declared (h : index.Holds document) (hkeyed : document.wellKeyed = true)
    (hr : r ∈ index.routes) {op : Operation} (hop : r.operation? (Text.lower method) = some op) :
    index.lookup r.template.text method = .ok op := by
  have hroute : index.route? r.template.text = some r := (h.route?_eq_some_iff hkeyed).2 ⟨hr, rfl⟩
  rw [lookup, hroute, Option.bind_some, hop]

end Holds

/-- A template without placeholders serves the path that is its own text, whatever other templates
match it: asked for no method, and asked for one that it declares, in any letter case. So a lookup at
the path for such a method answers with an operation of this template, although it is found by the
text of the path alone: it is the one that is found by matching. -/
theorem plain_template_serves_itself {requestEngine responseEngine : Engine (Except Failure)}
    {document : Value} {index : PathIndex} (hkeyed : document.wellKeyed = true)
    (hbuild : build document requestEngine responseEngine = .ok index) {d : Declaration}
    (hd : d ∈ Declaration.ofDocument document)
    (hplain : ¬ Template.HasPlaceholder d.template.toList) :
    index.serveValues (.str d.template) .null = .ok d.template ∧
    ∀ method, Text.lower method ∈ d.methods →
      index.serveValues (.str d.template) (.str method) = .ok d.template ∧
      ∃ op, index.lookup d.template method = .ok op ∧
        index.lookupByMatch d.template method = .ok op ∧
        op.path = d.template ∧ op.method = Text.lower method := by
  have hholds := holds_of_build hbuild
  obtain ⟨r, hr, rfl⟩ := hholds.mem_iff.1 hd
  have hcandidate : r ∈ index.candidates r.template.text := hholds.mem_candidates_self hr
  refine ⟨?_, fun method hmethod => ?_⟩
  · have hserve : index.serve r.template.text none = .ok r :=
      hholds.serve_of_plain hkeyed hr hplain hcandidate
    exact serveValues_of_serve hcandidate hserve
  · have hserve : ∀ m, Text.lower m = Text.lower method →
        index.serve r.template.text (some m) = .ok r := fun m hm =>
      hholds.serve_declared_of_plain hkeyed hr hplain (hm ▸ hmethod)
    obtain ⟨op, hop⟩ : ∃ op, r.operation? (Text.lower method) = some op :=
      Option.isSome_iff_exists.1 (declares_iff.2 hmethod)
    refine ⟨serveValues_of_serve hcandidate (hserve method rfl), op,
      hholds.lookup_of_declared hkeyed hr hop, ?_,
      hholds.path_eq r hr op (operation?_eq_some hop).1, (operation?_eq_some hop).2⟩
    have hmatch : index.serve r.declaration.template (some (Text.lower method)) = .ok r :=
      hserve _ (Text.lower_lower method)
    rw [lookupByMatch, hmatch]
    show (match r.operation? (Text.lower method) with | some op => _ | none => _) = _
    rw [hop]

/-- A template without placeholders behind two others that match its text: in one a placeholder is a
part of a segment, in the other a whole one. -/
def minePaths : Value :=
  .object [(.str "paths", .object
    [(.str "/pets/\x7bid\x7d.json", .object [(.str "get", .object [])]),
      (.str "/\x7bkind\x7d/mine.json", .object [(.str "get", .object [])]),
      (.str "/pets/mine.json", .object [(.str "get", .object [])])])]

theorem mine_serves_itself :
    minePaths.wellKeyed = true ∧ ∃ index : PathIndex,
      build minePaths (Engine.silent (m := Except Failure)) (Engine.silent (m := Except Failure)) =
        .ok index ∧
      ⟨"/pets/mine.json", ["get"]⟩ ∈ Declaration.ofDocument minePaths ∧
      ¬ Template.HasPlaceholder "/pets/mine.json".toList ∧
      index.serveValues (.str "/pets/mine.json") .null = .ok "/pets/mine.json" ∧
      ∃ op, index.lookup "/pets/mine.json" "GET" = .ok op ∧ op.path = "/pets/mine.json" := by
  obtain ⟨index, hbuild⟩ : ∃ index, build minePaths (Engine.silent (m := Except Failure))
      (Engine.silent (m := Except Failure)) = .ok index := Result.exists_of_isOk (by decide +kernel)
  have hdeclared : ⟨"/pets/mine.json", ["get"]⟩ ∈ Declaration.ofDocument minePaths := by decide
  have hplain : ¬ Template.HasPlaceholder "/pets/mine.json".toList := by decide +kernel
  obtain ⟨hserve, hmethods⟩ := plain_template_serves_itself (by decide) hbuild hdeclared hplain
  obtain ⟨-, op, hlookup, -, hpath, -⟩ := hmethods "GET" (by decide)
  exact ⟨by decide, index, hbuild, hdeclared, hplain, hserve, op, hlookup, hpath⟩

end PathIndex

end ApiContract
