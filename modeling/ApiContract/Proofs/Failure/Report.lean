import ApiContract.Failure.Report
import ApiContract.Proofs.Result
import Mathlib.Data.List.Forall2
import Mathlib.Data.Prod.Lex
import Mathlib.Data.String.Basic

/-!
# Reports are canonical

A report lists what was found wrong, each finding once, in the order of path and message. The order
leaves no choice: two suggestions that it does not tell apart are the same. So nothing of the order in
which things were found is left in a report.
-/

namespace ApiContract

/-! ## The order of suggestions -/

namespace Suggestion

/-- What suggestions are ordered by. -/
def key (s : Suggestion) : String ×ₗ String := toLex (s.path, s.message)

-- A suggestion consists of nothing but its path and its message.
theorem key_injective : Function.Injective key := by
  rintro ⟨path, message⟩ ⟨path', message'⟩ h
  obtain ⟨rfl, rfl⟩ := Prod.mk.inj (toLex.injective h)
  rfl

theorem le_iff {a b : Suggestion} : a.le b = true ↔ a.key ≤ b.key := by
  rw [key, key, Prod.Lex.toLex_le_toLex]
  simp [le]

/-- The second list holds what the first one holds, each suggestion as often as there, by path and at
one path by message. -/
structure Canonical (written reported : List Suggestion) : Prop where
  perm : reported.Perm written
  sorted : reported.Pairwise fun a b => a.path < b.path ∨ a.path = b.path ∧ a.message ≤ b.message

variable {written written' reported reported' : List Suggestion}

theorem Canonical.pairwise_key (h : Canonical written reported) :
    reported.Pairwise fun a b => a.key ≤ b.key :=
  h.sorted.imp fun hab => Prod.Lex.toLex_le_toLex.2 hab

theorem canonical_mergeSort (written : List Suggestion) :
    Canonical written (written.mergeSort le) := by
  refine ⟨List.mergeSort_perm written le, ?_⟩
  have hsorted : (written.mergeSort le).Pairwise fun a b => a.le b = true := by
    refine List.pairwise_mergeSort (fun a b c hab hbc => ?_) (fun a b => ?_) written
    · exact le_iff.2 (le_trans (le_iff.1 hab) (le_iff.1 hbc))
    · rw [Bool.or_eq_true, le_iff, le_iff]
      exact le_total a.key b.key
  exact hsorted.imp fun hab => Prod.Lex.toLex_le_toLex.1 (le_iff.1 hab)

/-- There is one canonical list only. -/
theorem Canonical.unique (h : Canonical written reported) (h' : Canonical written' reported')
    (hperm : written.Perm written') : reported = reported' := by
  refine List.Perm.eq_of_pairwise (fun a b _ _ hab hba => ?_) h.pairwise_key h'.pairwise_key
    ((h.perm.trans hperm).trans h'.perm.symm)
  exact key_injective (le_antisymm hab hba)

end Suggestion

/-! ## Written one by one -/

namespace Result

variable {ε α β : Type} {f : α → Except ε β} {xs xs' : List α} {ys : List β}

-- A list of results has one for each element.
theorem mapM_eq_ok_iff :
    xs.mapM f = .ok ys ↔ List.Forall₂ (fun x y => f x = .ok y) xs ys := by
  induction xs generalizing ys with
  | nil =>
    rw [List.mapM_nil, List.forall₂_nil_left_iff]
    exact ⟨fun h => (Except.ok.inj h).symm, fun h => congrArg Except.ok h.symm⟩
  | cons x xs ih =>
    rw [List.mapM_cons, bind_eq_ok_iff, List.forall₂_cons_left_iff]
    constructor
    · rintro ⟨y, hy, h⟩
      obtain ⟨ys', hys, h⟩ := bind_eq_ok_iff.1 h
      exact ⟨y, ys', hy, ih.1 hys, (Except.ok.inj h).symm⟩
    · rintro ⟨y, ys', hy, hys, rfl⟩
      exact ⟨y, hy, bind_eq_ok_iff.2 ⟨ys', ih.2 hys, rfl⟩⟩

-- Other elements in front or behind do not matter to whether there are results.
theorem exists_mapM_iff : (∃ ys, xs.mapM f = .ok ys) ↔ ∀ x ∈ xs, ∃ y, f x = .ok y := by
  induction xs with
  | nil => exact ⟨fun _ _ hx => absurd hx List.not_mem_nil, fun _ => ⟨[], rfl⟩⟩
  | cons x xs ih =>
    rw [List.forall_mem_cons, ← ih]
    simp only [mapM_eq_ok_iff, List.forall₂_cons_left_iff]
    constructor
    · rintro ⟨_, y, ys, hy, hys, -⟩
      exact ⟨⟨y, hy⟩, ys, hys⟩
    · rintro ⟨⟨y, hy⟩, ys, hys⟩
      exact ⟨y :: ys, y, ys, hy, hys, rfl⟩

theorem FailsOnly.mapM {P : ε → Prop} (h : ∀ x ∈ xs, FailsOnly P (f x)) :
    FailsOnly P (xs.mapM f) := by
  induction xs with
  | nil => exact .ok []
  | cons x xs ih =>
    obtain ⟨hx, hxs⟩ := List.forall_mem_cons.1 h
    rw [List.mapM_cons]
    exact hx.bind fun y _ => (ih hxs).bind fun ys _ => .ok (y :: ys)

-- Elements in another order have the same results in another order.
theorem follows_mapM_perm (h : xs.Perm xs') : Follows List.Perm (xs.mapM f) (xs'.mapM f) := by
  induction h with
  | nil => exact .ok .nil
  | cons x _ ih =>
    rw [List.mapM_cons, List.mapM_cons]
    exact .bind_same fun y => ih.bind fun _ _ hys => .ok (hys.cons y)
  | swap x y xs =>
    intro ys hys
    rw [mapM_eq_ok_iff, List.forall₂_cons_left_iff] at hys
    obtain ⟨b, rest, hb, hrest, rfl⟩ := hys
    obtain ⟨a, zs, ha, hzs, rfl⟩ := List.forall₂_cons_left_iff.1 hrest
    exact ⟨a :: b :: zs, mapM_eq_ok_iff.2 (.cons ha (.cons hb hzs)), .swap a b zs⟩
  | trans _ _ ih ih' =>
    intro ys hys
    obtain ⟨ys', hys', hperm⟩ := ih ys hys
    obtain ⟨ys'', hys'', hperm'⟩ := ih' ys' hys'
    exact ⟨ys'', hys'', hperm.trans hperm'⟩

end Result

/-! ## Findings -/

namespace Finding

variable {f : Finding} {path : Value}

/-- A value that can be gone through step by step: a list, a text, an object or bytes. -/
inductive HasSteps : Value → Prop
  | list (items : List Value) : HasSteps (.list items)
  | text (s : String) : HasSteps (.str s)
  | object (fields : Fields) : HasSteps (.object fields)
  | bytes (data : List UInt8) : HasSteps (.scalar (.bytes data))

/-- The path of the finding, if it has any, can be gone through. -/
def Readable (f : Finding) : Prop := f.path.truthy = true → HasSteps f.path

theorem exists_steps_iff : (∃ parts, steps path = .ok parts) ↔ HasSteps path := by
  constructor
  · rintro ⟨parts, h⟩
    cases path with
    | list items => exact .list items
    | object fields => exact .object fields
    | scalar s =>
      cases s with
      | str s => exact .text s
      | bytes data => exact .bytes data
      | _ => cases h
  · rintro (_ | _ | _ | _) <;> exact ⟨_, rfl⟩

-- What has no steps has the wrong shape for a path.
theorem failsOnly_steps : Result.FailsOnly (· = .wrongShape) (steps path) := by
  intro fault h
  cases path with
  | list items => cases h
  | object fields => cases h
  | scalar s => cases s <;> cases h <;> rfl

theorem exists_suggestion_iff : (∃ s, f.suggestion = .ok s) ↔ f.Readable := by
  unfold suggestion pathText Readable
  cases f.path.truthy with
  | false => exact ⟨fun _ h => (Bool.false_ne_true h).elim, fun _ => ⟨_, rfl⟩⟩
  | true =>
    rw [forall_prop_of_true rfl, ← exists_steps_iff]
    constructor
    · rintro ⟨s, h⟩
      obtain ⟨_, h, -⟩ := Result.bind_eq_ok_iff.1 h
      obtain ⟨parts, h, -⟩ := Result.bind_eq_ok_iff.1 h
      exact ⟨parts, h⟩
    · rintro ⟨parts, h⟩
      exact ⟨_, Result.bind_eq_ok_iff.2 ⟨_, Result.bind_eq_ok_iff.2 ⟨parts, h, rfl⟩, rfl⟩⟩

theorem failsOnly_suggestion : Result.FailsOnly (· = .wrongShape) f.suggestion := by
  unfold suggestion pathText
  cases f.path.truthy with
  | false => exact .ok _
  | true => exact (failsOnly_steps.bind fun _ _ => .ok _).bind fun _ _ => .ok _

-- Steps behind slashes are steps between slashes behind one more.
theorem join_slashes (first : String) (rest : List String) :
    String.join ((first :: rest).map ("/" ++ ·)) = "/" ++ "/".intercalate (first :: rest) := by
  induction rest generalizing first with
  | nil => simp
  | cons second rest ih =>
    rw [List.map_cons, String.join_cons, ih, String.intercalate_cons_cons]
    simp only [String.append_assoc]

-- A step reads the same as a value.
theorem text_comp_value : Value.text ∘ Step.value = Step.text := by
  funext step
  cases step <;> rfl

-- A violation is written alike, whether its path is made of steps or of values.
theorem suggestion_ofViolation (v : Violation) :
    (ofViolation v).suggestion = .ok (.ofViolation v) := by
  rcases v with ⟨_ | ⟨step, path⟩, cause⟩
  · rfl
  · show Except.ok (Suggestion.mk ("/" ++ "/".intercalate
      (((step :: path).map Step.value).map Value.text)) cause.message) = _
    rw [List.map_map, text_comp_value, List.map_cons, ← join_slashes, ← List.map_cons, List.map_map]
    rfl

end Finding

/-! ## Reports -/

namespace Complaint

variable {c : Complaint} {r : Report}

-- A report is made of what is written of the findings, and of nothing else of them.
theorem report_eq_ok_iff : c.report = .ok r ↔
    ∃ written, c.findings.mapM Finding.suggestion = .ok written ∧
      r = ⟨c.code.getD c.kind.defaultCode, c.location, c.message,
        written.mergeSort Suggestion.le⟩ := by
  rw [report, Result.bind_eq_ok_iff]
  exact exists_congr fun _ => and_congr_right fun _ => ⟨fun h => (Except.ok.inj h).symm,
    fun h => congrArg Except.ok h.symm⟩

theorem exists_report_iff : (∃ r, c.report = .ok r) ↔ ∀ f ∈ c.findings, f.Readable := by
  have hwritten : (∃ r, c.report = .ok r) ↔
      ∃ written, c.findings.mapM Finding.suggestion = .ok written := by
    simp only [report_eq_ok_iff]
    exact ⟨fun ⟨_, written, h, _⟩ => ⟨written, h⟩, fun ⟨written, h⟩ => ⟨_, written, h, rfl⟩⟩
  rw [hwritten, Result.exists_mapM_iff]
  exact forall₂_congr fun _ _ => Finding.exists_suggestion_iff

theorem failsOnly_report : Result.FailsOnly (· = .wrongShape) c.report :=
  (Result.FailsOnly.mapM fun _ _ => Finding.failsOnly_suggestion).bind fun _ _ => .ok _

-- What is found in another order is reported alike.
theorem report_perm {findings : List Finding} (hperm : c.findings.Perm findings)
    (h : c.report = .ok r) : ({ c with findings := findings } : Complaint).report = .ok r := by
  obtain ⟨written, hwritten, rfl⟩ := report_eq_ok_iff.1 h
  obtain ⟨written', hwritten', hsame⟩ := Result.follows_mapM_perm hperm written hwritten
  refine report_eq_ok_iff.2 ⟨written', hwritten', ?_⟩
  rw [(Suggestion.canonical_mergeSort written).unique (Suggestion.canonical_mergeSort written') hsame]

end Complaint

-- An error of the library is made from violations of schemas, all of which can be written.
theorem ContractError.report_complaint (e : ContractError) : e.complaint.report = .ok e.report := by
  refine Complaint.report_eq_ok_iff.2 ⟨e.violations.map .ofViolation, ?_, rfl⟩
  rw [complaint, Result.mapM_eq_ok_iff, List.forall₂_map_left_iff, List.forall₂_map_right_iff]
  exact List.forall₂_same.2 fun v _ => Finding.suggestion_ofViolation v

-- Violations in another order are reported alike.
theorem ContractError.report_perm {e : ContractError} {violations : List Violation}
    (hperm : violations.Perm e.violations) :
    ({ e with violations := violations } : ContractError).report = e.report := by
  unfold ContractError.report
  congr 1
  exact (Suggestion.canonical_mergeSort _).unique (Suggestion.canonical_mergeSort _) (hperm.map _)

/-- Reports are canonical. An error has a report exactly when the path of each finding can be gone
through, if there is any. The report lists what is written of the findings, each of them once, by path
and at one path by message, in the order of code points. Errors that differ in nothing but the order
of their findings have one report. The errors of this library are made from violations, so that each
has a report, of which the same is true. -/
theorem Complaint.report_is_canonical (c : Complaint) :
    ((∃ r, c.report = .ok r) ↔ ∀ f ∈ c.findings, f.Readable) ∧
    (∀ r, c.report = .ok r →
      r.code = c.code.getD c.kind.defaultCode ∧ r.location = c.location ∧ r.message = c.message ∧
      ∃ written, List.Forall₂ (fun f s => f.suggestion = .ok s) c.findings written ∧
        Suggestion.Canonical written r.suggestions) ∧
    (∀ findings, findings.Perm c.findings →
      ({ c with findings := findings } : Complaint).report = c.report) ∧
    ∀ e : ContractError, e.complaint.report = .ok e.report ∧
      Suggestion.Canonical (e.violations.map .ofViolation) e.report.suggestions ∧
      ∀ violations, violations.Perm e.violations →
        ({ e with violations := violations } : ContractError).report = e.report := by
  refine ⟨exists_report_iff, fun r hr => ?_, fun findings hperm => ?_, fun e =>
    ⟨e.report_complaint, Suggestion.canonical_mergeSort _, fun _ => ContractError.report_perm⟩⟩
  · obtain ⟨written, hwritten, rfl⟩ := report_eq_ok_iff.1 hr
    exact ⟨rfl, rfl, rfl, written, Result.mapM_eq_ok_iff.1 hwritten,
      Suggestion.canonical_mergeSort written⟩
  · cases hr : c.report with
    | ok r => exact report_perm hperm.symm hr
    | error fault =>
      -- Neither has a report, and there is one way to have none.
      cases hr' : ({ c with findings := findings } : Complaint).report with
      | ok r =>
        have hok : c.report = .ok r := report_perm (c := { c with findings := findings }) hperm hr'
        exact absurd (hr.symm.trans hok) nofun
      | error fault' => rw [failsOnly_report _ hr, failsOnly_report _ hr']

/-- A complaint about violations, a text, and things with a path or a message of their own. -/
def mixedComplaint : Complaint where
  kind := .requestBodyValidation
  message := "Schema validation error"
  location := "request-body"
  findings := [.ofViolation ⟨[.member "tags", .index 9], .missing (.str "id")⟩,
    .ofValue (.str "odd"), ⟨.str "ab", .int 5, "thing"⟩, ⟨.null, .str "even", "other"⟩,
    .ofViolation ⟨[.member "tags", .index 10], .missing (.str "id")⟩]

-- What is reported of it, in whichever order it was found.
theorem mixedComplaint_reported_in_order :
    ∃ r, mixedComplaint.report = .ok r ∧
      r.suggestions = [⟨"", "even"⟩, ⟨"", "odd"⟩, ⟨"/a/b", "thing"⟩,
        ⟨"/tags/10", "'id' is a required property"⟩, ⟨"/tags/9", "'id' is a required property"⟩] ∧
      ({ mixedComplaint with findings := mixedComplaint.findings.reverse } : Complaint).report =
        mixedComplaint.report := by
  obtain ⟨hexists, hreport, hperm, -⟩ := Complaint.report_is_canonical mixedComplaint
  have hreadable : ∀ f ∈ mixedComplaint.findings, f.Readable := by
    simp only [mixedComplaint, List.forall_mem_cons]
    exact ⟨fun _ => .list _, nofun, fun _ => .text _, nofun, fun _ => .list _, nofun⟩
  obtain ⟨r, hr⟩ := hexists.2 hreadable
  obtain ⟨-, -, -, written, hwritten, hcanonical⟩ := hreport r hr
  have hmap : mixedComplaint.findings.mapM Finding.suggestion = .ok
      [⟨"/tags/9", "'id' is a required property"⟩, ⟨"", "odd"⟩, ⟨"/a/b", "thing"⟩, ⟨"", "even"⟩,
        ⟨"/tags/10", "'id' is a required property"⟩] := by
    decide +kernel
  obtain rfl := Except.ok.inj (hmap.symm.trans (Result.mapM_eq_ok_iff.2 hwritten))
  refine ⟨r, hr, ?_, hperm _ (List.reverse_perm _)⟩
  refine hcanonical.unique ⟨.refl _, ?_⟩ ?_
  · decide +kernel
  · decide +kernel

end ApiContract
