import ApiContract.Proofs.Route.Template
import Mathlib.Data.List.Forall2
import Mathlib.Data.List.Infix

/-!
# Instances of a template

An instance of a template is a path in which each placeholder of the template has been replaced by
some characters other than the slash, while all other characters stand as they are. A template matches
its instances and nothing else.
-/

namespace ApiContract

namespace Template

/-! ## Placeholders in a text -/

/-- What stands between the braces of a placeholder: at least one character, and neither braces nor
slashes. -/
structure IsName (name : List Char) : Prop where
  ne_nil : name ≠ []
  plain : ∀ c ∈ name, c ≠ '\x7b' ∧ c ≠ '\x7d' ∧ c ≠ '/'

/-- A name in braces. -/
def inBraces (name : List Char) : List Char := '\x7b' :: name ++ ['\x7d']

/-- The characters begin with a placeholder. -/
def OpensPlaceholder (cs : List Char) : Prop := ∃ name rest, IsName name ∧ cs = inBraces name ++ rest

/-- The instances of a template, read from the left: where a placeholder stands it is filled, and a
character with which no placeholder begins is kept. -/
inductive Instance : List Char → List Char → Prop
  | nil : Instance [] []
  | fill {name filling template path : List Char} (hname : IsName name) (ne_nil : filling ≠ [])
    (slash : '/' ∉ filling) (rest : Instance template path) :
    Instance (inBraces name ++ template) (filling ++ path)
  | keep {c : Char} {template path : List Char} (hkept : ¬ OpensPlaceholder (c :: template))
    (rest : Instance template path) : Instance (c :: template) (c :: path)

variable {name other cs ds rest path : List Char} {c : Char}

theorem IsName.slash_not_mem (h : IsName name) : '/' ∉ inBraces name := by
  simp only [inBraces, List.cons_append, List.mem_cons, List.mem_append, List.not_mem_nil, or_false]
  rintro (hopen | hname | hclose)
  · cases hopen
  · exact (h.plain _ hname).2.2 rfl
  · cases hclose

-- Only an open brace begins a placeholder.
theorem not_opensPlaceholder (h : c ≠ '\x7b') : ¬ OpensPlaceholder (c :: cs) := by
  rintro ⟨name, rest, -, heq⟩
  exact h (List.cons.inj heq).1

-- A placeholder ends at the first closing brace, so it can be read in one way only.
theorem inBraces_append_inj (h : IsName name) (h' : IsName other)
    (heq : inBraces name ++ cs = inBraces other ++ ds) : name = other ∧ cs = ds := by
  have hclose : ∀ {n : List Char}, IsName n → '\x7d' ∉ n := fun hn hmem => (hn.plain _ hmem).2.1 rfl
  have htail : name ++ '\x7d' :: cs = other ++ '\x7d' :: ds := by
    simpa [inBraces] using heq
  rcases List.append_eq_append_iff.1 htail with ⟨as, hother, has⟩ | ⟨as, hname, has⟩
  · cases as with
    | nil => exact ⟨by rw [hother, List.append_nil], (List.cons.inj has).2⟩
    | cons a as =>
      obtain ⟨rfl, -⟩ := List.cons.inj has
      exact absurd (by simp [hother]) (hclose h')
  · cases as with
    | nil => exact ⟨by rw [hname, List.append_nil], (List.cons.inj has).2.symm⟩
    | cons a as =>
      obtain ⟨rfl, -⟩ := List.cons.inj has
      exact absurd (by simp [hname]) (hclose h)

-- Whether a placeholder begins somewhere does not depend on what follows the next slash.
theorem opensPlaceholder_append_slash_iff :
    OpensPlaceholder (cs ++ '/' :: ds) ↔ OpensPlaceholder cs := by
  constructor
  · rintro ⟨name, rest, hname, heq⟩
    rcases List.append_eq_append_iff.1 heq with ⟨as, hbraces, has⟩ | ⟨as, hcs, -⟩
    · cases as with
      | nil => exact ⟨name, [], hname, by simpa using hbraces.symm⟩
      | cons a as =>
        obtain ⟨rfl, -⟩ := List.cons.inj has
        exact absurd (by simp [hbraces]) hname.slash_not_mem
    · exact ⟨name, as, hname, hcs⟩
  · rintro ⟨name, rest, hname, rfl⟩
    exact ⟨name, rest ++ '/' :: ds, hname, by rw [List.append_assoc]⟩

/-- Induction along a template, from one placeholder or kept character to the next. -/
@[elab_as_elim]
theorem induction {motive : List Char → Prop} (nil : motive [])
    (placeholder : ∀ name rest, IsName name → motive rest → motive (inBraces name ++ rest))
    (kept : ∀ c rest, ¬ OpensPlaceholder (c :: rest) → motive rest → motive (c :: rest))
    (cs : List Char) : motive cs := by
  induction hlength : cs.length using Nat.strong_induction_on generalizing cs with
  | _ n ih =>
    subst hlength
    by_cases hopens : OpensPlaceholder cs
    · obtain ⟨name, rest, hname, rfl⟩ := hopens
      refine placeholder name rest hname (ih _ ?_ rest rfl)
      simp only [inBraces, List.length_append, List.length_cons]
      omega
    · cases cs with
      | nil => exact nil
      | cons c rest => exact kept c rest hopens (ih _ (by simp) rest rfl)

/-! ## What an instance is, step by step -/

theorem instance_nil_iff : Instance [] path ↔ path = [] := by
  constructor
  · intro h
    generalize hnil : ([] : List Char) = template at h
    cases h with
    | nil => rfl
    | fill => cases hnil
    | keep => cases hnil
  · rintro rfl
    exact .nil

theorem instance_placeholder_iff (hname : IsName name) :
    Instance (inBraces name ++ rest) path ↔
      ∃ filling p, filling ≠ [] ∧ '/' ∉ filling ∧ path = filling ++ p ∧ Instance rest p := by
  constructor
  · intro h
    generalize htemplate : inBraces name ++ rest = template at h
    cases h with
    | nil => cases htemplate
    | fill hother ne_nil slash hrest =>
      obtain ⟨-, rfl⟩ := inBraces_append_inj hname hother htemplate
      exact ⟨_, _, ne_nil, slash, rfl, hrest⟩
    | keep hkept => exact absurd ⟨name, rest, hname, htemplate.symm⟩ hkept
  · rintro ⟨filling, p, ne_nil, slash, rfl, hrest⟩
    exact .fill hname ne_nil slash hrest

theorem instance_kept_iff (hkept : ¬ OpensPlaceholder (c :: rest)) :
    Instance (c :: rest) path ↔ ∃ p, path = c :: p ∧ Instance rest p := by
  constructor
  · intro h
    generalize htemplate : c :: rest = template at h
    cases h with
    | nil => cases htemplate
    | fill hname => exact absurd ⟨_, _, hname, htemplate⟩ hkept
    | keep _ hrest =>
      obtain ⟨rfl, rfl⟩ := List.cons.inj htemplate
      exact ⟨_, rfl, hrest⟩
  · rintro ⟨p, rfl, hrest⟩
    exact .keep hkept hrest

end Template

/-! ## The tokens of a template -/

namespace TemplateToken

open Template

variable {name pending cs rest part : List Char} {c : Char} {tokens : List TemplateToken}

-- A name up to its closing brace is a placeholder.
theorem scan_name (hplain : ∀ c ∈ name, c ≠ '\x7b' ∧ c ≠ '\x7d' ∧ c ≠ '/')
    (hne : pending ++ name ≠ []) :
    scan (some pending) (name ++ '\x7d' :: rest) = placeholder :: scan none rest := by
  induction name generalizing pending with
  | nil =>
    have hpending : pending.isEmpty = false := by simpa using hne
    simp [scan, hpending]
  | cons c name ih =>
    obtain ⟨hc, hname⟩ := List.forall_mem_cons.1 hplain
    simp only [List.cons_append, scan, beq_eq_false_iff_ne.2 hc.1, beq_eq_false_iff_ne.2 hc.2.1,
      beq_eq_false_iff_ne.2 hc.2.2, Bool.false_and, Bool.or_false, Bool.false_eq_true, if_false]
    exact ih hname (by simp)

theorem ofChars_placeholder (h : IsName name) :
    ofChars (inBraces name ++ rest) = placeholder :: ofChars rest := by
  have hscan : scan (some []) (name ++ '\x7d' :: rest) = placeholder :: scan none rest :=
    scan_name h.plain (by simpa using h.ne_nil)
  simpa [ofChars, inBraces, scan] using hscan

-- What is pending is plain text when it does not become a placeholder.
theorem scan_pending (hplain : ∀ c ∈ pending, c ≠ '\x7b' ∧ c ≠ '\x7d' ∧ c ≠ '/')
    (h : ¬ OpensPlaceholder ('\x7b' :: pending.reverse ++ cs)) :
    scan (some pending) cs = ('\x7b' :: pending.reverse).map text ++ scan none cs := by
  induction cs generalizing pending with
  | nil => simp [scan]
  | cons c rest ih =>
    have hnone : c ≠ '\x7b' → scan none (c :: rest) = text c :: scan none rest := fun hc => by
      rw [scan, if_neg (by simpa using hc)]
    conv_lhs => rw [scan]
    split
    · rename_i hclose
      simp only [Bool.and_eq_true, beq_iff_eq, Bool.not_eq_true', List.isEmpty_eq_false_iff] at hclose
      refine absurd ⟨pending.reverse, rest, ⟨by simpa using hclose.2, by simpa using hplain⟩, ?_⟩ h
      simp [inBraces, hclose.1]
    · split
      · rename_i hopen
        rw [beq_iff_eq.1 hopen]
        rfl
      · rename_i hopen
        have hc : c ≠ '\x7b' := by simpa using hopen
        split
        · simp [hnone hc]
        · rename_i hend
          simp only [Bool.or_eq_true, beq_iff_eq, not_or] at hend
          rw [ih (List.forall_mem_cons.2 ⟨⟨hc, hend⟩, hplain⟩) (by simpa using h)]
          simp [hnone hc]

theorem ofChars_kept (h : ¬ OpensPlaceholder (c :: rest)) :
    ofChars (c :: rest) = text c :: ofChars rest := by
  unfold ofChars
  rw [scan]
  split
  · rename_i hopen
    obtain rfl : c = '\x7b' := by simpa using hopen
    exact scan_pending (by simp) (by simpa using h)
  · rfl

-- A placeholder takes some characters, and what follows it the others.
theorem fits_placeholder_iff :
    fits (placeholder :: tokens) part = true ↔
      ∃ filling p, filling ≠ [] ∧ part = filling ++ p ∧ fits tokens p = true := by
  constructor
  · intro h
    induction part with
    | nil => simp [fits] at h
    | cons c part ih =>
      rw [fits, Bool.or_eq_true] at h
      rcases h with h | h
      · exact ⟨[c], part, by simp, rfl, h⟩
      · obtain ⟨filling, p, -, rfl, hp⟩ := ih h
        exact ⟨c :: filling, p, by simp, rfl, hp⟩
  · rintro ⟨filling, p, hne, rfl, hp⟩
    cases filling with
    | nil => exact absurd rfl hne
    | cons c filling => exact fits_placeholder_append c filling hp

theorem fits_text_iff :
    fits (text c :: tokens) part = true ↔ ∃ p, part = c :: p ∧ fits tokens p = true := by
  cases part with
  | nil => simp [fits]
  | cons d part =>
    rw [fits, Bool.and_eq_true, beq_iff_eq]
    constructor
    · rintro ⟨rfl, hp⟩
      exact ⟨part, rfl, hp⟩
    · rintro ⟨p, heq, hp⟩
      obtain ⟨rfl, rfl⟩ := List.cons.inj heq
      exact ⟨rfl, hp⟩

theorem fits_nil_iff : fits [] part = true ↔ part = [] := by
  cases part <;> simp [fits]

-- Within a segment the tokens of a template match its instances.
theorem fits_ofChars_iff (hslash : '/' ∉ part) :
    fits (ofChars cs) part = true ↔ Instance cs part := by
  induction cs using Template.induction generalizing part with
  | nil => exact fits_nil_iff.trans instance_nil_iff.symm
  | placeholder name rest hname ih =>
    rw [ofChars_placeholder hname, fits_placeholder_iff, instance_placeholder_iff hname]
    refine exists_congr fun filling => exists_congr fun p => and_congr_right fun _ => ?_
    constructor
    · rintro ⟨rfl, hp⟩
      rw [List.mem_append, not_or] at hslash
      exact ⟨hslash.1, rfl, (ih hslash.2).1 hp⟩
    · rintro ⟨-, rfl, hp⟩
      rw [List.mem_append, not_or] at hslash
      exact ⟨rfl, (ih hslash.2).2 hp⟩
  | kept c rest hkept ih =>
    rw [ofChars_kept hkept, fits_text_iff, instance_kept_iff hkept]
    refine exists_congr fun p => and_congr_right ?_
    rintro rfl
    exact ih (List.not_mem_of_not_mem_cons hslash)

-- A text without placeholders is read as it is.
theorem ofChars_eq_map (h : placeholder ∉ ofChars cs) : ofChars cs = cs.map text := by
  induction cs using Template.induction with
  | nil => rfl
  | placeholder name rest hname =>
    rw [ofChars_placeholder hname] at h
    exact absurd List.mem_cons_self h
  | kept c rest hkept ih =>
    rw [ofChars_kept hkept] at h ⊢
    rw [ih (List.not_mem_of_not_mem_cons h), List.map_cons]

theorem fits_map_text_iff : fits (cs.map text) part = true ↔ cs = part := by
  induction cs generalizing part with
  | nil => exact fits_nil_iff.trans eq_comm
  | cons c cs ih =>
    rw [List.map_cons, fits_text_iff]
    constructor
    · rintro ⟨p, rfl, hp⟩
      rw [ih.1 hp]
    · rintro rfl
      exact ⟨cs, rfl, ih.2 rfl⟩

end TemplateToken

/-! ## Segments -/

-- What stands before the first separator belongs to the first part.
theorem Text.splitChars_append {separator : Char} {front : List Char} (h : separator ∉ front)
    (cs : List Char) : splitChars separator (front ++ cs) =
      (splitChars separator cs).modifyHead (front ++ ·) := by
  induction front with
  | nil => cases hparts : splitChars separator cs <;> simp [hparts]
  | cons c front ih =>
    rw [List.mem_cons, not_or] at h
    rw [List.cons_append, splitChars, beq_eq_false_iff_ne.2 (Ne.symm h.1), if_neg (by simp),
      ih h.2]
    cases hparts : splitChars separator cs with
    | nil => exact absurd hparts (splitChars_ne_nil _ _)
    | cons part parts => rfl

-- A segment matches what its tokens do, whether or not it has placeholders.
theorem Segment.fits_ofChars_iff {cs part : List Char} :
    (ofChars cs).fits part = true ↔ TemplateToken.fits (TemplateToken.ofChars cs) part = true := by
  unfold ofChars
  dsimp only
  split
  · rfl
  · rename_i hplain
    rw [TemplateToken.ofChars_eq_map (by simpa using hplain), TemplateToken.fits_map_text_iff, fits,
      beq_iff_eq]

namespace Template

variable {template path : List Char}

-- A template that stands before a slash and one that stands behind it have their own instances.
theorem Instance.append_slash {template' path' : List Char} (h : Instance template path)
    (h' : Instance template' path') :
    Instance (template ++ '/' :: template') (path ++ '/' :: path') := by
  induction h with
  | nil => exact .keep (not_opensPlaceholder (by decide)) h'
  | fill hname ne_nil slash _ ih =>
    rw [List.append_assoc, List.append_assoc]
    exact .fill hname ne_nil slash ih
  | keep hkept _ ih =>
    refine .keep (fun hopens => hkept ?_) ih
    exact opensPlaceholder_append_slash_iff.1 hopens

-- Whether a placeholder begins somewhere is seen within the segment.
theorem opensPlaceholder_cons_iff {c : Char} {part : List Char} {parts : List (List Char)}
    (h : Text.splitChars '/' template = part :: parts) :
    OpensPlaceholder (c :: template) ↔ OpensPlaceholder (c :: part) := by
  rw [← Text.intercalate_splitChars '/' template, h]
  cases parts with
  | nil => simp [List.intercalate]
  | cons next parts =>
    rw [List.intercalate_cons_cons, List.append_assoc, List.singleton_append, ← List.cons_append]
    exact opensPlaceholder_append_slash_iff

-- The segments of an instance are instances of the segments.
theorem Instance.segments (h : Instance template path) :
    List.Forall₂ Instance (Text.splitChars '/' template) (Text.splitChars '/' path) := by
  induction h with
  | nil => exact .cons .nil .nil
  | @fill _ _ template path hname ne_nil slash _ ih =>
    rw [Text.splitChars_append hname.slash_not_mem, Text.splitChars_append slash]
    generalize Text.splitChars '/' template = parts at ih
    generalize Text.splitChars '/' path = parts' at ih
    cases ih with
    | nil => exact .nil
    | cons hpart hparts => exact .cons (.fill hname ne_nil slash hpart) hparts
  | @keep c template path hkept _ ih =>
    by_cases hc : c = '/'
    · subst hc
      exact .cons .nil ih
    · have hfront : '/' ∉ [c] := by simpa using Ne.symm hc
      rw [← List.singleton_append, ← List.singleton_append (x := c) (l := path),
        Text.splitChars_append hfront, Text.splitChars_append hfront]
      cases htemplate : Text.splitChars '/' template with
      | nil => exact absurd htemplate (Text.splitChars_ne_nil _ _)
      | cons part parts =>
        rw [htemplate] at ih
        cases hpath : Text.splitChars '/' path with
        | nil => exact absurd hpath (Text.splitChars_ne_nil _ _)
        | cons part' parts' =>
          rw [hpath] at ih
          cases ih with
          | cons hpart hparts =>
            refine .cons (.keep (fun hopens => hkept ?_) hpart) hparts
            exact (opensPlaceholder_cons_iff htemplate).2 hopens

-- Instances of segments make an instance of the whole.
theorem instance_intercalate {parts parts' : List (List Char)}
    (h : List.Forall₂ Instance parts parts') :
    Instance (List.intercalate ['/'] parts) (List.intercalate ['/'] parts') := by
  induction h with
  | nil => exact .nil
  | cons hpart hparts ih =>
    cases hparts with
    | nil => simpa [List.intercalate] using hpart
    | cons =>
      simpa [List.intercalate_cons_cons] using hpart.append_slash ih

theorem instance_iff_segments :
    Instance template path ↔
      List.Forall₂ Instance (Text.splitChars '/' template) (Text.splitChars '/' path) := by
  refine ⟨Instance.segments, fun h => ?_⟩
  rw [← Text.intercalate_splitChars '/' template, ← Text.intercalate_splitChars '/' path]
  exact instance_intercalate h

theorem fitsParts_map_iff {parts parts' : List (List Char)} :
    fitsParts (parts.map Segment.ofChars) parts' = true ↔
      List.Forall₂ (fun part part' => (Segment.ofChars part).fits part' = true) parts parts' := by
  induction parts generalizing parts' with
  | nil => cases parts' <;> simp [fitsParts]
  | cons part parts ih => cases parts' <;> simp [fitsParts, ih]

-- No part of a path holds a slash, so matching part by part is being an instance part by part.
theorem fits_read_iff (template path : String) :
    (read template).fits path = true ↔ Instance template.toList path.toList := by
  have hpart : ∀ part part', part' ∈ Text.splitChars '/' path.toList →
      ((Segment.ofChars part).fits part' = true ↔ Instance part part') := fun part part' hmem =>
    Segment.fits_ofChars_iff.trans
      (TemplateToken.fits_ofChars_iff (Text.not_mem_of_mem_splitChars hmem))
  rw [instance_iff_segments, fits, read, fitsParts_map_iff]
  generalize Text.splitChars '/' template.toList = parts
  generalize Text.splitChars '/' path.toList = parts' at hpart
  induction parts generalizing parts' with
  | nil => cases parts' <;> simp
  | cons part parts ih =>
    cases parts' with
    | nil => simp
    | cons part' parts' =>
      rw [List.forall₂_cons, List.forall₂_cons]
      exact and_congr (hpart part part' List.mem_cons_self)
        (ih parts' fun p p' hp => hpart p p' (List.mem_cons_of_mem _ hp))

-- A filling holds no slash, so an instance has the slashes of its template.
theorem Instance.count_slash (h : Instance template path) :
    path.count '/' = template.count '/' := by
  induction h with
  | nil => rfl
  | fill hname _ slash _ ih =>
    rw [List.count_append, List.count_append, ih, List.count_eq_zero.2 slash,
      List.count_eq_zero.2 hname.slash_not_mem]
  | keep _ _ ih => rw [List.count_cons, List.count_cons, ih]

/-- A template matches a path exactly when the path is an instance of it: when each of its placeholders
is filled with some characters other than the slash, and every other character, a brace that belongs to
no placeholder among them, is left as it is. So a template matches itself, and it matches only paths
with as many slashes as it has. -/
theorem matches_exactly_instances (template path : String) :
    ((read template).fits path = true ↔ Instance template.toList path.toList) ∧
    (read template).fits template = true ∧
    ((read template).fits path = true → path.toList.count '/' = template.toList.count '/') := by
  refine ⟨fits_read_iff template path, fits_read_self template, fun h => ?_⟩
  exact ((fits_read_iff template path).1 h).count_slash

/-- Placeholders side by side with text in one segment, and braces that are none. -/
theorem matches_mixed_segment :
    (read "/\x7b\x7d/\x7ba\x7d-\x7bb\x7d.json").fits "/\x7b\x7d/x-y-z.json" = true ∧
      Instance "/\x7b\x7d/\x7ba\x7d-\x7bb\x7d.json".toList "/\x7b\x7d/x-y-z.json".toList ∧
      "/\x7b\x7d/x-y-z.json".toList.count '/' = "/\x7b\x7d/\x7ba\x7d-\x7bb\x7d.json".toList.count '/' := by
  have hfits : (read "/\x7b\x7d/\x7ba\x7d-\x7bb\x7d.json").fits "/\x7b\x7d/x-y-z.json" = true := by
    decide +kernel
  have h := matches_exactly_instances "/\x7b\x7d/\x7ba\x7d-\x7bb\x7d.json" "/\x7b\x7d/x-y-z.json"
  exact ⟨hfits, h.1.1 hfits, h.2.2 hfits⟩

end Template

end ApiContract
