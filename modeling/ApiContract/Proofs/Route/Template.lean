import ApiContract.Route.Template

/-!
# Templates as paths

A template, taken as a path, is matched by itself: each placeholder is filled with its own text.
-/

namespace ApiContract

namespace TemplateToken

/-! ## Matching piece by piece -/

-- Plain characters match themselves and nothing else.
theorem fits_map_text_append (cs : List Char) (tokens : List TemplateToken) (rest : List Char) :
    fits (cs.map text ++ tokens) (cs ++ rest) = fits tokens rest := by
  induction cs with
  | nil => rfl
  | cons c cs ih => simp [fits, ih]

-- A placeholder may be filled with any characters, as long as there are some.
theorem fits_placeholder_append (c : Char) (cs : List Char) {tokens : List TemplateToken}
    {rest : List Char} (h : fits tokens rest = true) :
    fits (placeholder :: tokens) (c :: cs ++ rest) = true := by
  induction cs generalizing c with
  | nil => simp [fits, h]
  | cons d cs ih =>
    rw [List.cons_append, fits, Bool.or_eq_true]
    exact Or.inr (ih d)

/-- The characters that have been read, but not yet turned into tokens. -/
def pendingText : Option (List Char) → List Char
  | none => []
  | some pending => '\x7b' :: pending.reverse

-- The tokens that are read from a list of characters match it.
theorem fits_scan (state : Option (List Char)) (cs : List Char) :
    fits (scan state cs) (pendingText state ++ cs) = true := by
  fun_induction scan state cs with
  | case1 => rfl
  | case2 pending =>
    have := fits_map_text_append (pendingText (some pending)) [] []
    simpa [pendingText, fits] using this
  | case3 c rest hopen ih =>
    have hc : c = '\x7b' := by simpa using hopen
    simpa [pendingText, hc] using ih
  | case4 c rest hplain ih => simpa [pendingText, fits] using ih
  | case5 pending c rest hclose ih =>
    have hc : c = '\x7d' := by
      simp only [Bool.and_eq_true, beq_iff_eq] at hclose
      exact hclose.1
    have := fits_placeholder_append '\x7b' (pending.reverse ++ [c]) ih
    simpa [pendingText] using this
  | case6 pending c rest hclose hopen ih =>
    have hc : c = '\x7b' := by simpa using hopen
    subst hc
    have := fits_map_text_append (pendingText (some pending)) (scan (some []) rest) ('\x7b' :: rest)
    simpa [pendingText] using this.trans (by simpa [pendingText] using ih)
  | case7 pending c rest hclose hopen hend ih =>
    have := fits_map_text_append (pendingText (some pending) ++ [c]) (scan none rest) rest
    simpa [pendingText] using this.trans (by simpa [pendingText] using ih)
  | case8 pending c rest hclose hopen hend ih => simpa [pendingText] using ih

end TemplateToken

-- A segment matches the part that it was read from.
theorem Segment.fits_ofChars (cs : List Char) : (Segment.ofChars cs).fits cs = true := by
  unfold Segment.ofChars
  dsimp only
  split
  · exact TemplateToken.fits_scan none cs
  · simp [Segment.fits]

namespace Template

-- Segments match the parts that they were read from.
theorem fitsParts_map_ofChars (parts : List (List Char)) :
    fitsParts (parts.map Segment.ofChars) parts = true := by
  induction parts with
  | nil => rfl
  | cons part parts ih => simp [fitsParts, Segment.fits_ofChars, ih]

-- A template matches its own text.
@[simp] theorem fits_read_self (text : String) : (read text).fits text = true :=
  fitsParts_map_ofChars _

@[simp] theorem text_read (text : String) : (read text).text = text := rfl

end Template

end ApiContract
