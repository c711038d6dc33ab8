import ApiContract.Text.Case

/-!
# Laws of letter case

Lower case is a normal form: putting a text into lower case twice is the same as doing so once. The
law rests on one fact about the table of mappings, that no run reaches an image of another one.
-/

namespace ApiContract.Text

/-! ## The table of mappings -/

/-- Does a run reach none of the images that lie between `lo` and `hi`? Where the run skips every
other point and `stepping` says that the images do so too, it is enough that they never meet. -/
def CaseRun.avoids (lo hi : Nat) (stepping : Bool) (q : CaseRun) : Bool :=
  Nat.blt hi q.first || (Nat.blt q.last lo ||
    (Nat.beq q.step 2 && (stepping && Nat.beq ((lo + q.first) % 2) 1)))

/-- Is the image of a run reached by no run of the table, nor one of the characters with a rule of
their own, nor an ASCII capital? -/
def CaseRun.isFinal (table : List CaseRun) (r : CaseRun) : Bool :=
  let lo := ((r.first : Int) + r.offset).toNat
  let hi := ((r.last : Int) + r.offset).toNat
  decide (0 ≤ (r.first : Int) + r.offset) && Nat.blt hi 0x110000 &&
    (Nat.blt hi 0xD800 || Nat.blt 0xDFFF lo) && (Nat.blt hi 65 || Nat.blt 90 lo) &&
    (Nat.blt hi 0x130 || Nat.blt 0x130 lo) && (Nat.blt hi 0x3A3 || Nat.blt 0x3A3 lo) &&
    table.all (avoids lo hi (Nat.beq r.step 2 || Nat.beq r.first r.last))

-- Every run of the lower-case mappings has a final image.
theorem isFinal_of_mem_lowerRuns : ∀ r ∈ lowerRuns.toList, r.isFinal lowerRuns.toList = true := by
  decide +kernel

-- What `image?` says about a point that a run reaches.
theorem CaseRun.image?_eq_some {r : CaseRun} {n m : Nat} (h : r.image? n = some m) :
    r.first ≤ n ∧ n ≤ r.last ∧ (n - r.first) % r.step = 0 ∧ m = ((n : Int) + r.offset).toNat := by
  unfold image? at h
  split at h
  · rename_i hn
    simp only [Bool.and_eq_true, decide_eq_true_eq, beq_iff_eq] at hn
    exact ⟨hn.1.1, hn.1.2, hn.2, (Option.some.inj h).symm⟩
  · cases h

-- A run that avoids the images of another does not reach any of them.
theorem CaseRun.image?_eq_none_of_avoids {r q : CaseRun} {n m : Nat}
    (hpos : 0 ≤ (r.first : Int) + r.offset)
    (h : q.avoids ((r.first : Int) + r.offset).toNat ((r.last : Int) + r.offset).toNat
      (Nat.beq r.step 2 || Nat.beq r.first r.last) = true)
    (hm : r.image? n = some m) : q.image? m = none := by
  rcases image?_eq_some hm with ⟨hfirst, hlast, hstep, rfl⟩
  cases hq : q.image? ((n : Int) + r.offset).toNat with
  | none => rfl
  | some k =>
    rcases image?_eq_some hq with ⟨qfirst, qlast, qstep, -⟩
    simp only [avoids, Bool.or_eq_true, Bool.and_eq_true, Nat.blt_eq, Nat.beq_eq] at h
    rcases h with h | h | ⟨htwo, hstepping, hodd⟩
    · omega
    · omega
    · rw [htwo] at qstep
      rcases hstepping with hr | hr
      · rw [hr] at hstep
        omega
      · omega

/-! ## Characters -/

/-- A character that lower case leaves alone wherever it stands. -/
def IsSettled (c : Char) : Prop := c ≠ 'Σ' ∧ lowerChar c = [c]

-- A character beyond ASCII that no run reaches is settled.
theorem isSettled_of_no_run {c : Char} (hsigma : c ≠ 'Σ') (hdot : c ≠ 'İ')
    (hascii : 0x80 ≤ c.toNat) (h : ∀ r ∈ lowerRuns.toList, r.image? c.toNat = none) :
    IsSettled c := by
  have hnone : lowerRuns.findSome? (·.image? c.toNat) = none :=
    Array.findSome?_eq_none_iff.2 fun r hr => h r (Array.mem_toList_iff.2 hr)
  refine ⟨hsigma, ?_⟩
  simp [lowerChar, lowerSimple, applyRuns, hdot, hnone, Nat.not_lt.2 hascii]

-- An ASCII character that is no capital is settled.
theorem isSettled_of_ascii {c : Char} (hascii : c.toNat < 0x80) (h : c.toLower = c) :
    IsSettled c := by
  have hne : ∀ d : Char, 0x80 ≤ d.toNat → c ≠ d := by
    rintro d hd rfl
    omega
  have hdot : (c == 'İ') = false := beq_eq_false_iff_ne.2 (hne _ (by decide))
  refine ⟨hne _ (by decide), ?_⟩
  simp [lowerChar, lowerSimple, hdot, hascii, h]

-- Of the ASCII characters lower case changes the capitals only.
theorem toLower_ofNat_of_not_capital :
    ∀ n < 0x80, n < 65 ∨ 90 < n → (Char.ofNat n).toLower = Char.ofNat n := by
  decide

-- The lower case of an ASCII character is one that lower case leaves alone.
theorem toLower_toLower_ofNat : ∀ n < 0x80, (Char.ofNat n).toLower.toNat < 0x80 ∧
    (Char.ofNat n).toLower.toLower = (Char.ofNat n).toLower := by
  decide

-- The lower case of an ASCII character is settled.
theorem isSettled_toLower {c : Char} (hascii : c.toNat < 0x80) : IsSettled c.toLower := by
  have h := toLower_toLower_ofNat c.toNat hascii
  rw [Char.ofNat_toNat] at h
  exact isSettled_of_ascii h.1 h.2

-- A valid code point is that of its character.
theorem toNat_ofNat_of_isValidChar {m : Nat} (h : m.isValidChar) : (Char.ofNat m).toNat = m := by
  rw [Char.ofNat, dif_pos h]
  rfl

-- The image of a character under a run is settled.
theorem isSettled_of_image {r : CaseRun} {n m : Nat} (hr : r ∈ lowerRuns.toList)
    (hm : r.image? n = some m) : IsSettled (Char.ofNat m) := by
  have hfinal := isFinal_of_mem_lowerRuns r hr
  rcases CaseRun.image?_eq_some hm with ⟨hfirst, hlast, -, hmn⟩
  simp only [CaseRun.isFinal, Bool.and_eq_true, Bool.or_eq_true, decide_eq_true_eq, Nat.blt_eq,
    List.all_eq_true] at hfinal
  rcases hfinal with ⟨⟨⟨⟨⟨⟨hpos, hmax⟩, hsurrogate⟩, hupper⟩, hdot⟩, hsigma⟩, havoids⟩
  have hnat : (Char.ofNat m).toNat = m := by
    apply toNat_ofNat_of_isValidChar
    simp only [Nat.isValidChar]
    omega
  have hne : ∀ d : Char, m ≠ d.toNat → Char.ofNat m ≠ d := by
    rintro d hd rfl
    exact hd hnat.symm
  by_cases hascii : m < 0x80
  · exact isSettled_of_ascii (by rwa [hnat]) (toLower_ofNat_of_not_capital m hascii (by omega))
  · refine isSettled_of_no_run (hne _ ?_) (hne _ ?_) (by omega) fun q hq => ?_
    · rw [show 'Σ'.toNat = 0x3A3 from rfl]
      omega
    · rw [show 'İ'.toNat = 0x130 from rfl]
      omega
    · rw [hnat]
      exact CaseRun.image?_eq_none_of_avoids hpos (havoids q hq) hm

-- Both forms of the small sigma are settled.
theorem isSettled_small_sigma (final : Bool) : IsSettled (if final then 'ς' else 'σ') := by
  cases final
  · exact isSettled_of_no_run (by decide) (by decide) (by decide) (by decide +kernel)
  · exact isSettled_of_no_run (by decide) (by decide) (by decide) (by decide +kernel)

-- The lower case of a character is settled.
theorem isSettled_of_mem_lowerChar {c d : Char} (hsigma : c ≠ 'Σ') (hd : d ∈ lowerChar c) :
    IsSettled d := by
  by_cases hdot : c = 'İ'
  · subst hdot
    have hd' : d = 'i' ∨ d = Char.ofNat 0x307 := by simpa [lowerChar] using hd
    rcases hd' with rfl | rfl
    · exact isSettled_of_ascii (by decide) (by decide)
    · exact isSettled_of_no_run (by decide) (by decide) (by decide) (by decide +kernel)
  · have hd' : d = lowerSimple c := by simpa [lowerChar, hdot] using hd
    subst hd'
    by_cases hascii : c.toNat < 0x80
    · rw [show lowerSimple c = c.toLower by simp [lowerSimple, hascii]]
      exact isSettled_toLower hascii
    · rw [show lowerSimple c = applyRuns lowerRuns c by simp [lowerSimple, hascii, hdot], applyRuns]
      cases hrun : lowerRuns.findSome? (·.image? c.toNat) with
      | none =>
        exact isSettled_of_no_run hsigma hdot (Nat.not_lt.1 hascii)
          fun r hr => Array.findSome?_eq_none_iff.1 hrun r (Array.mem_toList_iff.1 hr)
      | some m =>
        rcases Array.exists_of_findSome?_eq_some hrun with ⟨r, hr, hm⟩
        exact isSettled_of_image (Array.mem_toList_iff.2 hr) hm

/-! ## Texts -/

-- The lower case of a list of characters is settled, whatever precedes it.
theorem isSettled_of_mem_lowerFrom {before cs : List Char} {d : Char}
    (hd : d ∈ lowerFrom before cs) : IsSettled d := by
  induction cs generalizing before with
  | nil => simp [lowerFrom] at hd
  | cons c rest ih =>
    simp only [lowerFrom, List.mem_append] at hd
    rcases hd with hd | hd
    · split at hd
      · rw [List.mem_singleton] at hd
        subst hd
        exact isSettled_small_sigma _
      · rename_i hsigma
        exact isSettled_of_mem_lowerChar (by simpa using hsigma) hd
    · exact ih hd

-- Lower case leaves settled characters alone.
theorem lowerFrom_eq_self {before cs : List Char} (h : ∀ c ∈ cs, IsSettled c) :
    lowerFrom before cs = cs := by
  induction cs generalizing before with
  | nil => rfl
  | cons c rest ih =>
    rcases h c List.mem_cons_self with ⟨hsigma, hc⟩
    have hsigma' : (c == 'Σ') = false := beq_eq_false_iff_ne.2 hsigma
    simp only [lowerFrom, hsigma', Bool.false_eq_true, if_false, hc, List.singleton_append]
    rw [ih fun d hd => h d (List.mem_cons_of_mem c hd)]

-- Lower case is a normal form.
@[simp] theorem lower_lower (s : String) : lower (lower s) = lower s := by
  unfold lower
  rw [String.toList_ofList, lowerFrom_eq_self fun c hc => isSettled_of_mem_lowerFrom hc]

end ApiContract.Text
