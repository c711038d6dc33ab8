import ApiContract.Proofs.Schema.Located
import ApiContract.Text.Split

/-!
# What the text of a path tells

A path leads from a value to a part of it, step by step. Its text does not say where a step ends: a
slash may stand in the name of a member as well. So two paths to different parts of one value can read
alike, but only where an object has two members one of whose names is the other with a slash and more
behind it.
-/

namespace ApiContract

/-! ## Pieces of a text -/

namespace Text

variable {separator : Char} {front back : List Char} {parts : List (List Char)}

-- What begins with a separator leaves the parts in front of it as they are.
theorem splitChars_append_of_eq (h : splitChars separator back = [] :: parts) :
    splitChars separator (front ++ back) = splitChars separator front ++ parts := by
  induction front with
  | nil => exact h
  | cons c front ih =>
    rw [List.cons_append, splitChars, splitChars, ih]
    cases c == separator with
    | true => rfl
    | false =>
      cases hfront : splitChars separator front with
      | nil => exact absurd hfront (splitChars_ne_nil _ _)
      | cons part rest => rfl

-- The parts of a text make it up again, so that no other text has the same parts.
theorem splitChars_injective (separator : Char) : Function.Injective (splitChars separator) :=
  Function.LeftInverse.injective (intercalate_splitChars separator)

end Text

/-- The texts of the steps of a path, each cut at its slashes. -/
def pathPieces (path : List Step) : List (List Char) :=
  path.flatMap fun step => Text.splitChars '/' step.text.toList

variable {p q : List Step} {s t : String}

theorem pathText_cons (step : Step) (path : List Step) :
    pathText (step :: path) = "/" ++ step.text ++ pathText path := by
  rw [pathText, List.map_cons, String.join_cons, pathText]

-- The text of a path holds its pieces, a slash in front of each.
theorem splitChars_pathText (path : List Step) :
    Text.splitChars '/' (pathText path).toList = [] :: pathPieces path := by
  induction path with
  | nil => rfl
  | cons step path ih =>
    rw [pathText_cons, String.toList_append, String.toList_append, List.append_assoc]
    show [] :: Text.splitChars '/' (step.text.toList ++ (pathText path).toList) = _
    rw [Text.splitChars_append_of_eq ih]
    rfl

/-- Paths read alike exactly when they have the same pieces. -/
theorem pathText_eq_iff : pathText p = pathText q ↔ pathPieces p = pathPieces q := by
  rw [← String.toList_inj, ← (Text.splitChars_injective '/').eq_iff, splitChars_pathText,
    splitChars_pathText, List.cons.injEq]
  exact and_iff_right rfl

/-! ## Paths into one value -/

namespace Value

variable {v : Value} {name : String}

-- One value has either members or items.
theorem part?_cases {a b : Step} {x y : Value} (ha : v.part? a = some x) (hb : v.part? b = some y) :
    (∃ m n, a = .member m ∧ b = .member n) ∨ ∃ i j, a = .index i ∧ b = .index j := by
  cases v with
  | scalar s => cases a <;> cases ha
  | list items =>
    cases a with
    | member m => cases ha
    | index i =>
      cases b with
      | member n => cases hb
      | index j => exact Or.inr ⟨i, j, rfl, rfl⟩
  | object fields =>
    cases a with
    | index i => cases ha
    | member m =>
      cases b with
      | index j => cases hb
      | member n => exact Or.inl ⟨m, n, rfl, rfl⟩

theorem partAt?_append : partAt? (p ++ q) v = (partAt? p v).bind (partAt? q) := by
  induction p generalizing v with
  | nil => rfl
  | cons step p ih =>
    rw [List.cons_append, partAt?, partAt?, Option.bind_assoc]
    exact congrArg _ (funext fun _ => ih)

-- A path that goes on with a member comes to an object that has it.
theorem exists_object_of_hasPart (h : v.HasPart (p ++ .member name :: q)) :
    ∃ fields, partAt? p v = some (.object fields) ∧ hasField fields name = true := by
  obtain ⟨last, h⟩ := h
  rw [partAt?_append] at h
  obtain ⟨whole, hwhole, h⟩ := Option.bind_eq_some_iff.1 h
  obtain ⟨part, hpart, -⟩ := Option.bind_eq_some_iff.1 h
  cases whole with
  | object fields => exact ⟨fields, hwhole, Option.isSome_iff_exists.2 ⟨part, hpart⟩⟩
  | scalar s => cases hpart
  | list items => cases hpart

/-- No object in the value has two members one of whose names is the other with a slash and more
behind it. -/
def NamesApart (v : Value) : Prop :=
  ∀ path fields, partAt? path v = some (.object fields) → ∀ name rest,
    hasField fields name = true → hasField fields (name ++ "/" ++ rest) = false

-- Names are apart where they are in the value itself and in each part of it.
theorem namesApart_of_parts (hown : ∀ fields, v = .object fields → ∀ name rest,
      hasField fields name = true → hasField fields (name ++ "/" ++ rest) = false)
    (hparts : ∀ step part, v.part? step = some part → part.NamesApart) : v.NamesApart := by
  intro path fields hfields
  cases path with
  | nil => exact hown fields (Option.some.inj hfields)
  | cons step path =>
    obtain ⟨part, hpart, hfields⟩ := Option.bind_eq_some_iff.1 hfields
    exact hparts step part hpart path fields hfields

theorem namesApart_scalar (s : Scalar) : (Value.scalar s).NamesApart :=
  namesApart_of_parts nofun fun step _ h => by cases step <;> cases h

theorem namesApart_list {items : List Value} (h : ∀ item ∈ items, item.NamesApart) :
    (Value.list items).NamesApart := by
  refine namesApart_of_parts nofun fun step part hpart => ?_
  cases step with
  | member name => cases hpart
  | index i => exact h part (List.mem_of_getElem? hpart)

theorem namesApart_object {fields : Fields}
    (hown : ∀ name rest, hasField fields name = true → hasField fields (name ++ "/" ++ rest) = false)
    (h : ∀ f ∈ fields, f.2.NamesApart) : (Value.object fields).NamesApart := by
  refine namesApart_of_parts (by rintro _ ⟨⟩; exact hown) fun step part hpart => ?_
  cases step with
  | index i => cases hpart
  | member name => exact h _ (mem_of_lookup hpart)

end Value

/-- Behind a common beginning the first path goes on with a member, and the second one with another,
whose name is that of the first with a slash and more behind it. -/
def PartAtSlash (p q : List Step) : Prop :=
  ∃ stem name rest p' q', p = stem ++ .member name :: p' ∧
    q = stem ++ .member (name ++ "/" ++ rest) :: q'

theorem PartAtSlash.cons (step : Step) (h : PartAtSlash p q) :
    PartAtSlash (step :: p) (step :: q) := by
  obtain ⟨stem, name, rest, p', q', rfl, rfl⟩ := h
  exact ⟨step :: stem, name, rest, p', q', rfl, rfl⟩

-- Where names are apart no two paths part at a slash.
theorem PartAtSlash.not_namesApart {v : Value} (h : PartAtSlash p q) (hp : v.HasPart p)
    (hq : v.HasPart q) : ¬ v.NamesApart := by
  obtain ⟨stem, name, rest, p', q', rfl, rfl⟩ := h
  intro hapart
  obtain ⟨fields, hfields, hname⟩ := Value.exists_object_of_hasPart hp
  obtain ⟨fields', hfields', hlonger⟩ := Value.exists_object_of_hasPart hq
  obtain rfl : fields = fields' := by
    rw [hfields] at hfields'
    cases hfields'
    rfl
  rw [hapart stem fields hfields name rest hname] at hlonger
  cases hlonger

/-! ## Paths that read alike -/

-- Of two texts that go on to the same whole, one begins the other.
theorem exists_of_append_eq {a b : String} (h : s ++ a = t ++ b) :
    (∃ more, t = s ++ more ∧ a = more ++ b) ∨ ∃ more, s = t ++ more ∧ b = more ++ a := by
  have hchars : s.toList ++ a.toList = t.toList ++ b.toList := by
    rw [← String.toList_append, h, String.toList_append]
  rcases List.append_eq_append_iff.1 hchars with ⟨more, ht, ha⟩ | ⟨more, hs, hb⟩
  · refine Or.inl ⟨String.ofList more, ?_, ?_⟩ <;> apply String.toList_inj.1 <;> simpa
  · refine Or.inr ⟨String.ofList more, ?_, ?_⟩ <;> apply String.toList_inj.1 <;> simpa

-- The text of a path is empty or begins with a slash, and so does everything that it begins with.
theorem eq_empty_or_slash {more : String} (h : pathText p = more ++ t) :
    more = "" ∨ ∃ rest, more = "/" ++ rest := by
  cases p with
  | nil =>
    have hchars : more.toList ++ t.toList = [] := by
      rw [← String.toList_append, ← h]
      rfl
    exact Or.inl (String.toList_inj.1 (List.append_eq_nil_iff.1 hchars).1)
  | cons step path =>
    rw [pathText_cons, String.append_assoc] at h
    rcases exists_of_append_eq h with ⟨rest, hmore, -⟩ | ⟨rest, hslash, -⟩
    · exact Or.inr ⟨rest, hmore⟩
    · have hchars : ['/'] = more.toList ++ rest.toList := by
        rw [← String.toList_append, ← hslash]
        rfl
      rcases List.singleton_eq_append_iff.1 hchars with ⟨hmore, -⟩ | ⟨hmore, -⟩
      · exact Or.inl (String.toList_inj.1 hmore)
      · exact Or.inr ⟨"", String.toList_inj.1 hmore⟩

-- Two names that read alike with what follows them are the same, or one goes on behind a slash.
theorem name_cases (h : s ++ pathText p = t ++ pathText q) :
    s = t ∨ (∃ rest, t = s ++ "/" ++ rest) ∨ ∃ rest, s = t ++ "/" ++ rest := by
  rcases exists_of_append_eq h with ⟨more, rfl, hp⟩ | ⟨more, rfl, hq⟩
  · rcases eq_empty_or_slash hp with rfl | ⟨rest, rfl⟩
    · exact Or.inl (by rw [String.append_empty])
    · exact Or.inr (Or.inl ⟨rest, by rw [String.append_assoc]⟩)
  · rcases eq_empty_or_slash hq with rfl | ⟨rest, rfl⟩
    · exact Or.inl (by rw [String.append_empty])
    · exact Or.inr (Or.inr ⟨rest, by rw [String.append_assoc]⟩)

-- An index can be read back from its text.
theorem ofDigitChars_text_index (i : Nat) :
    Nat.ofDigitChars 10 (Step.index i).text.toList 0 = i := by
  rw [Step.text, Nat.toString_eq_repr, Nat.toList_repr, Nat.ofDigitChars_ten_toDigits]

-- An index is written in digits, so there is no slash in it.
theorem text_index_ne (i : Nat) (s rest : String) : (Step.index i).text ≠ s ++ "/" ++ rest := by
  intro h
  have hslash : '/' ∈ (Step.index i).text.toList := by
    rw [h, String.toList_append, String.toList_append]
    exact List.mem_append_left _ (List.mem_append_right _ List.mem_cons_self)
  have hdigit : ('/').isDigit = true :=
    Nat.isDigit_of_mem_toDigits (by decide) (by decide) (Nat.toList_repr ▸ hslash)
  exact absurd hdigit (by decide)

-- Paths into one value that differ in their first step and read alike part at a slash there.
theorem partAtSlash_of_ne {v x y : Value} {a b : Step} (ha : v.part? a = some x)
    (hb : v.part? b = some y) (hne : a ≠ b) (h : pathText (a :: p) = pathText (b :: q)) :
    PartAtSlash (a :: p) (b :: q) ∨ PartAtSlash (b :: q) (a :: p) := by
  have htexts : a.text ++ pathText p = b.text ++ pathText q := by
    rw [pathText_cons, pathText_cons, String.append_assoc, String.append_assoc] at h
    exact (String.append_right_inj "/").1 h
  rcases Value.part?_cases ha hb with ⟨m, n, rfl, rfl⟩ | ⟨i, j, rfl, rfl⟩
  · rcases name_cases htexts with hsame | ⟨rest, hlonger⟩ | ⟨rest, hlonger⟩
    · exact absurd (congrArg Step.member hsame) hne
    · obtain rfl : n = m ++ "/" ++ rest := hlonger
      exact Or.inl ⟨[], m, rest, p, q, rfl, rfl⟩
    · obtain rfl : m = n ++ "/" ++ rest := hlonger
      exact Or.inr ⟨[], n, rest, q, p, rfl, rfl⟩
  · rcases name_cases htexts with hsame | ⟨rest, hlonger⟩ | ⟨rest, hlonger⟩
    · have hindex : i = j := by
        rw [← ofDigitChars_text_index i, hsame, ofDigitChars_text_index]
      exact absurd (congrArg Step.index hindex) hne
    · exact absurd hlonger (text_index_ne j _ rest)
    · exact absurd hlonger (text_index_ne i _ rest)

/-- Paths to different parts of one value read alike only if they part at a slash. -/
theorem partAtSlash_of_pathText_eq {v : Value} (hp : v.HasPart p) (hq : v.HasPart q) (hne : p ≠ q)
    (h : pathText p = pathText q) : PartAtSlash p q ∨ PartAtSlash q p := by
  -- Induction on the steps that both paths begin with.
  induction p generalizing q v with
  | nil =>
    cases q with
    | nil => exact absurd rfl hne
    | cons b q =>
      rw [pathText_cons] at h
      exact absurd h.symm (by simp [pathText])
  | cons a p ih =>
    cases q with
    | nil =>
      rw [pathText_cons] at h
      exact absurd h (by simp [pathText])
    | cons b q =>
      obtain ⟨x, hx, hp⟩ := Value.hasPart_cons_iff.1 hp
      obtain ⟨y, hy, hq⟩ := Value.hasPart_cons_iff.1 hq
      by_cases hab : a = b
      · subst hab
        obtain rfl : x = y := Option.some.inj (hx.symm.trans hy)
        rw [pathText_cons, pathText_cons, String.append_right_inj] at h
        exact (ih hp hq (fun heq => hne (by rw [heq])) h).imp (.cons a) (.cons a)
      · exact partAtSlash_of_ne hx hy hab h

/-- Every violation that is reported in a value is at a part of it, or says what is missing in a part and
is reported one step further, as the third draft does. Paths to different parts of one value read alike
exactly when they are made of the same pieces, the names of members being cut at their slashes; then at
some object they go on with two members, the name of one of which is that of the other with a slash and
more behind it. So the text of a path tells the part in every value none of whose objects has two such
members. -/
theorem path_text_tells_part (v : Value) :
    (v.wellKeyed = true → ∀ options version direction schema check answer,
      Engine.compileSchema options version direction schema = .ok check →
      check v = .ok answer → ∀ w ∈ answer.violations, w.LiesIn v) ∧
    (∀ p q, v.HasPart p → v.HasPart q → p ≠ q →
      (pathText p = pathText q ↔ pathPieces p = pathPieces q) ∧
      (pathText p = pathText q → PartAtSlash p q ∨ PartAtSlash q p)) ∧
    (v.NamesApart → ∀ p q, v.HasPart p → v.HasPart q → pathText p = pathText q → p = q) := by
  refine ⟨fun hv _ _ _ _ _ _ hcheck hanswer _ => Engine.liesIn_of_compileSchema hcheck hv hanswer,
    fun p q hp hq hne => ⟨pathText_eq_iff, partAtSlash_of_pathText_eq hp hq hne⟩,
    fun hapart p q hp hq h => ?_⟩
  by_contra hne
  rcases partAtSlash_of_pathText_eq hp hq hne h with h | h
  · exact h.not_namesApart hp hq hapart
  · exact h.not_namesApart hq hp hapart

/-- An object with a slash in a name, no name that goes on to it, and an empty name. -/
def apartNames : Value :=
  .object [(.str "a/b", .list [.int 5]), (.str "b", .object [(.str "", .int 6)])]

/-- A schema that asks for texts in the places of the numbers of `apartNames`. -/
def apartNamesSchema : Value :=
  .object [(.str "properties", .object [
    (.str "a/b", .object [(.str "items", .object [(.str "type", .str "string")])]),
    (.str "b", .object [(.str "properties", .object [
      (.str "", .object [(.str "type", .str "string")])])])])]

theorem namesApart_apartNames : apartNames.NamesApart := by
  have hlist : (Value.list [.int 5]).NamesApart :=
    Value.namesApart_list (by simpa using Value.namesApart_scalar _)
  have hinner : (Value.object [(.str "", .int 6)]).NamesApart :=
    Value.namesApart_object (by simp [Value.hasField, Value.lookup])
      (by simpa using Value.namesApart_scalar _)
  refine Value.namesApart_object (fun name rest hname => ?_) (by simpa using ⟨hlist, hinner⟩)
  have hnames : ∀ s, Value.hasField [(.str "a/b", .list [.int 5]),
      (.str "b", .object [(.str "", .int 6)])] s = true → s = "a/b" ∨ s = "b" := by
    intro s hs
    obtain ⟨part, hpart⟩ := Option.isSome_iff_exists.1 hs
    have hfield := Value.mem_of_lookup hpart
    simp only [List.mem_cons, Prod.mk.injEq, Scalar.str.injEq, List.not_mem_nil, or_false] at hfield
    exact hfield.imp And.left And.left
  -- Neither name goes on as either of them behind a slash.
  refine Bool.eq_false_iff.2 fun hlonger => ?_
  rcases hnames name hname with rfl | rfl <;> rcases hnames _ hlonger with h | h <;>
    simpa using congrArg String.toList h

-- Both numbers are reported, and what is reported tells them apart.
theorem apartNames_told_apart : ∃ check answer,
    Engine.compileSchema { allErrors := true } (some "3.0.3") .request apartNamesSchema = .ok check ∧
    check apartNames = .ok answer ∧
    answer.violations.map (·.path) = [[.member "a/b", .index 0], [.member "b", .member ""]] ∧
    (∀ w ∈ answer.violations, w.LiesIn apartNames) ∧
    pathText [.member "a/b", .index 0] ≠ pathText [.member "b", .member ""] := by
  let check : Check := fun v =>
    Engine.verdict { allErrors := true } (Schema.check .v30 .request apartNamesSchema v)
  have hdialect : Dialect.ofVersion (some "3.0.3") = .v30 := by decide +kernel
  have hcompile : Engine.compileSchema { allErrors := true } (some "3.0.3") .request
      apartNamesSchema = .ok check := by
    rw [Engine.compileSchema, hdialect]
    rfl
  have hanswer : check apartNames = .ok ⟨false,
      [⟨[.member "a/b", .index 0], .wrongType (.int 5) [.str "string"]⟩,
        ⟨[.member "b", .member ""], .wrongType (.int 6) [.str "string"]⟩]⟩ := rfl
  obtain ⟨hreported, halike, hapart⟩ := path_text_tells_part apartNames
  refine ⟨check, _, hcompile, hanswer, rfl, hreported (by decide) _ _ _ _ _ _ hcompile hanswer,
    fun h => ?_⟩
  exact absurd (hapart namesApart_apartNames _ _ ⟨_, rfl⟩ ⟨_, rfl⟩ h) (by decide)

/-- An object with a slash in one name, where another name and what is behind it read the same. -/
def slashedNames : Value :=
  .object [(.str "a/b", .int 1), (.str "a", .object [(.str "b", .int 1)])]

/-- A schema that asks for texts in the places of the numbers of `slashedNames`. -/
def slashedNamesSchema : Value :=
  .object [(.str "properties", .object [
    (.str "a/b", .object [(.str "type", .str "string")]),
    (.str "a", .object [(.str "properties", .object [
      (.str "b", .object [(.str "type", .str "string")])])])])]

-- Two parts are reported, and what is reported of them is the same.
theorem slashedNames_reported_alike : slashedNames.wellKeyed = true ∧
    slashedNames.HasPart [.member "a/b"] ∧ slashedNames.HasPart [.member "a", .member "b"] ∧
    [Step.member "a/b"] ≠ [.member "a", .member "b"] ∧
    pathText [.member "a/b"] = pathText [.member "a", .member "b"] ∧
    ∃ check answer,
      Engine.compileSchema { allErrors := true } (some "3.0.3") .request slashedNamesSchema =
        .ok check ∧
      check slashedNames = .ok answer ∧
      answer.violations.map (·.path) = [[.member "a/b"], [.member "a", .member "b"]] ∧
      answer.violations.map Suggestion.ofViolation =
        [⟨"/a/b", "1 is not of type 'string'"⟩, ⟨"/a/b", "1 is not of type 'string'"⟩] := by
  let check : Check := fun v =>
    Engine.verdict { allErrors := true } (Schema.check .v30 .request slashedNamesSchema v)
  have hdialect : Dialect.ofVersion (some "3.0.3") = .v30 := by decide +kernel
  have hcompile : Engine.compileSchema { allErrors := true } (some "3.0.3") .request
      slashedNamesSchema = .ok check := by
    rw [Engine.compileSchema, hdialect]
    rfl
  have hanswer : check slashedNames = .ok ⟨false,
      [⟨[.member "a/b"], .wrongType (.int 1) [.str "string"]⟩,
        ⟨[.member "a", .member "b"], .wrongType (.int 1) [.str "string"]⟩]⟩ := rfl
  refine ⟨by decide, ⟨_, rfl⟩, ⟨_, rfl⟩, by decide, by decide, check, _, hcompile, hanswer, rfl, ?_⟩
  decide +kernel

end ApiContract
