import ApiContract.Proofs.Contract.Pair
import ApiContract.Proofs.Schema.Outcome

/-!
# The options of a contract

Options decide which documents are accepted and how much of a rejection is reported, side by side for
requests and responses. They decide nothing else: strict mode leaves no trace in what is compiled, no
side looks at the options of the other, and asking for all violations adds to what is reported
without changing the answer.
-/

namespace ApiContract

/-! ## Engines with different options -/

-- A side of the options that is no stricter compiles whatever the other one does: the same outcomes,
-- reported as each asks for.
theorem Engine.follows_standard {options options' : EngineOptions} {R : Check → Check → Prop}
    (hstrict : options'.strict = true → options.strict = true) (version : Option String)
    (hR : ∀ outcome : Value → Outcome,
      R (fun v => verdict options (outcome v)) (fun v => verdict options' (outcome v))) :
    (standard options version).Follows R (standard options' version) := by
  intro direction schema check hcompile
  rcases compileSchema_eq_ok_iff.1 hcompile with
    ⟨hschema, hproblems, hdialect, prepared, hprepared, rfl⟩
  refine ⟨_, compileSchema_eq_ok_iff.2 ⟨hschema, ?_, hdialect, prepared, hprepared, rfl⟩, hR _⟩
  exact fun h => hproblems (hstrict h)

-- Which violations are reported depends on one flag.
theorem Engine.verdict_congr {options options' : EngineOptions}
    (h : options.allErrors = options'.allErrors) (o : Outcome) :
    verdict options o = verdict options' o := by
  rw [verdict, verdict, h]

/-- The first options demand no more of a document than the second ones do. -/
structure ContractOptions.Milder (mild options : ContractOptions) : Prop where
  request : mild.request.strict = true → options.request.strict = true
  response : mild.response.strict = true → options.response.strict = true
  validateDocument : mild.validateDocument = true → options.validateDocument = true

namespace Contract

variable {options mild : ContractOptions} {document : Value} {c c' : Contract}
  {R T : Check → Check → Prop}

-- A contract that can be had with some options can be had with milder ones.
theorem follows_ofDocument (hmild : mild.Milder options)
    (hR : ∀ outcome : Value → Outcome, R (fun v => Engine.verdict options.request (outcome v))
      (fun v => Engine.verdict mild.request (outcome v)))
    (hT : ∀ outcome : Value → Outcome, T (fun v => Engine.verdict options.response (outcome v))
      (fun v => Engine.verdict mild.response (outcome v))) (document : Value) :
    Result.Follows (Related R T) (ofDocument options document) (ofDocument mild document) := by
  have hindex : Result.Follows (PathIndex.Related R T) _ _ :=
    PathIndex.follows_build (Engine.follows_standard hmild.request (statedVersion document) hR)
      (Engine.follows_standard hmild.response (statedVersion document) hT) document
  have hcontract := hindex.bind (S := Related R T)
    (f := fun index => .ok ⟨statedVersion document, index⟩)
    (g := fun index => .ok ⟨statedVersion document, index⟩) fun index index' h => .ok ⟨rfl, h⟩
  unfold ofDocument build
  cases hvalid : Document.isValid document with
  | true =>
    rw [Bool.not_true, Bool.and_false, Bool.and_false]
    exact hcontract
  | false =>
    rw [Bool.not_false, Bool.and_true, Bool.and_true]
    by_cases h : options.validateDocument = true
    · rw [if_pos h]
      exact .error
    · have h' : ¬ mild.validateDocument = true := fun h' => h (hmild.validateDocument h')
      rw [if_neg h, if_neg h']
      exact hcontract

/-! ## Interference -/

-- Whatever options are milder, each side answers as before when it reports as before.
theorem exists_ofDocument_mild (hmild : mild.Milder options)
    (hc : ofDocument options document = .ok c) :
    ∃ c', ofDocument mild document = .ok c' ∧
      (options.request.allErrors = mild.request.allErrors →
        ∀ call, c.answerRequest call = c'.answerRequest call) ∧
      (options.response.allErrors = mild.response.allErrors →
        ∀ call, c.answerResponse call = c'.answerResponse call) := by
  have hverdict : ∀ {side side' : EngineOptions} (outcome : Value → Outcome),
      side.allErrors = side'.allErrors → (fun v => Engine.verdict side (outcome v)) =
        fun v => Engine.verdict side' (outcome v) := fun outcome h =>
    funext fun v => Engine.verdict_congr h (outcome v)
  -- The checks of a side are equal on the condition that it reports as before.
  rcases follows_ofDocument
      (R := fun check check' => options.request.allErrors = mild.request.allErrors → check = check')
      (T := fun check check' =>
        options.response.allErrors = mild.response.allErrors → check = check')
      hmild hverdict hverdict document c hc with ⟨c', hc', hrelated⟩
  refine ⟨c', hc', fun hsame call => ?_, fun hsame call => ?_⟩
  · exact hrelated.carry_answerRequest (carries_eq.mono fun _ _ h => h hsame) call
  · exact hrelated.carry_answerResponse (carries_eq.mono fun _ _ h => h hsame) call

-- Milder options that report as before on both sides give the same contract.
theorem ofDocument_mild (hmild : mild.Milder options)
    (hrequest : options.request.allErrors = mild.request.allErrors)
    (hresponse : options.response.allErrors = mild.response.allErrors)
    (hc : ofDocument options document = .ok c) : ofDocument mild document = .ok c := by
  rcases follows_ofDocument (R := Eq) (T := Eq) hmild
      (fun outcome => funext fun v => Engine.verdict_congr hrequest (outcome v))
      (fun outcome => funext fun v => Engine.verdict_congr hresponse (outcome v))
      document c hc with ⟨c', hc', hrelated⟩
  rw [hrelated.eq, hc']

/-- No side depends on the options of the other, nor on strict mode. Two contracts of one document
answer every request alike when the same is to be reported of requests, and every response alike when
the same is to be reported of responses. And where there is a contract in strict mode, leaving strict
mode on either side gives that very contract. -/
theorem options_do_not_interfere (document : Value) :
    (∀ options options' c c', ofDocument options document = .ok c →
      ofDocument options' document = .ok c' →
        (options.request.allErrors = options'.request.allErrors →
          ∀ call, c.answerRequest call = c'.answerRequest call) ∧
        (options.response.allErrors = options'.response.allErrors →
          ∀ call, c.answerResponse call = c'.answerResponse call)) ∧
    ∀ options c, ofDocument options document = .ok c →
      ofDocument { options with request.strict := false } document = .ok c ∧
        ofDocument { options with response.strict := false } document = .ok c := by
  constructor
  · intro options options' c c' hc hc'
    constructor
    · intro hsame call
      let mild : ContractOptions := { request.allErrors := options.request.allErrors }
      have hmild : ∀ o, mild.Milder o := fun o => ⟨nofun, nofun, nofun⟩
      rcases exists_ofDocument_mild (hmild options) hc with ⟨d, hd, heq, -⟩
      rcases exists_ofDocument_mild (hmild options') hc' with ⟨d', hd', heq', -⟩
      obtain rfl : d = d' := Except.ok.inj (hd.symm.trans hd')
      rw [heq rfl, heq' hsame.symm]
    · intro hsame call
      let mild : ContractOptions := { response.allErrors := options.response.allErrors }
      have hmild : ∀ o, mild.Milder o := fun o => ⟨nofun, nofun, nofun⟩
      rcases exists_ofDocument_mild (hmild options) hc with ⟨d, hd, -, heq⟩
      rcases exists_ofDocument_mild (hmild options') hc' with ⟨d', hd', -, heq'⟩
      obtain rfl : d = d' := Except.ok.inj (hd.symm.trans hd')
      rw [heq rfl, heq' hsame.symm]
  · intro options c hc
    have hrequest : ContractOptions.Milder { options with request.strict := false } options :=
      ⟨nofun, id, id⟩
    have hresponse : ContractOptions.Milder { options with response.strict := false } options :=
      ⟨id, nofun, id⟩
    exact ⟨ofDocument_mild hrequest rfl rfl hc, ofDocument_mild hresponse rfl rfl hc⟩

end Contract

/-! ## All violations and the first -/

/-- An error abridges another one: it is the same up to the violations, of which it keeps the first,
if there are any. -/
structure ContractError.Abridges (short e : ContractError) : Prop where
  kind_eq : short.kind = e.kind
  code_eq : short.code = e.code
  location_eq : short.location = e.location
  message_eq : short.message = e.message
  of_nil : e.violations = [] → short.violations = []
  of_cons : ∀ v rest, e.violations = v :: rest → short.violations = [v] ∧
    short.suggestions = [.ofViolation v] ∧ .ofViolation v ∈ e.suggestions

/-- How the result of a computation that reports all violations determines the result of the one that
reports the first. -/
structure Abridged {α : Type} (all first : Except Failure α) : Prop where
  ok_iff : ∀ a, first = .ok a ↔ all = .ok a
  /-- An error stays what it is, but for its violations. -/
  typed : ∀ failure, all = .error failure → failure.isTyped = true →
    ∃ e short, failure = .contract e ∧ first = .error (.contract short) ∧ short.Abridges e
  /-- A fault that the first violation does not keep from sight is there for all of them. -/
  untyped : ∀ failure, first = .error failure → failure.isTyped = false → all = .error failure

/-- The result of a computation over checks that report all violations, beside its result over the
same checks that report the first. -/
inductive FirstOfAll {α : Type} : Except Failure α → Except Failure α → Prop
  | ok (a : α) : FirstOfAll (.ok a) (.ok a)
  | plain {failure : Failure} (h : failure.Plain) : FirstOfAll (.error failure) (.error failure)
  | violated (e : ContractError) (v : Violation) (rest : List Violation) :
    FirstOfAll (.error (.contract { e with violations := v :: rest }))
      (.error (.contract { e with violations := [v] }))
  /-- A fault stands behind the first violation. -/
  | behind (f : Fault) (e : ContractError) (v : Violation) :
    FirstOfAll (.error (.fault f)) (.error (.contract { e with violations := [v] }))

-- The first of several violations is among those that are written down.
theorem ContractError.abridges (e : ContractError) (v : Violation) (rest : List Violation) :
    ({ e with violations := [v] } : ContractError).Abridges { e with violations := v :: rest } := by
  refine ⟨rfl, rfl, rfl, rfl, nofun, ?_⟩
  rintro w others h
  obtain ⟨rfl, rfl⟩ := List.cons.inj h
  refine ⟨rfl, List.mergeSort_singleton _, ?_⟩
  exact List.mem_mergeSort.2 (List.mem_map.2 ⟨v, List.mem_cons_self, rfl⟩)

namespace FirstOfAll

variable {α β : Type} {all first : Except Failure α}

theorem abridged (h : FirstOfAll all first) : Abridged all first := by
  cases h with
  | ok a => exact ⟨fun _ => Iff.rfl, nofun, nofun⟩
  | plain h =>
    refine ⟨fun _ => Iff.rfl, fun failure hfailure htyped => ?_, fun _ hfailure _ => hfailure⟩
    obtain rfl := Except.error.inj hfailure
    cases h with
    | fault f => cases htyped
    | @contract e hnil =>
      refine ⟨e, e, rfl, rfl, rfl, rfl, rfl, rfl, id, fun v rest hcons => ?_⟩
      rw [hnil] at hcons
      cases hcons
  | violated e v rest =>
    refine ⟨fun a => ⟨nofun, nofun⟩, fun failure hfailure _ => ?_,
      fun failure hfailure huntyped => ?_⟩
    · exact ⟨_, _, (Except.error.inj hfailure).symm, rfl, e.abridges v rest⟩
    · obtain rfl := Except.error.inj hfailure
      cases huntyped
  | behind f e v =>
    refine ⟨fun a => ⟨nofun, nofun⟩, fun failure hfailure htyped => ?_,
      fun failure hfailure huntyped => ?_⟩
    · obtain rfl := Except.error.inj hfailure
      cases htyped
    · obtain rfl := Except.error.inj hfailure
      cases huntyped

-- The first failure of a sequence is the only one, and only a success is followed by another step.
theorem bind {f g : α → Except Failure β} (h : FirstOfAll all first)
    (hstep : ∀ a, FirstOfAll (f a) (g a)) : FirstOfAll (all >>= f) (first >>= g) := by
  cases h with
  | ok a => exact hstep a
  | plain h => exact .plain h
  | violated e v rest => exact .violated e v rest
  | behind f e v => exact .behind f e v

end FirstOfAll

/-- Two checks come to the same outcomes; one reports all violations, the other the first. -/
def Check.CutOff (all first : Check) : Prop :=
  ∀ v, ∃ o, all v = Engine.verdict { allErrors := true } o ∧ first v = Engine.verdict {} o

-- An outcome with violations is a rejection for both, unless a fault behind the first violation
-- stops the one that goes on.
theorem firstOfAll_typedAnswer (e : ContractError) (o : Outcome) :
    FirstOfAll
      (typedAnswer (fun violations => { e with violations })
        (Engine.verdict { allErrors := true } o))
      (typedAnswer (fun violations => { e with violations }) (Engine.verdict {} o)) := by
  rcases o with ⟨violations, fault⟩
  cases violations with
  | nil =>
    cases fault with
    | none => exact .ok _
    | some f => exact .plain (.fault f)
  | cons v rest =>
    cases fault with
    | none => exact .violated e v rest
    | some f => exact .behind f e v

theorem carries_firstOfAll : Carries Check.CutOff (fun _ => FirstOfAll) := by
  refine ⟨.ok, .plain, .bind, ?_⟩
  intro all first hchecks e v
  rcases hchecks v with ⟨o, hall, hfirst⟩
  rw [hall, hfirst]
  exact firstOfAll_typedAnswer e o

/-- The same options with other things to be reported. -/
def ContractOptions.reporting (options : ContractOptions) (request response : Bool) :
    ContractOptions :=
  { options with request.allErrors := request, response.allErrors := response }

namespace Contract

/-- Asking for all errors changes only how many violations are reported. Where a document has a
contract, it also has one with other things to be reported, and on each side the result of reporting
the first violation is the result of reporting all of them, abridged. -/
theorem allErrors_only_adds_violations (document : Value) (options : ContractOptions) (c : Contract)
    (hc : ofDocument options document = .ok c) (request response : Bool) :
    ∃ c', ofDocument (options.reporting request response) document = .ok c' ∧
      (options.request.allErrors = true → request = false →
        ∀ call, Abridged (c.answerRequest call) (c'.answerRequest call)) ∧
      (options.response.allErrors = true → response = false →
        ∀ call, Abridged (c.answerResponse call) (c'.answerResponse call)) := by
  have hcut : ∀ (side side' : EngineOptions) (outcome : Value → Outcome),
      side.allErrors = true → side'.allErrors = false →
        Check.CutOff (fun v => Engine.verdict side (outcome v))
          (fun v => Engine.verdict side' (outcome v)) := fun _ _ outcome hall hfirst v =>
    ⟨outcome v, Engine.verdict_congr hall _, Engine.verdict_congr hfirst _⟩
  have hmild : (options.reporting request response).Milder options := ⟨id, id, id⟩
  rcases follows_ofDocument
      (R := fun check check' =>
        options.request.allErrors = true → request = false → Check.CutOff check check')
      (T := fun check check' =>
        options.response.allErrors = true → response = false → Check.CutOff check check')
      hmild (hcut options.request (options.reporting request response).request)
      (hcut options.response (options.reporting request response).response)
      document c hc with ⟨c', hc', hrelated⟩
  refine ⟨c', hc', fun hall hfirst call => ?_, fun hall hfirst call => ?_⟩
  · refine (hrelated.carry_answerRequest (carries_firstOfAll.mono fun _ _ h => ?_) call).abridged
    exact h hall hfirst
  · refine (hrelated.carry_answerResponse (carries_firstOfAll.mono fun _ _ h => ?_) call).abridged
    exact h hall hfirst

end Contract

/-! ## A request with two violations -/

/-- The violations that a result names. -/
def violationsIn {α : Type} : Except Failure α → List Violation
  | .error (.contract e) => e.violations
  | _ => []

/-- A document whose things have to have a colour and a size. -/
def colouredThings : Value :=
  .object [(.str "paths", .object [(.str "/things", .object [(.str "post", .object
    [(.str "requestBody", .object [(.str "content", .object [(.str "application/json",
      .object [(.str "schema", .object
        [(.str "required", .list [.str "colour", .str "size"])])])])])])])])]

/-- A thing with neither, to be posted. -/
def bareThing : RequestCall :=
  .byPath (.str "/things") (.str "POST") (.object [(.str "body", .object [])])

namespace Contract

-- Of two things that are missing, the first is reported alone when the first is asked for.
theorem abridged_of_two_missing : ∃ c c',
    ofDocument { request.allErrors := true } colouredThings = .ok c ∧
      ofDocument {} colouredThings = .ok c' ∧
      Abridged (c.answerRequest bareThing) (c'.answerRequest bareThing) ∧
      violationsIn (c.answerRequest bareThing) =
        [.here (.missing (.str "colour")), .here (.missing (.str "size"))] := by
  have hviolations : violationsIn (ofDocument { request.allErrors := true } colouredThings >>=
      fun c => c.answerRequest bareThing) =
        [.here (.missing (.str "colour")), .here (.missing (.str "size"))] := by decide +kernel
  have hbuild : ∃ c, ofDocument { request.allErrors := true } colouredThings = .ok c :=
    Result.exists_of_isOk (by decide +kernel)
  rcases hbuild with ⟨c, hc⟩
  rcases allErrors_only_adds_violations _ _ c hc false false with ⟨c', hc', hrequest, -⟩
  rw [hc] at hviolations
  exact ⟨c, c', hc, hc', hrequest rfl rfl bareThing, hviolations⟩

-- What is reported of responses does not change what is reported of a request, nor does strict mode.
theorem same_answer_of_two_missing : ∃ c c',
    ofDocument { request := ⟨true, true⟩ } colouredThings = .ok c ∧
      ofDocument { request := ⟨true, false⟩, response := ⟨true, true⟩ } colouredThings = .ok c' ∧
      c.answerRequest bareThing = c'.answerRequest bareThing ∧
      ofDocument { request := ⟨true, false⟩ } colouredThings = .ok c := by
  have hbuild : ∃ c, ofDocument { request := ⟨true, true⟩ } colouredThings = .ok c :=
    Result.exists_of_isOk (by decide +kernel)
  have hbuild' : ∃ c, ofDocument { request := ⟨true, false⟩, response := ⟨true, true⟩ }
      colouredThings = .ok c := Result.exists_of_isOk (by decide +kernel)
  rcases hbuild with ⟨c, hc⟩
  rcases hbuild' with ⟨c', hc'⟩
  have h := options_do_not_interfere colouredThings
  exact ⟨c, c', hc, hc', (h.1 _ _ c c' hc hc').1 rfl bareThing, (h.2 _ c hc).1⟩

end Contract

end ApiContract
