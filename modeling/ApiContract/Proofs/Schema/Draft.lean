import ApiContract.Direction
import ApiContract.Proofs.Result
import ApiContract.Proofs.Value.Keys
import ApiContract.Schema.Judge

/-!
# Drafts of schemas

What a draft that a schema declares changes, and what it leaves as it is. Only a known draft changes
something, and none of the drafts knows the flags of properties.
-/

namespace ApiContract.Schema

/-- The schema declares no draft that is known. -/
def Undeclared (schema : Value) : Prop :=
  ∀ fields, schema = .object fields → ∀ draft, Draft.declared? fields ≠ .ok (some draft)

theorem undeclared_of_lookup {fields : Fields} (h : Value.lookup fields "$schema" = none) :
    Undeclared (.object fields) := by
  rintro _ ⟨⟩ draft
  rw [Draft.declared?, h]
  exact nofun

namespace Context

variable {ctx : Context} {fields : Fields}

theorem inside_of_undeclared (h : Draft.declared? fields = .ok none) :
    ctx.inside fields = .ok ctx := by
  rw [inside, h]
  rfl

-- Without a reference nothing is hidden beside it.
theorem applicable_of_lookup (h : Value.lookup fields "$ref" = none) :
    ctx.applicable fields = fields := by
  unfold applicable
  rw [h]

-- Without a draft nothing is hidden beside a reference.
theorem applicable_of_no_draft (hdraft : ctx.draft = none) (fields : Fields) :
    ctx.applicable fields = fields := by
  unfold applicable
  rw [hdraft]
  cases Value.lookup fields "$ref" with
  | none => rfl
  | some reference => cases reference <;> rfl

-- No draft checks a flag.
theorem keyword?_flag_of_draft {draft : Draft} (hdraft : ctx.draft = some draft)
    (flag : Visibility) : ctx.keyword? flag.keyword = none := by
  simp only [keyword?, hdraft]
  cases draft <;> cases flag <;> decide

end Context

end ApiContract.Schema
