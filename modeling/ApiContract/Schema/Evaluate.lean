import ApiContract.Schema.Keyword
import ApiContract.Schema.Rule.Unevaluated

/-!
# Evaluating a schema

A schema is evaluated keyword by keyword in the order in which it is written; names that the dialect, or
the draft, does not check are passed over. Schemas inside it, and schemas that it refers to, are evaluated
one level deeper, each in the draft that it declares. Levels are counted, so that references in a circle
come to an end.
-/

namespace ApiContract.Schema

/-- What one keyword demands of a value. `siblings` are the fields of the schema that holds the
keyword, `arg` is the keyword's value, and `depth` levels are left. -/
def checkKeyword (ctx : Context) (judges : Context → Judge) (depth : Nat) (siblings : Fields)
    (arg v : Value) : Keyword → Outcome
  | .multipleOf => Rule.multipleOf arg v
  | .maximum => Rule.inclusiveBound ctx siblings .greatest arg v
  | .minimum => Rule.inclusiveBound ctx siblings .least arg v
  | .exclusiveMaximum => Rule.numberBound .greatest true arg v
  | .exclusiveMinimum => Rule.numberBound .least true arg v
  | .maxLength => Rule.textSize .greatest arg v
  | .minLength => Rule.textSize .least arg v
  | .pattern => Rule.pattern arg v
  | .format => Rule.format ctx arg v
  | .maxItems => Rule.listSize .greatest arg v
  | .minItems => Rule.listSize .least arg v
  | .uniqueItems => Rule.uniqueItems arg v
  | .items => Rule.items ctx (judges ctx) siblings arg v
  | .prefixItems => Rule.prefixItems (judges ctx) arg v
  | .additionalItems => Rule.additionalItems (judges ctx) siblings arg v
  | .contains => Rule.contains ctx (judges ctx) siblings arg v
  | .unevaluatedItems => Rule.unevaluatedItems ctx judges depth siblings v
  | .maxProperties => Rule.objectSize .greatest arg v
  | .minProperties => Rule.objectSize .least arg v
  | .required => Rule.required arg v
  | .properties => Rule.properties ctx (judges ctx) arg v
  | .patternProperties => Rule.patternProperties (judges ctx) arg v
  | .additionalProperties => Rule.additionalProperties ctx (judges ctx) siblings arg v
  | .propertyNames => Rule.propertyNames (judges ctx) arg v
  | .dependentRequired => Rule.dependentRequired arg v
  | .dependentSchemas => Rule.dependentSchemas (judges ctx) arg v
  | .dependencies => Rule.dependencies ctx (judges ctx) arg v
  | .unevaluatedProperties => Rule.unevaluatedProperties ctx judges depth siblings arg v
  | .enum => Rule.enum arg v
  | .const => Rule.const arg v
  | .type => Rule.type ctx (judges ctx) siblings arg v
  | .disallow => Rule.disallow ctx (judges ctx) arg v
  | .allOf => Rule.allOf (judges ctx) arg v
  | .anyOf => Rule.anyOf (judges ctx) arg v
  | .oneOf => Rule.oneOf (judges ctx) arg v
  | .not => Rule.not (judges ctx) arg v
  | .extension => Rule.extension (judges ctx) arg v
  | .ifThenElse => Rule.ifThenElse (judges ctx) siblings arg v
  | .reference => .ofResult do return (judges ctx).apply (← resolveValue ctx.root arg) v
  | .recursiveReference => (judges ctx).apply ctx.root v
  | .readOnly => Rule.visibility ctx .readOnly arg
  | .writeOnly => Rule.visibility ctx .writeOnly arg

/-- What one field of a schema demands of a value. -/
def checkField (ctx : Context) (judges : Context → Judge) (depth : Nat) (siblings : Fields)
    (v : Value) (field : Scalar × Value) : Outcome :=
  match field with
  | (.str name, arg) =>
    match ctx.keyword? name with
    | some keyword => checkKeyword ctx judges depth siblings arg v keyword
    | none => .valid
  | _ => .valid

/-- Evaluate an inner schema, given by its fields, on a value, with a number of levels left. The draft
that it declares counts from here on. -/
def evaluate : Nat → Context → Judge
  | 0, _, _, _ => .stopped .endlessReference
  | depth + 1, ctx, fields, v =>
    .ofResult do
      let inner ← ctx.inside fields
      return .each (checkField inner (evaluate depth) depth fields v) (ctx.applicable fields)

/-- Enough levels for every evaluation that comes to an end: a schema and a part of the value that
meet twice on one way down, under the same draft or under none, meet for ever. A property name is a part
too. -/
def levels (root v : Value) : Nat := 7 * root.nodes * (2 * v.nodes + 1) + 1

/-- What the fields of a whole schema demand of a value. A draft that it declares itself does not count
for them. -/
def checkFields (ctx : Context) (depth : Nat) : Judge := fun fields v =>
  .each (checkField ctx (evaluate depth) depth fields v) fields

/-- Check a value against a prepared schema. -/
def check (dialect : Dialect) (direction : Direction) (root v : Value) : Outcome :=
  Judge.apply (checkFields ⟨dialect, direction, root, none⟩ (levels root v)) root v

end ApiContract.Schema
