import Vermyth.Schema.Program

set_option autoImplicit false

namespace Vermyth

abbrev Context := List (String × Scalar)

-- _eval_condition. The comparisons and contains raise a TypeError when the
-- value the schema let through does not compare with the context's value.
def evalCondition (expr : Option ConditionExpr) (context : Context) : Except PyError Bool :=
  match expr with
  | none => .ok true
  | some expr =>
      if expr.key = "" then .ok false
      else
        let got := context.lookup expr.key
        match expr.op with
        | .present => .ok got.isSome
        | .eq => .ok (pyEq got expr.value)
        | .neq => .ok (!pyEq got expr.value)
        | .compare order =>
            match got with
            | none => .ok false
            | some got => pyOrder order got expr.value
        | .contains =>
            match got with
            | none => .ok false
            | some got => pyIn expr.value got

def evalConditions (context : Context) : List Condition → Except PyError (List ConditionResult)
  | [] => .ok []
  | condition :: rest =>
      match evalCondition condition.expr context with
      | .error raised => .error raised
      | .ok ok =>
          match evalConditions context rest with
          | .error raised => .error raised
          | .ok results => .ok ({ predicate := condition.predicate, ok := ok } :: results)

def conditionsHold (context : Context) (conditions : List Condition) : Bool :=
  match evalConditions context conditions with
  | .error _ => false
  | .ok results => results.all ConditionResult.ok

theorem conditions_hold_ok (context : Context) (conditions : List Condition) (results : List ConditionResult)
    (evaluated : evalConditions context conditions = .ok results) :
    conditionsHold context conditions = results.all ConditionResult.ok := by
  rw [conditionsHold, evaluated]

def preContext (predResults : List CastResult) : Context :=
  [("pred_count", .int predResults.length), ("has_parent", .bool (bestResonance predResults).isSome)]

def postContext (result : CastResult) : Context :=
  [("adjusted_resonance", .float result.adjusted), ("verdict", .str result.verdict.verdictType.value)]

abbrev ContextType := List (String × ScalarType)

def preContextType : ContextType := [("pred_count", .int), ("has_parent", .bool)]
def postContextType : ContextType := [("adjusted_resonance", .float), ("verdict", .str)]

def Context.type (context : Context) : ContextType := context.map fun entry => (entry.1, entry.2.type)

theorem pre_context_type (predResults : List CastResult) : (preContext predResults).type = preContextType := rfl
theorem post_context_type (result : CastResult) : (postContext result).type = postContextType := rfl

def Orderable (type : ScalarType) (value : Json) : Prop :=
  match type with
  | .str => value.text?.isSome
  | _ => value.number?.isSome

instance (type : ScalarType) (value : Json) : Decidable (Orderable type value) :=
  match type with
  | .int => inferInstanceAs (Decidable (value.number?.isSome = true))
  | .bool => inferInstanceAs (Decidable (value.number?.isSome = true))
  | .float => inferInstanceAs (Decidable (value.number?.isSome = true))
  | .str => inferInstanceAs (Decidable (value.text?.isSome = true))

def Searchable (type : ScalarType) (value : Json) : Prop := type = .str ∧ value.text?.isSome

instance (type : ScalarType) (value : Json) : Decidable (Searchable type value) :=
  inferInstanceAs (Decidable (_ ∧ _))

-- The condition compares what the context holds with a value of a type
-- Python can compare it with. Keys outside the context are never compared.
def ConditionExpr.WellTyped (expr : ConditionExpr) (types : ContextType) : Prop :=
  match expr.op with
  | .present => True
  | .eq => True
  | .neq => True
  | .compare _ => ∀ type ∈ types.lookup expr.key, Orderable type expr.value
  | .contains => ∀ type ∈ types.lookup expr.key, Searchable type expr.value

instance (expr : ConditionExpr) (types : ContextType) : Decidable (expr.WellTyped types) :=
  match h : expr.op with
  | .present => isTrue (by simp [ConditionExpr.WellTyped, h])
  | .eq => isTrue (by simp [ConditionExpr.WellTyped, h])
  | .neq => isTrue (by simp [ConditionExpr.WellTyped, h])
  | .compare _ => decidable_of_iff (∀ type ∈ types.lookup expr.key, Orderable type expr.value)
      (by simp [ConditionExpr.WellTyped, h])
  | .contains => decidable_of_iff (∀ type ∈ types.lookup expr.key, Searchable type expr.value)
      (by simp [ConditionExpr.WellTyped, h])

def Condition.WellTyped (condition : Condition) (types : ContextType) : Prop :=
  ∀ expr ∈ condition.expr, expr.WellTyped types

instance (condition : Condition) (types : ContextType) : Decidable (condition.WellTyped types) :=
  inferInstanceAs (Decidable (∀ expr ∈ condition.expr, expr.WellTyped types))

theorem lookup_type (context : Context) (key : String) :
    context.type.lookup key = (context.lookup key).map Scalar.type := by
  induction context with
  | nil => rfl
  | cons entry rest ih =>
      obtain ⟨name, value⟩ := entry
      cases same : key == name with
      | true => simp [Context.type, List.lookup_cons, same]
      | false => simpa only [Context.type, List.map_cons, List.lookup_cons, same] using ih

theorem order_ok (order : Order) (got : Scalar) (value : Json) :
    (∃ ok, pyOrder order got value = .ok ok) ↔ Orderable got.type value := by
  cases got <;> cases value <;>
    simp [pyOrder, Orderable, Scalar.type, Scalar.number?, Scalar.toJson, Json.number?, Json.text?]

theorem in_ok (got : Scalar) (value : Json) :
    (∃ ok, pyIn value got = .ok ok) ↔ Searchable got.type value := by
  cases got <;> cases value <;> simp [pyIn, Searchable, Scalar.type, Json.text?]

theorem eval_condition_ok (expr : Option ConditionExpr) (context : Context) :
    (∃ ok, evalCondition expr context = .ok ok) ↔ ∀ e ∈ expr, e.WellTyped context.type := by
  cases expr with
  | none => simp [evalCondition]
  | some expr =>
      simp only [evalCondition, if_neg expr.keyNonempty, Option.mem_some_iff, forall_eq',
        ConditionExpr.WellTyped, lookup_type]
      cases expr.op with
      | present => simp
      | eq => simp
      | neq => simp
      | compare order =>
          cases context.lookup expr.key with
          | none => simp
          | some got => simpa using order_ok order got expr.value
      | contains =>
          cases context.lookup expr.key with
          | none => simp
          | some got => simpa using in_ok got expr.value

theorem eval_conditions_ok (context : Context) (conditions : List Condition) :
    (∃ results, evalConditions context conditions = .ok results) ↔
      ∀ condition ∈ conditions, condition.WellTyped context.type := by
  induction conditions with
  | nil => simp [evalConditions]
  | cons condition rest ih =>
      rw [List.forall_mem_cons, ← ih]
      have first : (∃ ok, evalCondition condition.expr context = .ok ok) ↔ condition.WellTyped context.type :=
        eval_condition_ok condition.expr context
      cases value : evalCondition condition.expr context with
      | error raised =>
          simp only [value, reduceCtorEq, exists_false, false_iff] at first
          simp [evalConditions, value, first]
      | ok ok =>
          simp only [value, Except.ok.injEq, exists_eq', true_iff] at first
          simp only [evalConditions, value, first, true_and]
          cases evalConditions context rest <;> simp

end Vermyth
