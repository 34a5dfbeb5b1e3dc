/-
Type expressions: a name, a name with type arguments, or a function
type. A function type knows only the name of its result, and its
nullable mark belongs to the result.
-/

namespace TestDraft

/-- A type, as a declaration writes it. -/
inductive TypeExpr where
  | named (name : String) (nullable : Bool)
  | generic (name : String) (nullable : Bool) (args : List TypeExpr)
  /-- A function from the parameters to the named result. -/
  | function (result : String) (nullable : Bool) (params : List TypeExpr)
deriving Inhabited

namespace TypeExpr

/-- The name of the type that all types without a value of interest share. -/
def unitName : String := "Unit"

/-- The name of a type; a function type goes by its result. -/
def name : TypeExpr → String
  | named n _ => n
  | generic n _ _ => n
  | function r _ _ => r

def nullable : TypeExpr → Bool
  | named _ q => q
  | generic _ q _ => q
  | function _ q _ => q

/-- A type with its own nullable mark set or taken away. -/
def withNullable (q : Bool) : TypeExpr → TypeExpr
  | named n _ => named n q
  | generic n _ args => generic n q args
  | function r _ params => function r q params

/-- Whether a type is the unit type, nullable or not. -/
def isUnit : TypeExpr → Bool
  | named n _ => n == unitName
  | _ => false

-- ======================================================= type arguments

/-- The refusal of a type with an empty list of type arguments. -/
structure NoArguments where
  name : String
deriving DecidableEq

def NoArguments.message (e : NoArguments) : String :=
  "Generic type " ++ e.name ++ " requires type arguments"

/-- A name with type arguments, of which there must be one at least. -/
def applied (name : String) (nullable : Bool) (args : List TypeExpr) :
    Except NoArguments TypeExpr :=
  if args.isEmpty then .error ⟨name⟩ else .ok (generic name nullable args)

-- ============================================================== equality

mutual

/-- Whether two types are the same, mark by mark. -/
def same : TypeExpr → TypeExpr → Bool
  | named n q, named m r => n == m && q == r
  | generic n q ss, generic m r ts => n == m && q == r && sameAll ss ts
  | function n q ss, function m r ts => n == m && q == r && sameAll ss ts
  | _, _ => false

/-- Whether two lists of types are the same, one by one. -/
def sameAll : List TypeExpr → List TypeExpr → Bool
  | [], [] => true
  | s :: ss, t :: ts => same s t && sameAll ss ts
  | _, _ => false

end

mutual

theorem same_iff_eq : (s t : TypeExpr) → (same s t = true ↔ s = t)
  | named .., named .. => by simp [same]
  | generic _ _ ss, generic _ _ ts => by simp [same, sameAll_iff_eq ss ts, and_assoc]
  | function _ _ ss, function _ _ ts => by simp [same, sameAll_iff_eq ss ts, and_assoc]
  | named .., generic .. => by simp [same]
  | named .., function .. => by simp [same]
  | generic .., named .. => by simp [same]
  | generic .., function .. => by simp [same]
  | function .., named .. => by simp [same]
  | function .., generic .. => by simp [same]

theorem sameAll_iff_eq : (ss ts : List TypeExpr) → (sameAll ss ts = true ↔ ss = ts)
  | [], [] => by simp [sameAll]
  | [], _ :: _ => by simp [sameAll]
  | _ :: _, [] => by simp [sameAll]
  | s :: ss, t :: ts => by simp [sameAll, same_iff_eq s t, sameAll_iff_eq ss ts]

end

instance : DecidableEq TypeExpr := fun s t =>
  decidable_of_iff (same s t = true) (same_iff_eq s t)

example : generic "List" false [named "A" true] ≠ generic "List" false [named "A" false] := by
  decide

end TypeExpr

end TestDraft
