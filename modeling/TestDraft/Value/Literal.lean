/-
Literals: expressions that give a value of a type on the spot. A rule
says what to write for a variable of a type; it may look at the name of
the variable and at all of the type.
-/
import TestDraft.TypeExpr.Text

namespace TestDraft

open Text

/-- What is written for a variable of a type. -/
structure LiteralRule where
  literal : (variableName : String) → (type : TypeExpr) → String

namespace LiteralRule

/-- The same text for all variables. -/
def constant (text : String) : LiteralRule := ⟨fun _ _ => text⟩

/-- The variable's name in double quotes. -/
def variableName : LiteralRule := ⟨fun name _ => "\"" ++ name ++ "\""⟩

/-- The element type of a collection that says none. -/
def anyName : String := "Any"

def elements : TypeExpr → String
  | .generic _ _ args => commas (TypeExpr.texts args)
  | _ => anyName

/-- A call that makes an empty collection of the type's elements. -/
def collection (maker : String) : LiteralRule :=
  ⟨fun _ t => maker ++ "<" ++ elements t ++ ">()"⟩

/-- The types of the parameters of a function type, by name. -/
def paramNames : TypeExpr → String
  | .function _ _ params => commas (params.map (·.name))
  | _ => ""

/-- A function literal that takes the parameters and does nothing. -/
def lambda : LiteralRule where
  literal _ t :=
    let names := paramNames t
    if names = "" then "\x7b\x7d" else "\x7b " ++ names ++ " -> \x7d"

end LiteralRule

end TestDraft
