/-
Which types have literals. A registry names the types whose values can
be written down on the spot; function types always can; a value of any
other type has to be a mock.
-/
import TestDraft.Table
import TestDraft.Value.Literal

namespace TestDraft

structure Registry where
  rules : Table LiteralRule

/-- A value of a type in a test. -/
inductive Value where
  | literal (text : String)
  | mock (type : TypeExpr)
deriving DecidableEq

namespace Registry

open LiteralRule in
/-- The types of the language's own library that have literals. -/
def standard : Registry where
  rules := Table.ofList
    [ ("Boolean", constant "false")
    , ("Byte", constant "0b0")
    , ("Class", constant "Any::class.java")
    , ("Double", constant "0.0")
    , ("Float", constant "0f")
    , ("Int", constant "0")
    , ("Integer", constant "0 as Integer")
    , ("Long", constant "0L")
    , ("Short", constant "0.toShort()")
    , ("String", variableName)
    , ("Array", collection "arrayOf")
    , ("List", collection "listOf")
    , ("MutableList", collection "mutableListOf")
    , ("Map", collection "mapOf")
    , ("MutableMap", collection "mutableMapOf")
    , ("Set", collection "setOf")
    , ("MutableSet", collection "mutableSetOf")
    , ("Unit", constant "Unit") ]

def ofConstants (entries : List (String × String)) : Registry where
  rules := Table.ofList (entries.map fun e => (e.1, .constant e.2))

/-- The tag under which the rule of all function types is known. -/
def functionTag : String := "(?)->?"

/-- The rule of a type with the tag it is known by, if the type has one. -/
def find? (r : Registry) : TypeExpr → Option (String × LiteralRule)
  | .function _ _ _ => some (functionTag, .lambda)
  | t => (r.rules.get? t.name).map (t.name, ·)

/-- Whether a value of a type has to be a mock. -/
def isMockable (r : Registry) (t : TypeExpr) : Bool := (r.find? t).isNone

def value (r : Registry) (variableName : String) (t : TypeExpr) : Value :=
  match r.find? t with
  | some (_, rule) => .literal (rule.literal variableName t)
  | none => .mock t

theorem value_eq_mock_iff (r : Registry) (n : String) (t : TypeExpr) :
    r.value n t = .mock t ↔ r.isMockable t = true := by
  unfold value isMockable
  cases r.find? t <;> simp

example :
    standard.value "ids" (.generic "List" true [.named "Id" false]) = .literal "listOf<Id>()" ∧
    standard.value "s" (.named "String" true) = .literal "\"s\"" ∧
    standard.value "r" (.named "Repository" true) = .mock (.named "Repository" true) := by
  decide +kernel

end Registry

end TestDraft
