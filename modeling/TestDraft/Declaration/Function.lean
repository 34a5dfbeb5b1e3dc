/-
Declarations of functions, and the names that tests make out of them.
-/
import TestDraft.Text.UpperCase
import TestDraft.TypeExpr.Text

namespace TestDraft

structure Parameter where
  name : String
  type : TypeExpr
deriving DecidableEq

/-- A function, with the type it extends if there is one. -/
structure FunctionDecl where
  name : String
  isAbstract : Bool
  params : List Parameter
  receiver : Option TypeExpr
  result : TypeExpr
deriving DecidableEq

namespace FunctionDecl

/-- Whether there is a value for a test to look at. -/
def hasResult (f : FunctionDecl) : Bool := !f.result.isUnit

/-- The name under which test titles speak of the function: the name of
the type it extends stands in front. -/
def titleName (f : FunctionDecl) : String :=
  match f.receiver with
  | none => f.name
  | some t => t.name ++ "#" ++ f.name

/-- The name of the value that a call is expected to give. -/
def expectedName (f : FunctionDecl) : String := f.name ++ "Expected"

/-- The name of the column that holds the values of a parameter. -/
def columnName (f : FunctionDecl) (p : Parameter) : String :=
  f.name ++ Text.capitalise p.name

end FunctionDecl

def concrete (fs : List FunctionDecl) : List FunctionDecl := fs.filter (!·.isAbstract)

def abstracts (fs : List FunctionDecl) : List FunctionDecl := fs.filter (·.isAbstract)

end TestDraft
