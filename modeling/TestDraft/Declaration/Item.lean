/-
What tests are drafted for: a class, or the functions of a file. An
item carries the imports of its own source, by the names they bring in.
-/
import TestDraft.Declaration.Function
import TestDraft.Table

namespace TestDraft

structure ClassDecl where
  package : String
  imports : Table String
  name : String
  isAbstract : Bool
  params : List Parameter
  functions : List FunctionDecl
deriving DecidableEq

structure FileDecl where
  package : String
  imports : Table String
  functions : List FunctionDecl
deriving DecidableEq

namespace ClassDecl

/-- The class without its imports. -/
def bare (c : ClassDecl) : ClassDecl := { c with imports := ∅ }

def paramNames (c : ClassDecl) : List String := c.params.map (·.name)

end ClassDecl

/-- The functions without the imports of their file. -/
def FileDecl.bare (f : FileDecl) : FileDecl := { f with imports := ∅ }

/-- An item; the functions of a file get the name of their test class
from outside. -/
inductive Item where
  | ofClass (decl : ClassDecl)
  | ofFile (decl : FileDecl) (name : String)

namespace Item

/-- The functions that are tested. -/
def tested : Item → List FunctionDecl
  | ofClass c => concrete c.functions
  | ofFile f _ => concrete f.functions

def imports : Item → Table String
  | ofClass c => c.imports
  | ofFile f _ => f.imports

def package : Item → String
  | ofClass c => c.package
  | ofFile f _ => f.package

/-- The name that the test class is named after. -/
def name : Item → String
  | ofClass c => c.name
  | ofFile _ n => n

end Item

end TestDraft
