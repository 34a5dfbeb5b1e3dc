/-
Work with a toolkit, request by request: what is noticed about an item,
questions for the pieces that its tests are made from, and resets. Only
notices and resets touch the ledger, and it shows in what the framework
asks for and in what `setUp` has to do.
-/
import TestDraft.Mocking.Ledger
import TestDraft.Mocking.Snippet

namespace TestDraft

open Text

-- ============================================================= questions

/-- A question for a piece that tests are made from. -/
inductive Query where
  /-- The field of a mock that the framework creates. -/
  | mockField (name : String) (type : TypeExpr)
  | mockCall (type : TypeExpr)
  /-- The value of a variable. -/
  | value (name : String) (type : TypeExpr)
  /-- The field for a parameter of the constructor. -/
  | field (param : Parameter)
  /-- An object of an abstract class. -/
  | abstractObject (subject : ClassDecl)
  | isMockable (type : TypeExpr)

inductive Answer where
  | text (text : String)
  | truth (truth : Bool)
deriving DecidableEq

def Toolkit.answer (unit : String) (k : Toolkit) : Query → Answer
  | .mockField n t => .text ((Field.mock n t).text unit k.framework)
  | .mockCall t => .text (Fragment.join unit (k.framework.mockFragments t))
  | .value n t => .text (Fragment.join unit (k.framework.valueFragments (k.value n t)))
  | .field p => .text ((k.field p).text unit k.framework)
  | .abstractObject c => .text ((k.abstractCreation c).text unit k.framework)
  | .isMockable t => .truth (k.isMockable t)

-- ============================================================= workbench

/-- A toolkit, and the ledger of its framework since it was last cleared. -/
structure Workbench where
  /-- The unit of indentation. -/
  unit : String
  toolkit : Toolkit
  ledger : Ledger

inductive Request where
  | notice (notice : Notice)
  | ask (query : Query)
  | reset

namespace Workbench

def start (unit : String) (k : Toolkit) : Workbench := ⟨unit, k, {}⟩

/-- The symbols that the framework asks for. -/
def required (w : Workbench) : List Symbol := w.ledger.required

/-- The statement that creates the mocked fields, if there has to be one. -/
def initText? (w : Workbench) : Option String :=
  Framework.initText? w.unit (w.ledger.initialises w.toolkit.framework)

/-- The workbench after a request, and the answer to a question. -/
def step (w : Workbench) : Request → Workbench × Option Answer
  | .notice n => ({ w with ledger := w.ledger.note w.toolkit.framework n }, none)
  | .ask q => (w, some (w.toolkit.answer w.unit q))
  | .reset => ({ w with ledger := {} }, none)

/-- The workbench after several requests. -/
def run (w : Workbench) (rs : List Request) : Workbench := rs.foldl (fun w r => (w.step r).1) w

theorem run_append (w : Workbench) (rs qs : List Request) :
    w.run (rs ++ qs) = (w.run rs).run qs := List.foldl_append ..

end Workbench

end TestDraft
