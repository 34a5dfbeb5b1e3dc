/-
Sessions: items are added one after the other, each with the imports
that its tests need. Imports are gathered by name; a path that an item's
own source gives to a name takes the place of the known one. Until a
session is reset, what it has gathered and noticed stays.
-/
import TestDraft.Draft
import TestDraft.Settings.Basic

namespace TestDraft

-- ================================================================ events

/-- What a session reports. -/
inductive Event where
  | created (framework : Framework)
  | adding (item : Item)
  | unknownImport (name : String)

/-- How much a report matters. -/
inductive Severity where
  | info
  | warning
deriving DecidableEq

def Severity.word : Severity → String
  | info => "INFO"
  | warning => "WARNING"

namespace Event

def severity : Event → Severity
  | unknownImport _ => .warning
  | _ => .info

def message : Event → String
  | created f => "Creating tests generator using " ++ f.word
  | adding (.ofClass c) => "Rendering tests for " ++ c.name
  | adding (.ofFile _ n) => "Rendering tests for functions of " ++ n
  | unknownImport n => "No known import for " ++ n

/-- The line of an event in a log. -/
def text (e : Event) : String := e.severity.word ++ ": " ++ e.message

end Event

-- ======================================================== what is noticed

namespace Toolkit

/-- Whether some parameter has to be mocked. -/
def mocksParams (k : Toolkit) (ps : List Parameter) : Bool := ps.any fun p => k.isMockable p.type

/-- Whether some parameter or receiver of the functions has to be mocked. -/
def mocksFunctions (k : Toolkit) (fs : List FunctionDecl) : Bool :=
  (fs.any fun f => k.mocksParams f.params) || (fs.any fun f => f.receiver.any k.isMockable)

/-- Whether some result of the functions has to be mocked. -/
def mocksResults (k : Toolkit) (fs : List FunctionDecl) : Bool :=
  fs.any fun f => k.isMockable f.result

/-- What is noticed about some functions under test. -/
def functionNotices (k : Toolkit) (parameterized : Bool) (fs : List FunctionDecl) : List Notice :=
  (if parameterized then [.parameterized] else [])
    ++ (if parameterized && k.mocksResults fs then [.resultMocks] else [])
    ++ (if k.mocksFunctions fs then [.functionMocks] else [])

/-- What is noticed about a class under test besides its functions. -/
def classNotices (k : Toolkit) (c : ClassDecl) : List Notice :=
  (if k.mocksParams c.params then [.constructorMocks] else [])
    ++ (if c.isAbstract then [.abstractSubject c] else [])
    ++ (if c.isAbstract && k.mocksResults (abstracts c.functions) then [.resultMocks] else [])

def notices (k : Toolkit) (parameterized : Bool) : Item → List Notice
  | .ofClass c => k.functionNotices parameterized (concrete c.functions) ++ k.classNotices c
  | .ofFile f _ => k.functionNotices parameterized (concrete f.functions)

/-- Whether some field for the tests of an item has to be mocked. -/
def mocksFields (k : Toolkit) : Item → Bool
  | .ofClass c => k.mocksParams c.params
  | .ofFile _ _ => false

end Toolkit

-- ============================================================== sessions

structure Session where
  draft : Draft
  parameterized : Bool
  /-- The paths imported so far, by the names they bring in. -/
  imports : Table String

namespace Session

/-- A session at its start, and the report of it. -/
def start (s : Settings) (r : Registry) : Session × List Event :=
  (⟨.start (s.recipe r), s.parameterized, ∅⟩, [.created s.framework])

/-- The means by which the session drafts. -/
def toolkit (s : Session) : Toolkit := s.draft.recipe.toolkit

/-- Whether tests of the functions compare values. -/
def comparesValues (s : Session) (fs : List FunctionDecl) : Bool :=
  s.draft.recipe.capture == .caught || s.parameterized && fs.any (·.hasResult)

/-- The symbols that the tests of some functions need. -/
def functionNeeds (s : Session) (fs : List FunctionDecl) : List Symbol :=
  if fs.isEmpty then []
  else .test :: (if s.comparesValues fs then [.assertEquals] else [])

/-- The symbols that parameterized tests need. -/
def rowNeeds (s : Session) : List Symbol :=
  if s.parameterized then [.runWith, .parameterized, .parameters] else []

/-- The symbols that the tests of an item need, given what has been
noticed about it. -/
def needs (s : Session) (i : Item) : List Symbol :=
  s.draft.facts.required s.draft.framework
    ++ (match i with | .ofClass _ => [.before] | .ofFile _ _ => [])
    ++ s.rowNeeds
    ++ s.functionNeeds i.tested

/-- The session with the symbol of a name imported, if it is known. -/
def addImport (s : Session) (name : String) : Session × List Event :=
  match s.draft.framework.symbol? name with
  | some x => ({ s with imports := s.imports.insert x.name x.path }, [])
  | none => (s, [.unknownImport name])

/-- The session with the symbols of several names imported. -/
def addImports (s : Session) : List String → Session × List Event
  | [] => (s, [])
  | n :: ns =>
    let (s, es) := s.addImport n
    let (s, fs) := s.addImports ns
    (s, es ++ fs)

/-- The paths to import, each once. -/
def paths (s : Session) : List String := s.imports.values.eraseDups

def notice (s : Session) (i : Item) : Session :=
  { s with draft := s.draft.noteAll (s.toolkit.notices s.parameterized i) }

/-- The session with the imports of an item's tests: what they need,
and over it what the item's source imports. -/
def gather (s : Session) (i : Item) : Session × List Event :=
  let (s, es) := s.addImports ((s.needs i).map Symbol.name)
  ({ s with imports := s.imports.override i.imports }, es)

def write (s : Session) (i : Item) : Session :=
  { s with draft := s.draft.add i s.paths s.parameterized (s.toolkit.mocksFields i) }

def add (s : Session) (i : Item) : Session × List Event :=
  let (s, es) := (s.notice i).gather i
  (s.write i, es ++ [.adding i])

/-- The session with nothing written, noticed or imported. -/
def reset (s : Session) : Session := { s with draft := s.draft.clear, imports := ∅ }

def text (unit : String) (s : Session) : String := s.draft.text unit

end Session

end TestDraft
