/-
Properties, the form in which settings arrive: a key and a value each.
Of several values for one key the last accepted one counts; a refused
one changes nothing. Four keys have to be given.
-/
import TestDraft.Settings.Basic
import TestDraft.Settings.Word
import TestDraft.Text.Commas

namespace TestDraft

open Text

-- ================================================================== keys

inductive Key where
  | framework
  | subject
  | actual
  | rule
  | assertion
  | capture
  | parameterized
deriving DecidableEq

namespace Key

def text : Key → String
  | framework => "dependency.mocker"
  | subject => "vocabulary.classundertest"
  | actual => "vocabulary.actualvalue"
  | rule => "vocabulary.mockitorule"
  | assertion => "test.defaultassertion"
  | capture => "test.exceptioncapture"
  | parameterized => "test.parameterized"

def all : List Key :=
  [framework, subject, actual, rule, assertion, capture, parameterized]

/-- The key of a spelling. -/
def ofText? (s : String) : Option Key := all.find? (·.text == s)

theorem ofText?_text (k : Key) : ofText? k.text = some k := by
  cases k <;> rfl

end Key

-- ================================================================ faults

/-- Why a property is refused, or settings cannot be had. -/
inductive SettingFault where
  | unknownKey (key : String)
  | unknownFramework (value : PropertyValue)
  | unknownCapture (value : PropertyValue)
  | noTruthValue (key : Key) (value : PropertyValue)
  | missing (keys : List Key)
deriving DecidableEq

def SettingFault.message : SettingFault → String
  | unknownKey k => "Unknown property: " ++ k
  | unknownFramework v => "Unknown mocker type: " ++ v.asText
  | unknownCapture v => "Unknown exception capture method: " ++ v.asText
  | noTruthValue k v => "Expected a boolean for " ++ k.text ++ ", got " ++ v.shown
  | missing ks => "Missing properties: " ++ commas (ks.map Key.text)

-- ============================================================ properties

/-- The values accepted so far; the properties that can be left out
start from what holds without them. -/
structure Properties where
  framework : Option Framework := none
  subject : Option String := none
  actual : Option String := none
  assertion : Option String := none
  capture : Capture := .none
  parameterized : Bool := false
  rule : String := Settings.standardRule
deriving DecidableEq

namespace Properties

/-- The properties with a value under a key. -/
def put (p : Properties) (k : Key) (v : PropertyValue) : Except SettingFault Properties :=
  match k with
  | .framework =>
    match Framework.ofValue? v with
    | some f => .ok { p with framework := some f }
    | none => .error (.unknownFramework v)
  | .subject => .ok { p with subject := some v.asText }
  | .actual => .ok { p with actual := some v.asText }
  | .rule => .ok { p with rule := v.asText }
  | .assertion => .ok { p with assertion := some v.asText }
  | .capture =>
    match Capture.ofValue? v with
    | some c => .ok { p with capture := c }
    | none => .error (.unknownCapture v)
  | .parameterized =>
    match v.truth? with
    | some b => .ok { p with parameterized := b }
    | none => .error (.noTruthValue .parameterized v)

/-- The properties with a value under the key of a spelling. -/
def set (p : Properties) (key : String) (v : PropertyValue) : Except SettingFault Properties :=
  match Key.ofText? key with
  | some k => p.put k v
  | none => .error (.unknownKey key)

/-- Sets several properties in order, up to the first one that is
refused: the properties then, and the fault if there was one. -/
def setAll (p : Properties) : List (String × PropertyValue) → Properties × Option SettingFault
  | [] => (p, none)
  | (key, v) :: rest =>
    match p.set key v with
    | .ok q => q.setAll rest
    | .error e => (p, some e)

/-- The keys that have to be given and are not. -/
def missing (p : Properties) : List Key :=
  (if p.framework.isNone then [.framework] else [])
    ++ (if p.subject.isNone then [.subject] else [])
    ++ (if p.actual.isNone then [.actual] else [])
    ++ (if p.assertion.isNone then [.assertion] else [])

/-- The settings that the properties make up. -/
def settings (p : Properties) : Except SettingFault Settings :=
  match p.framework, p.subject, p.actual, p.assertion with
  | some framework, some subject, some actual, some assertion =>
    .ok { framework, subject, actual, assertion,
          capture := p.capture, parameterized := p.parameterized, rule := p.rule }
  | _, _, _, _ => .error (.missing p.missing)

end Properties

end TestDraft
