/-
Values of properties, and the words that some of them stand for. Words
may be written in either case and with blanks around them.
-/
import TestDraft.Capture
import TestDraft.Mocking.Symbol
import TestDraft.Text.Blank
import TestDraft.Text.Quoted

namespace TestDraft

open Text

-- ================================================================ values

inductive PropertyValue where
  | text (text : String)
  /-- A number, a truth value or the lack of a value, by its text. -/
  | bare (text : String)
deriving DecidableEq

namespace PropertyValue

def asText : PropertyValue → String
  | text s => s
  | bare s => s

/-- The value as messages show it: only texts are quoted. -/
def shown : PropertyValue → String
  | text s => quoted s
  | bare s => s

end PropertyValue

-- ================================================================= words

/-- The Kelvin sign, whose lower case is the letter k. -/
def kelvinSign : Char := '\u212a'

/-- A character in lower case, where its lower case lies in ASCII. The
Kelvin sign is the only character outside of ASCII for which it does, so
this fold is enough to compare with ASCII words. -/
def foldCase (c : Char) : Char := if c = kelvinSign then 'k' else c.toLower

/-- The word that a value stands for. -/
def PropertyValue.word (v : PropertyValue) : String :=
  String.ofList ((trim v.asText.toList).map foldCase)

/-- The framework that a word stands for. -/
def Framework.ofValue? (v : PropertyValue) : Option Framework := Framework.ofWord? v.word

/-- The words for ways of dealing with exceptions. -/
def Capture.words : List (String × Capture) :=
  [("annotation", .marked), ("expects", .marked), ("annotationexpects", .marked),
   ("try", .caught), ("catch", .caught), ("trycatch", .caught), ("try/catch", .caught),
   ("no", .none), ("none", .none), ("false", .none), ("", .none)]

/-- The way of dealing with exceptions that a value stands for. -/
def Capture.ofValue? (v : PropertyValue) : Option Capture := Capture.words.lookup v.word

/-- The words for truth values. -/
def truthWords : List (String × Bool) :=
  [("true", true), ("yes", true), ("1", true), ("false", false), ("no", false), ("0", false)]

/-- The truth value that a value stands for. -/
def PropertyValue.truth? (v : PropertyValue) : Option Bool := truthWords.lookup v.word

example : Framework.ofValue? (.text " Moc\u212aito\t") = some .mockito ∧
    Capture.ofValue? (.bare "None") = some .none ∧
    PropertyValue.truth? (.text "y es") = none := by
  decide +kernel

end TestDraft
