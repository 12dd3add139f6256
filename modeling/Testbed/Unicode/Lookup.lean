import Testbed.Unicode.Age
import Testbed.Unicode.Derived
import Testbed.Unicode.Script
import Testbed.Unicode.ScriptExtension

/-!
# Character properties by name

This file supplies the sets that a pattern names by a general category, a script,
a binary property, a version of the standard or a class of segmentation.
-/

namespace Testbed.Unicode

/-- The script of a loose name. -/
def script? (name : String) : Option CharSet :=
  find? scripts name

/-- The characters used with a script of a loose name. -/
def scriptExtension? (name : String) : Option CharSet :=
  (find? scriptExtensions name).orElse fun _ => script? name

/-- The characters of some versions up to the one of a loose name. -/
def assignedUpTo? (name : String) :
    List (List String × List String) → Option (List CharSet)
  | [] => none
  | entry :: later =>
      if entry.1.any fun other => looseName other == name then some [readRanges entry.2]
      else (assignedUpTo? name later).map (readRanges entry.2 :: ·)

/-- The characters that were assigned in the version of a loose name. -/
def age? (name : String) : Option CharSet :=
  (assignedUpTo? name ages).map CharSet.unionAll

/-- The set that a single name denotes. -/
def named? (name : String) : Option CharSet :=
  let name := looseName name
  (property? name).orElse fun _ => (category? name).orElse fun _ => script? name

/-- The set that a property and a value denote. -/
def valued? (property value : String) : Option CharSet :=
  let property := looseName property
  let value := looseName value
  if property = "gc" ∨ property = "generalcategory" then category? value
  else if property = "sc" ∨ property = "script" then script? value
  else if property = "scx" ∨ property = "scriptextensions" then scriptExtension? value
  else if property = "age" then age? value
  else if property = "gcb" ∨ property = "graphemeclusterbreak" then graphemeBreak? value
  else if property = "wb" ∨ property = "wordbreak" then wordBreak? value
  else if property = "sb" ∨ property = "sentencebreak" then sentenceBreak? value
  else none

end Testbed.Unicode
