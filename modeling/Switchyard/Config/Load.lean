import Switchyard.Config.Document
import Switchyard.Config.Validation
import Switchyard.Bytes

/-!
  Loading a configuration: read the file, read the document in it, check what it says.
-/

namespace Switchyard.Config

/-- What stands at the place of a configuration file. -/
inductive Source where
  | missing
  | directory
  | file (content : Bytes)

/-- Why a file could not be read as text. -/
inductive ReadFault where
  | missing
  | directory
  /-- The bytes are no text. -/
  | notText
deriving DecidableEq, Repr

namespace ReadFault

/-- The wording of a fault. -/
def message : ReadFault → String
  | .missing => "No such file or directory (os error 2)"
  | .directory => "Is a directory (os error 21)"
  | .notText => "stream did not contain valid UTF-8"

/-- A fault as a developer sees it. -/
def debug : ReadFault → String
  | .missing => Text.recordText "Os"
    [("code", "2"), ("kind", "NotFound"), ("message", Text.quote "No such file or directory")]
  | .directory => Text.recordText "Os"
    [("code", "21"), ("kind", "IsADirectory"), ("message", Text.quote "Is a directory")]
  | .notText => Text.recordText "Error"
    [("kind", "InvalidData"), ("message", Text.quote "stream did not contain valid UTF-8")]

end ReadFault

/-- Why there is no configuration. -/
inductive Fault where
  | io (fault : ReadFault)
  /-- The text is no document, or the document describes no configuration. -/
  | parse
  | validation (problems : List Problem)

namespace Fault

/-- The wording of a fault; what exactly is wrong with a document is not told. -/
def message : Fault → String
  | .io fault => "IO error: " ++ fault.message
  | .parse => "Parse error: .."
  | .validation problems =>
    "Validation failed: " ++ String.intercalate ", " (problems.map Problem.message)

/-- A fault as a developer sees it. -/
def debug : Fault → String
  | .io fault => "Io(" ++ fault.debug ++ ")"
  | .parse => "Parse(..)"
  | .validation problems =>
    "Validation(" ++ Text.bracketed (problems.map Problem.debug) ++ ")"

end Fault

/-- Check a configuration. -/
def validate (c : Config) : Except (List Problem) Config :=
  if c.isValid then .ok c else .error c.problems

/-- Read and check the configuration in a text. -/
def parse (text : String) : Except Fault Config :=
  match (Toml.parse text).bind ofValue with
  | none => .error .parse
  | some c => c.validate.mapError .validation

/-- The text of a file. -/
def Source.text : Source → Except ReadFault String
  | .missing => .error .missing
  | .directory => .error .directory
  | .file content =>
    match Bytes.string? content with
    | some s => .ok s
    | none => .error .notText

/-- Read and check the configuration in a file. -/
def load (source : Source) : Except Fault Config := do
  parse (← source.text.mapError .io)

end Switchyard.Config
