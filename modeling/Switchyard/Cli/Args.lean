import Switchyard.Cli.Similarity

/-!
  The arguments of the program: an option that takes a value, and two flags that only print.

  Arguments are read from left to right.  A value may stand behind its option or be attached to it.
  An option that waits for its value is looked at again when the next option comes, and at the end.
-/

namespace Switchyard.Cli

/-- The name of the program. -/
def programName : String := "request-router"

/-- The version of the program. -/
def programVersion : String := "0.1.0"

/-- The options. -/
inductive Flag where
  | config
  | help
  | version
deriving DecidableEq, Repr

namespace Flag

/-- All options in the order of the help text. -/
def all : List Flag := [.config, .help, .version]

/-- The long name of an option. -/
def long : Flag → String
  | .config => "config"
  | .help => "help"
  | .version => "version"

/-- The letter of an option. -/
def letter : Flag → Char
  | .config => 'c'
  | .help => 'h'
  | .version => 'V'

/-- An option in a line about usage. -/
def usage : Flag → String
  | .config => "--config <CONFIG>"
  | f => "--" ++ f.long

/-- The option of a long name. -/
def ofLong? (name : String) : Option Flag := all.find? (·.long = name)

/-- The option of a letter. -/
def ofLetter? (c : Char) : Option Flag := all.find? (·.letter = c)

/-- The option whose name is most like a word that is no option's name, of equals the last. -/
def closest? (name : String) : Option Flag :=
  let scored := all.filterMap fun f => (likeness? name f.long).map fun n => (n, f)
  (scored.foldl (fun (best : Option (Nat × Flag)) p =>
    match best with
    | some b => if b.1 ≤ p.1 then some p else some b
    | none => some p) none).map (·.2)

end Flag

/-- What the program is asked to do. -/
inductive Invocation where
  | help
  | version
  /-- Run, with a configuration file or without. -/
  | run (config? : Option String)
deriving DecidableEq, Repr

/-- What is wrong with the arguments. -/
inductive ArgFault where
  /-- An argument that is not known, perhaps with one that is like it, and the options that were
      used. -/
  | unexpected (arg : String) (like? : Option Flag) (used : List Flag)
  | missingValue
  | repeated
  /-- A value for an option that takes none. -/
  | extraValue (value : String) (flag : Flag) (used : List Flag)
deriving DecidableEq, Repr

/-! ## Texts -/

/-- The line about usage that names the options used. -/
def usageLine (used : List Flag) : String :=
  "Usage: " ++ programName ++ " " ++
    (if used.isEmpty then "[OPTIONS]" else String.intercalate " " (used.map Flag.usage))

/-- The text that explains the program. -/
def helpText : String := String.intercalate "\n" [
  "HTTP router with filter chains and dark traffic",
  "",
  usageLine [],
  "",
  "Options:",
  "  -c, --config <CONFIG>  Path to a TOML configuration file; defaults apply when omitted",
  "  -h, --help             Print help",
  "  -V, --version          Print version"]

/-- The text that names the program and its version. -/
def versionText : String := programName ++ " " ++ programVersion

/-- What a fault says. -/
def ArgFault.headline : ArgFault → String
  | .unexpected arg _ _ => "unexpected argument '" ++ arg ++ "' found"
  | .missingValue => "a value is required for '" ++ Flag.config.usage ++ "' but none was supplied"
  | .repeated => "the argument '" ++ Flag.config.usage ++ "' cannot be used multiple times"
  | .extraValue value flag _ =>
    "unexpected value '" ++ value ++ "' for '" ++ flag.usage ++ "' found; no more were accepted"

/-- The paragraphs that follow on what a fault says. -/
def ArgFault.advice : ArgFault → List String
  | .unexpected _ (some like) used =>
    ["  tip: a similar argument exists: '--" ++ like.long ++ "'",
     usageLine (if used.contains like then used else used ++ [like])]
  | .unexpected _ none used => [usageLine used]
  | .missingValue => []
  | .repeated => [usageLine []]
  | .extraValue _ _ used => [usageLine used]

/-- The text of a fault. -/
def ArgFault.text (f : ArgFault) : String :=
  String.intercalate "\n\n"
    (["error: " ++ f.headline] ++ f.advice ++ ["For more information, try '--help'."]) ++ "\n"

/-! ## Reading -/

/-- What has been read of the arguments. -/
structure Seen where
  config? : Option String := none
  /-- An option that was named: its value, once that is there. -/
  pending? : Option (Option String) := none

namespace Seen

/-- The configuration file is named. -/
def setConfig (s : Seen) (value : String) : Except ArgFault Seen :=
  if s.config?.isSome then .error .repeated
  else if value.isEmpty then .error .missingValue
  else .ok { config? := some value }

/-- Look again at an option that was named. -/
def resolve (s : Seen) : Except ArgFault Seen :=
  match s.pending? with
  | none => .ok s
  | some none => .error .missingValue
  | some (some value) => s.setConfig value

/-- The options used so far. -/
def used (s : Seen) : List Flag :=
  match s.config?, s.pending? with
  | some _, _ | _, some (some _) => [.config]
  | _, _ => []

/-- An option by its name, with the value attached to it. -/
def take (s : Seen) (flag : Flag) (attached? : Option String) :
    Except ArgFault (Seen ⊕ Invocation) := do
  let s ← s.resolve
  match flag, attached? with
  | .help, _ => return .inr .help
  | .version, _ => return .inr .version
  | .config, some value => return .inl (← s.setConfig value)
  | .config, none => return .inl { s with pending? := some none }

/-- An argument that is no option: the value waited for, or one too many. -/
def plain (s : Seen) (arg : String) : Except ArgFault Seen :=
  match s.pending? with
  | some none => .ok { s with pending? := some (some arg) }
  | _ => .error (.unexpected arg none [])

end Seen

/-- A long name and the value attached to it. -/
def splitLong (cs : List Char) : String × Option String :=
  (String.ofList (cs.takeWhile (· ≠ '=')),
    match cs.dropWhile (· ≠ '=') with
    | _ :: value => some (String.ofList value)
    | [] => none)

/-- A long option. -/
def readLong (s : Seen) (cs : List Char) : Except ArgFault (Seen ⊕ Invocation) :=
  let (name, attached?) := splitLong cs
  match Flag.ofLong? name, attached? with
  | none, _ => .error (.unexpected ("--" ++ name) (Flag.closest? name) s.used)
  | some .config, _ => s.take .config attached?
  | some flag, none => s.take flag none
  | some flag, some value => .error (.extraValue value flag (s.config?.map fun _ => .config).toList)

/-- A letter, and what stands behind it. -/
def readLetters (s : Seen) : List Char → Except ArgFault (Seen ⊕ Invocation)
  | [] => .ok (.inl s)
  | c :: rest =>
    match Flag.ofLetter? c with
    | none => .error (.unexpected (String.ofList ['-', c]) none [])
    | some flag =>
      match rest with
      | [] => s.take flag none
      | '=' :: value => s.take flag (some (String.ofList value))
      | value => s.take flag (some (String.ofList value))

/-- Read the arguments from left to right; behind two dashes nothing is an option. -/
def readFrom (s : Seen) (optionsOver : Bool) : List String → Except ArgFault Invocation
  | [] => do return .run (← s.resolve).config?
  | arg :: rest => do
    if optionsOver then throw (.unexpected arg none [])
    match arg.toList with
    | ['-', '-'] => readFrom s true rest
    | '-' :: '-' :: name =>
      match ← readLong s name with
      | .inl s => readFrom s false rest
      | .inr invocation => return invocation
    | '-' :: c :: cs =>
      match ← readLetters s (c :: cs) with
      | .inl s => readFrom s false rest
      | .inr invocation => return invocation
    | _ => readFrom (← s.plain arg) false rest

/-- Read the arguments. -/
def readArgs (args : List String) : Except ArgFault Invocation := readFrom {} false args

end Switchyard.Cli
