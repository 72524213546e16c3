import Switchyard.Failure.Refusal
import Switchyard.Route.Params
import Switchyard.Text.Split

/-!
  Route templates.

  A template is cut at its slashes.  A piece that begins with a colon binds one piece of the path
  that is not empty, under the name behind the colon; an asterisk, alone or behind a colon, stands
  last and binds the rest of the path; any other piece stands for itself.  A template that binds
  nothing is compared as a whole.
-/

namespace Switchyard.Route

/-- One piece of a template. -/
inductive Segment where
  | literal (text : String)
  | param (name : String)
  | wildcard
deriving DecidableEq, Repr

namespace Segment

/-- The name that a piece binds. -/
def name? : Segment → Option String
  | literal _ => none
  | param name => some name
  | wildcard => some wildcardName

/-- A piece as a developer sees it. -/
def debug : Segment → String
  | literal s => "Literal(" ++ Text.quote s ++ ")"
  | param s => "Param(" ++ Text.quote s ++ ")"
  | wildcard => "Wildcard"

/-- Is the piece of a template one of the two spellings of the wildcard? -/
def isWildcard (piece : String) : Bool := piece = "*" || piece = ":*"

/-- The pieces of a template, given the names bound before them. -/
def readAll : List String → List String → Except TemplateFault (List Segment)
  | _, [] => .ok []
  | names, piece :: rest =>
    if isWildcard piece then
      if rest.isEmpty then .ok [wildcard] else .error .wildcardNotLast
    else match piece.toList with
      | ':' :: name =>
        let name := String.ofList name
        if name.isEmpty then .error .emptyName
        else if name ∈ names then .error .repeatedName
        else (readAll (name :: names) rest).map (param name :: ·)
      | _ => (readAll names rest).map (literal piece :: ·)

/-- Match pieces of a template against the pieces of a path. -/
def matchAll : List Segment → List String → Option (List (String × String))
  | [], [] => some []
  | [], _ :: _ => none
  | _ :: _, [] => none
  | wildcard :: _, parts => some [(wildcardName, Text.slashJoin parts)]
  | literal s :: segments, part :: parts => if part = s then matchAll segments parts else none
  | param name :: segments, part :: parts =>
    if part.isEmpty then none else (matchAll segments parts).map ((name, part) :: ·)

end Segment

/-- A template that can be matched. -/
inductive Pattern where
  /-- It binds nothing. -/
  | constant (template : String)
  | parameterized (template : String) (segments : List Segment) (names : List String)
deriving DecidableEq, Repr

namespace Pattern

/-- The pieces behind the leading slash of a path, if it has one. -/
def pieces? (path : String) : Option (List String) :=
  match path.toList with
  | '/' :: rest => some (Text.slashPieces (String.ofList rest))
  | _ => none

/-- Read a template. -/
def compile (template : String) : Except BuildError Pattern :=
  match pieces? template with
  | none => .error (.invalidTemplate template .noLeadingSlash)
  | some pieces =>
    match Segment.readAll [] pieces with
    | .error reason => .error (.invalidTemplate template reason)
    | .ok segments =>
      match segments.filterMap Segment.name? with
      | [] => .ok (constant template)
      | names => .ok (parameterized template segments names)

/-- The text a pattern was read from. -/
def template : Pattern → String
  | constant t | parameterized t _ _ => t

/-- The names a pattern binds, in template order. -/
def names : Pattern → List String
  | constant _ => []
  | parameterized _ _ names => names

/-- Does the pattern bind nothing? -/
def isConstant : Pattern → Bool
  | constant _ => true
  | parameterized .. => false

/-- The values bound by matching a path, if it matches. -/
def matchPath? : Pattern → String → Option Params
  | constant t, path => if t = path then some {} else none
  | parameterized _ segments _, path =>
    (pieces? path).bind fun parts => (Segment.matchAll segments parts).map Params.mk

/-- A pattern as a developer sees it. -/
def debug : Pattern → String
  | constant t => "Constant(" ++ Text.quote t ++ ")"
  | parameterized t segments names =>
    Text.recordText "Parameterized"
      [("template", Text.quote t),
       ("segments", Text.bracketed (segments.map Segment.debug)),
       ("param_names", Text.bracketed (names.map Text.quote))]

end Pattern
end Switchyard.Route
