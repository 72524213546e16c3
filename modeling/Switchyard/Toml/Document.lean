import Switchyard.Toml.Number
import Switchyard.Toml.DateTime

/-!
  Reading a TOML document: values, the entries of tables, headers, and whole documents.

  A document says nothing about what is wrong with it; it is read or it is not.
-/

namespace Switchyard.Toml

/-! ## Values -/

/-- The rest of an array, onto the items read so far (last first).  A comma may stand behind the last
    item. -/
def readItemsOnto (item : Reader Value) (seen : List Value) (cs : List Char) :
    Option (List Value × List Char) :=
  match skipSpace false cs with
  | ']' :: rest => some (seen.reverse, rest)
  | start =>
    match item start with
    | none => none
    | some (v, rest) =>
      match skipSpace false rest with
      | ',' :: rest =>
        if rest.length < cs.length then readItemsOnto item (v :: seen) rest else none
      | ']' :: rest => some ((v :: seen).reverse, rest)
      | _ => none
termination_by cs.length

/-- A key, an equals sign and a value. -/
def readEntry (item : Reader Value) : Reader (List String × Value) := fun cs =>
  match readKey cs with
  | some (key, '=' :: rest) => (item (skipBlanks rest)).map fun (v, rest) => ((key, v), rest)
  | _ => none

/-- The rest of an inline table with at least one entry, added to the entries read so far. -/
def readEntriesOnto (item : Reader Value) (seen : Entries) (cs : List Char) :
    Option (Entries × List Char) :=
  match readEntry item cs with
  | none => none
  | some ((key, v), rest) =>
    match seen.define key v .header with
    | none => none
    | some seen =>
      match skipBlanks rest with
      | ',' :: rest => if rest.length < cs.length then readEntriesOnto item seen rest else none
      | '\x7d' :: rest => some (seen, rest)
      | _ => none
termination_by cs.length

/-- The rest of an inline table. -/
def readInlineTable (item : Reader Value) : Reader Value := fun cs =>
  match skipBlanks cs with
  | '\x7d' :: rest => some (.table [], rest)
  | _ => (readEntriesOnto item [] cs).map fun (es, rest) => (.table es.values, rest)

/-- A value that holds no others. -/
def readScalar : Reader Value
  | [] => none
  | c :: cs =>
    if c = '"' || c = '\'' then (readString (c :: cs)).map fun (s, rest) => (.string s, rest)
    else match c :: cs with
      | 't' :: 'r' :: 'u' :: 'e' :: rest => some (.boolean true, rest)
      | 'f' :: 'a' :: 'l' :: 's' :: 'e' :: rest => some (.boolean false, rest)
      | cs =>
        match readDateTime cs with
        | some (t, rest) => some (.dateTime t, rest)
        | none => readNumber cs

/-- A value; arrays and inline tables nest so many levels deep. -/
def readValue : (levels : Nat) → Reader Value
  | levels + 1, '[' :: cs =>
    (readItemsOnto (readValue levels) [] cs).map fun (vs, rest) => (.array vs, rest)
  | levels + 1, '\x7b' :: cs => readInlineTable (readValue levels) cs
  | _, cs => readScalar cs

/-! ## Lines -/

/-- The header of a table or of a list of tables: whether it is the latter, and its key. -/
def readHeader : Reader (Bool × List String)
  | '[' :: '[' :: cs =>
    match readKey cs with
    | some (key, ']' :: ']' :: rest) => some ((true, key), rest)
    | _ => none
  | '[' :: cs =>
    match readKey cs with
    | some (key, ']' :: rest) => some ((false, key), rest)
    | _ => none
  | _ => none

/-- A document on the way: the tables so far and the key of the one that is open. -/
structure Draft where
  root : Entries := []
  current : List String := []

namespace Draft

/-- Open a table. -/
def enter (d : Draft) (list : Bool) (key : List String) : Option Draft :=
  (if list then d.root.pushTable key else d.root.openTable key).map fun root => ⟨root, key⟩

/-- Put a value under a key of the open table. -/
def put (d : Draft) (key : List String) (v : Value) : Option Draft :=
  (Entries.alterAt false (Entries.define key v) d.current .header d.root).map fun root =>
    { d with root := root }

end Draft

/-- One line that is not blank, with what it adds to the document; the reader stands at its first
    character that is no blank. -/
def readLine (d : Draft) (cs : List Char) : Option (Draft × List Char) :=
  match cs with
  | '[' :: _ => do
    let ((list, key), rest) ← readHeader cs
    let d ← d.enter list key
    let rest ← endLine rest
    some (d, rest)
  | _ => do
    let ((key, v), rest) ← readEntry (readValue (depthBound - 1)) cs
    let d ← d.put key v
    let rest ← endLine rest
    some (d, rest)

/-- The lines of a document. -/
def readLines (d : Draft) (cs : List Char) : Option Draft :=
  match skipSpace false cs with
  | [] => some d
  | start =>
    match readLine d start with
    | none => none
    | some (d, rest) => if rest.length < cs.length then readLines d rest else none
termination_by cs.length

/-- Read a document: the entries of its outermost table. -/
def parse (s : String) : Option Value :=
  ((clean s).bind (readLines {})).map fun d => .table d.root.values

end Switchyard.Toml
