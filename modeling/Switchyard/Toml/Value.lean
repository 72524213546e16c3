/-!
  TOML values, and the tree of tables that a document builds line by line.

  A table may come to be in three ways, and the way decides who may add to it later: a header opens
  a table once; the names in front of a header's last one only stand on the way to it; a dotted key
  makes tables that only further dotted keys extend.
-/

namespace Switchyard.Toml

/-- A value. -/
inductive Value where
  | string (s : String)
  | integer (i : Int)
  | float (x : Float)
  | boolean (b : Bool)
  /-- A date, a time, or both, as written. -/
  | dateTime (text : String)
  | array (items : List Value)
  | table (entries : List (String × Value))

/-- How a table came to be. -/
inductive Origin where
  /-- By a header of its own. -/
  | header
  /-- On the way to another table's header. -/
  | implied
  /-- By a dotted key. -/
  | dotted
deriving DecidableEq, Repr

/-- What stands under a name while a document is read. -/
inductive Node where
  | leaf (value : Value)
  | table (origin : Origin) (entries : List (String × Node))
  /-- A list of tables with at least one element, the newest first. -/
  | tables (newest : List (String × Node)) (older : List (List (String × Node)))

/-- The entries of a table. -/
abbrev Entries := List (String × Node)

namespace Entries

/-- Replace what stands under a name; nothing stands under a new one.  The replacement may be
    refused. -/
def alter (name : String) (change : Option Node → Option Node) : Entries → Option Entries
  | [] => (change none).map fun n => [(name, n)]
  | (k, n) :: rest =>
    if k = name then (change (some n)).map fun n => (k, n) :: rest
    else (alter name change rest).map fun es => (k, n) :: es

/-- Change the table that a path of names leads to, making the tables on the way that are missing.
    Of several tables in a list the newest is meant.  A dotted key does not reach into a table with
    a header. -/
def alterAt (byKey : Bool) (change : Origin → Entries → Option Entries) :
    List String → Origin → Entries → Option Entries
  | [], origin, es => change origin es
  | k :: path, _, es => es.alter k fun
    | none =>
      let origin : Origin := if byKey then .dotted else .implied
      (alterAt byKey change path origin []).map (.table origin)
    | some (.leaf _) => none
    | some (.table origin es) =>
      if byKey && origin = .header then none
      else (alterAt byKey change path origin es).map (.table origin)
    | some (.tables newest older) =>
      (alterAt byKey change path .header newest).map fun es => .tables es older

/-- Put a value under a key of the table at hand.  A plain key belongs to the table that is open, a
    dotted one to a table made by dotted keys, and no name is used twice. -/
def define (key : List String) (value : Value) (origin : Origin) (es : Entries) : Option Entries :=
  let path := key.dropLast
  let insert (reached : Origin) (es : Entries) : Option Entries :=
    if (reached = .dotted) = path.isEmpty then none
    else es.alter (key.getLast?.getD "") fun
      | none => some (.leaf value)
      | some _ => none
  alterAt true insert path origin es

/-- Open a table by its header. -/
def openTable (key : List String) (es : Entries) : Option Entries :=
  let opened (_ : Origin) (es : Entries) : Option Entries :=
    es.alter (key.getLast?.getD "") fun
      | none => some (.table .header [])
      | some (.table .implied es) => some (.table .header es)
      | some _ => none
  alterAt false opened key.dropLast .header es

/-- Add a table to a list of tables by its header. -/
def pushTable (key : List String) (es : Entries) : Option Entries :=
  let pushed (_ : Origin) (es : Entries) : Option Entries :=
    es.alter (key.getLast?.getD "") fun
      | none => some (.tables [] [])
      | some (.tables newest older) => some (.tables [] (newest :: older))
      | some _ => none
  alterAt false pushed key.dropLast .header es

end Entries

mutual

/-- The value that a node stands for. -/
def Node.value : Node → Value
  | .leaf v => v
  | .table _ es => .table (Entries.values es)
  | .tables newest older => .array (Entries.tableValues older [.table (Entries.values newest)])

/-- The values of a table's entries. -/
def Entries.values : Entries → List (String × Value)
  | [] => []
  | (k, n) :: rest => (k, n.value) :: Entries.values rest

/-- The values of some tables, the newest first, in front of those that follow them. -/
def Entries.tableValues : List Entries → List Value → List Value
  | [], later => later
  | es :: older, later => Entries.tableValues older (.table (Entries.values es) :: later)

end

end Switchyard.Toml
