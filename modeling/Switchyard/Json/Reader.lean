import Switchyard.Json.Value
import Switchyard.Json.Token

/-!
  Reading a JSON text into an expected shape.  The shape is known before the text is read, so a
  mismatch is noticed at the value that causes it and not after the whole text.

  Every reader that calls itself carries a step count.  A step is spent only where at least one byte
  is read, so a count of one more than the bytes left never runs out.
-/

namespace Switchyard.Json

/-- What a text is expected to hold. -/
inductive Shape where
  /-- Any value; the members of objects come out sorted by name. -/
  | any
  | string
  | boolean
  /-- Nothing but `null`. -/
  | unit
  /-- A whole number between two bounds, under the name of its type. -/
  | whole (name : String) (least greatest : Int)
  /-- The value or `null`. -/
  | optional (inner : Shape)
  /-- An array of one kind of item. -/
  | list (item : Shape)
  /-- An object with known fields, or an array of their values in order.  A field with a value of
      its own need not be there; unknown members are skipped. -/
  | record (name : String) (fields : List (String × Shape × Option Json))

/-- An unsigned byte. -/
def Shape.byte : Shape := .whole "u8" 0 255

/-- A signed word. -/
def Shape.signed : Shape := .whole "i64" (-0x8000000000000000) 0x7FFFFFFFFFFFFFFF

/-- The deepest level of arrays and objects, plus one. -/
def depthLimit : Nat := 128

/-! ## Values of the wrong kind -/

/-- Fail because the value that comes next is not the expected one.  A scalar is read first, so that
    the fault stands after it. -/
def mismatch {α : Type} (expected : String) (bs : Bytes) : Except Fault α :=
  match bs with
  | 0x6E :: rest => do
    let (_, rest) ← readWordRest [0x75, 0x6C, 0x6C] rest
    failAt (.wrongType .null expected) rest
  | 0x74 :: rest => do
    let (_, rest) ← readWordRest [0x72, 0x75, 0x65] rest
    failAt (.wrongType (.boolean true) expected) rest
  | 0x66 :: rest => do
    let (_, rest) ← readWordRest [0x61, 0x6C, 0x73, 0x65] rest
    failAt (.wrongType (.boolean false) expected) rest
  | 0x2D :: rest => do
    let (n, rest) ← readNumeral false rest
    failAt (.wrongType n.found expected) rest
  | 0x22 :: rest => do
    let (s, rest) ← readString rest
    failAt (.wrongType (.string s) expected) rest
  | 0x5B :: _ => failAt (.wrongType .sequence expected) bs
  | 0x7B :: _ => failAt (.wrongType .map expected) bs
  | b :: _ =>
    if isDigit b then do
      let (n, rest) ← readNumeral true bs
      failAt (.wrongType n.found expected) rest
    else failOn .expectedValue bs
  | [] => failOn .expectedValue bs

/-! ## Punctuation -/

/-- Is there another item in an array?  Reads the comma before it. -/
def nextItem? (first : Bool) : Reader Bool := fun bs =>
  match skipBlanks bs with
  | [] => failOn .eofList []
  | 0x5D :: rest => .ok (false, 0x5D :: rest)
  | b :: rest =>
    if first then .ok (true, b :: rest)
    else if b = 0x2C then
      match skipBlanks rest with
      | [] => failOn .eofValue []
      | 0x5D :: rest => failOn .trailingComma (0x5D :: rest)
      | rest => .ok (true, rest)
    else failOn .expectedListEnd (b :: rest)

/-- Is there another member in an object?  Reads the comma and the opening quote of its name. -/
def nextMember? (first : Bool) : Reader Bool := fun bs =>
  match skipBlanks bs with
  | [] => failOn .eofObject []
  | 0x7D :: rest => .ok (false, 0x7D :: rest)
  | b :: rest =>
    if first then
      if b = 0x22 then .ok (true, rest) else failOn .keyNotString (b :: rest)
    else if b = 0x2C then
      match skipBlanks rest with
      | [] => failOn .eofValue []
      | 0x22 :: rest => .ok (true, rest)
      | 0x7D :: rest => failOn .trailingComma (0x7D :: rest)
      | rest => failOn .keyNotString rest
    else failOn .expectedObjectEnd (b :: rest)

/-- The colon after a member's name. -/
def readColon : Reader Unit := fun bs =>
  match skipBlanks bs with
  | [] => failOn .eofObject []
  | 0x3A :: rest => .ok ((), rest)
  | rest => failOn .expectedColon rest

/-- The end of an array. -/
def closeList : Reader Unit := fun bs =>
  match skipBlanks bs with
  | [] => failOn .eofList []
  | 0x5D :: rest => .ok ((), rest)
  | 0x2C :: rest =>
    match skipBlanks rest with
    | 0x5D :: rest => failOn .trailingComma (0x5D :: rest)
    | rest => failOn .trailingCharacters rest
  | rest => failOn .trailingCharacters rest

/-- The end of an object. -/
def closeObject : Reader Unit := fun bs =>
  match skipBlanks bs with
  | [] => failOn .eofObject []
  | 0x7D :: rest => .ok ((), rest)
  | 0x2C :: rest => failOn .trailingComma (0x2C :: rest)
  | rest => failOn .trailingCharacters rest

/-- What is left after looking for the end of an array, whether or not it was there. -/
def afterList (bs : Bytes) : Bytes :=
  match skipBlanks bs with
  | 0x5D :: rest => rest
  | 0x2C :: rest => skipBlanks rest
  | rest => rest

/-- What is left after looking for the end of an object, whether or not it was there. -/
def afterObject (bs : Bytes) : Bytes :=
  match skipBlanks bs with
  | 0x7D :: rest => rest
  | rest => rest

/-! ## Skipping -/

mutual

/-- Skip one value, looking only at its form. -/
def skipValue : Nat → Reader Unit
  | 0, bs => failOn .eofValue bs
  | steps + 1, bs =>
    match skipBlanks bs with
    | [] => failOn .eofValue []
    | 0x6E :: rest => readWordRest [0x75, 0x6C, 0x6C] rest
    | 0x74 :: rest => readWordRest [0x72, 0x75, 0x65] rest
    | 0x66 :: rest => readWordRest [0x61, 0x6C, 0x73, 0x65] rest
    | 0x2D :: rest => skipNumeral rest
    | 0x22 :: rest => skipString rest
    | 0x5B :: rest =>
      match skipBlanks rest with
      | 0x5D :: rest => .ok ((), rest)
      | [] => failOn .eofList []
      | rest => skipItems steps rest
    | 0x7B :: rest =>
      match skipBlanks rest with
      | 0x7D :: rest => .ok ((), rest)
      | [] => failOn .eofObject []
      | rest => skipMembers steps rest
    | b :: rest =>
      if isDigit b then skipNumeral (b :: rest) else failOn .expectedValue (b :: rest)

/-- Skip the items of an array, of which there is at least one, and its end. -/
def skipItems : Nat → Reader Unit
  | 0, bs => failOn .eofList bs
  | steps + 1, bs => do
    let (_, rest) ← skipValue steps bs
    match skipBlanks rest with
    | [] => failOn .eofList []
    | 0x5D :: rest => .ok ((), rest)
    | 0x2C :: rest => skipItems steps rest
    | rest => failOn .expectedListEnd rest

/-- Skip the members of an object, of which there is at least one, and its end. -/
def skipMembers : Nat → Reader Unit
  | 0, bs => failOn .eofObject bs
  | steps + 1, bs =>
    match skipBlanks bs with
    | [] => failOn .eofObject []
    | 0x22 :: rest => do
      let (_, rest) ← skipString rest
      let (_, rest) ← readColon rest
      let (_, rest) ← skipValue steps rest
      match skipBlanks rest with
      | [] => failOn .eofObject []
      | 0x7D :: rest => .ok ((), rest)
      | 0x2C :: rest => skipMembers steps rest
      | rest => failOn .expectedObjectEnd rest
    | rest => failOn .keyNotString rest

end

/-! ## Reading into a shape -/

/-- A number read into bounds. -/
def checkWhole (name : String) (least greatest : Int) (n : Numeral) (rest : Bytes) :
    Except Fault (Json × Bytes) :=
  match n with
  | .int i =>
    if least ≤ i ∧ i ≤ greatest then .ok (.int i, rest)
    else failAt (.wrongValue (.integer i) name) rest
  | .double x => failAt (.wrongType (.double x) name) rest

/-- A number as a value. -/
def Numeral.toJson : Numeral → Json
  | .int i => .int i
  | .double x => .double x

/-- The phrase for a record with its number of fields. -/
def fieldsPhrase (name : String) (count : Nat) : String :=
  "struct " ++ name ++ " with " ++ Number.natText count ++
    (if count = 1 then " element" else " elements")

/-- The fields of a record from the members that were found: those in order, and the first that is
    missing without a value of its own. -/
def completeFields (found : List (String × Json)) :
    List (String × Shape × Option Json) → Except Cause (List (String × Json))
  | [] => .ok []
  | (name, shape, default?) :: rest =>
    match (found.find? (·.1 = name)).map (·.2), default?, shape with
    | some v, _, _ => (completeFields found rest).map ((name, v) :: ·)
    | none, some v, _ => (completeFields found rest).map ((name, v) :: ·)
    | none, none, .optional _ => (completeFields found rest).map ((name, .null) :: ·)
    | none, none, _ => .error (.missingField name)

/-- Finish an array or object whose content was read with a verdict of its own: a verdict that is
    against it stands, at the place after the end that was looked for. -/
def settle (close : Reader Unit) (after : Bytes → Bytes) (verdict : Except Cause Json)
    (bs : Bytes) : Except Fault (Json × Bytes) :=
  match verdict with
  | .ok v => (close bs).map fun (_, rest) => (v, rest)
  | .error cause => failAt cause (after bs)

mutual

/-- Read one value into a shape.  `depth` is the number of levels still allowed. -/
def Shape.decode : Nat → Nat → Shape → Reader Json
  | 0, _, _, bs => failOn .eofValue bs
  | steps + 1, depth, shape, bs =>
    let bs := skipBlanks bs
    match shape, bs with
    | .optional _, 0x6E :: rest => do
      let (_, rest) ← readWordRest [0x75, 0x6C, 0x6C] rest
      .ok (.null, rest)
    | .optional inner, bs => Shape.decode steps depth inner bs
    | _, [] => failOn .eofValue []
    | .any, 0x6E :: rest | .unit, 0x6E :: rest => do
      let (_, rest) ← readWordRest [0x75, 0x6C, 0x6C] rest
      .ok (.null, rest)
    | .any, 0x74 :: rest | .boolean, 0x74 :: rest => do
      let (_, rest) ← readWordRest [0x72, 0x75, 0x65] rest
      .ok (.bool true, rest)
    | .any, 0x66 :: rest | .boolean, 0x66 :: rest => do
      let (_, rest) ← readWordRest [0x61, 0x6C, 0x73, 0x65] rest
      .ok (.bool false, rest)
    | .any, 0x22 :: rest | .string, 0x22 :: rest => do
      let (s, rest) ← readString rest
      .ok (.string s, rest)
    | .any, 0x5B :: rest =>
      if depth ≤ 1 then failOn .tooDeep bs
      else do
        let (items, rest) ← decodeItems steps (depth - 1) .any true rest
        settle closeList afterList (.ok (.array items)) rest
    | .list item, 0x5B :: rest =>
      if depth ≤ 1 then failOn .tooDeep bs
      else do
        let (items, rest) ← decodeItems steps (depth - 1) item true rest
        settle closeList afterList (.ok (.array items)) rest
    | .any, 0x7B :: rest =>
      if depth ≤ 1 then failOn .tooDeep bs
      else do
        let (members, rest) ← decodeMembers steps (depth - 1) true rest
        settle closeObject afterObject (.ok (sortedObject members)) rest
    | .record name fields, 0x5B :: rest =>
      if depth ≤ 1 then failOn .tooDeep bs
      else do
        let (verdict, rest) ← decodeInOrder steps (depth - 1) name fields.length true 0 fields rest
        settle closeList afterList (verdict.map .object) rest
    | .record _ fields, 0x7B :: rest =>
      if depth ≤ 1 then failOn .tooDeep bs
      else do
        let (verdict, rest) ← decodeFields steps (depth - 1) fields true [] rest
        settle closeObject afterObject (verdict.map .object) rest
    | .any, 0x2D :: rest => do
      let (n, rest) ← readNumeral false rest
      .ok (n.toJson, rest)
    | .whole name least greatest, 0x2D :: rest => do
      let (n, rest) ← readNumeral false rest
      checkWhole name least greatest n rest
    | .any, b :: rest =>
      if isDigit b then do
        let (n, rest) ← readNumeral true (b :: rest)
        .ok (n.toJson, rest)
      else failOn .expectedValue bs
    | .whole name least greatest, b :: rest =>
      if isDigit b then do
        let (n, rest) ← readNumeral true (b :: rest)
        checkWhole name least greatest n rest
      else mismatch name bs
    | .string, _ => mismatch "a string" bs
    | .boolean, _ => mismatch "a boolean" bs
    | .unit, _ => mismatch "unit" bs
    | .list _, _ => mismatch "a sequence" bs
    | .record name _, _ => mismatch ("struct " ++ name) bs

/-- The items of an array up to its end. -/
def Shape.decodeItems : Nat → Nat → Shape → Bool → Reader (List Json)
  | 0, _, _, _, bs => failOn .eofList bs
  | steps + 1, depth, item, first, bs => do
    let (more, rest) ← nextItem? first bs
    if more then
      let (v, rest) ← Shape.decode steps depth item rest
      let (vs, rest) ← decodeItems steps depth item false rest
      .ok (v :: vs, rest)
    else .ok ([], rest)

/-- The members of an object up to its end. -/
def Shape.decodeMembers : Nat → Nat → Bool → Reader (List (String × Json))
  | 0, _, _, bs => failOn .eofObject bs
  | steps + 1, depth, first, bs => do
    let (more, rest) ← nextMember? first bs
    if more then
      let (name, rest) ← readString rest
      let (_, rest) ← readColon rest
      let (v, rest) ← Shape.decode steps depth .any rest
      let (ms, rest) ← decodeMembers steps depth false rest
      .ok ((name, v) :: ms, rest)
    else .ok ([], rest)

/-- The fields of a record written as an array. -/
def Shape.decodeInOrder : Nat → Nat → String → Nat → Bool → Nat →
    List (String × Shape × Option Json) → Reader (Except Cause (List (String × Json)))
  | 0, _, _, _, _, _, _, bs => failOn .eofList bs
  | _ + 1, _, _, _, _, _, [], bs => .ok (.ok [], bs)
  | steps + 1, depth, name, count, first, index, (field, shape, default?) :: fields, bs => do
    let (more, rest) ← nextItem? first bs
    if more then
      let (v, rest) ← Shape.decode steps depth shape rest
      let (others, rest) ← decodeInOrder steps depth name count false (index + 1) fields rest
      .ok (others.map ((field, v) :: ·), rest)
    else match default? with
      | none => .ok (.error (.wrongLength index (fieldsPhrase name count)), rest)
      | some v =>
        let (others, rest) ← decodeInOrder steps depth name count first (index + 1) fields rest
        .ok (others.map ((field, v) :: ·), rest)

/-- The fields of a record written as an object, onto those found so far. -/
def Shape.decodeFields : Nat → Nat → List (String × Shape × Option Json) → Bool →
    List (String × Json) → Reader (Except Cause (List (String × Json)))
  | 0, _, _, _, _, bs => failOn .eofObject bs
  | steps + 1, depth, fields, first, found, bs => do
    let (more, rest) ← nextMember? first bs
    if more then
      let (name, rest) ← readString rest
      match fields.find? (·.1 = name) with
      | none =>
        let (_, rest) ← readColon rest
        let (_, rest) ← skipValue (rest.length + 1) rest
        decodeFields steps depth fields false found rest
      | some (_, shape, _) =>
        if found.any (·.1 = name) then .ok (.error (.duplicateField name), rest)
        else
          let (_, rest) ← readColon rest
          let (v, rest) ← Shape.decode steps depth shape rest
          decodeFields steps depth fields false (found ++ [(name, v)]) rest
    else .ok (completeFields found fields, rest)

end

/-- Read a whole text into a shape. -/
def Shape.read (shape : Shape) (bs : Bytes) : Except Fault Json := do
  let (v, rest) ← shape.decode (2 * bs.length + 8) depthLimit bs
  match skipBlanks rest with
  | [] => .ok v
  | rest => failOn .trailingCharacters rest

/-- Read a whole text as any value; a fault as its message. -/
def parse (bs : Bytes) : Except String Json :=
  match Shape.any.read bs with
  | .ok v => .ok v
  | .error f => .error (f.message bs)

end Switchyard.Json
