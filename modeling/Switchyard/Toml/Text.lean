import Switchyard.Number.Whole

/-!
  The text of a TOML document: its characters, blanks and comments, strings and keys.

  A document is first made `clean`: no mark at its front, lines that end in a single line feed, and no
  other control character but the tab.  Whatever is refused there is refused at every place of a
  document, so the readers behind it need not look for it again.
-/

namespace Switchyard.Toml

/-- A reader: from the unread characters to a value and the characters after it. -/
abbrev Reader (α : Type) := List Char → Option (α × List Char)

/-! ## Characters -/

/-- A control character that may stand nowhere. -/
def isForbidden (c : Char) : Bool := (c.toNat < 0x20 && c ≠ '\t' && c ≠ '\n') || c.toNat = 0x7F

/-- Line ends made one character, and control characters refused. -/
def cleanLines : List Char → Option (List Char)
  | '\r' :: '\n' :: cs => (cleanLines cs).map ('\n' :: ·)
  | c :: cs => if isForbidden c then none else (cleanLines cs).map (c :: ·)
  | [] => some []

/-- The characters of a document that count. -/
def clean (s : String) : Option (List Char) :=
  match s.toList with
  | '\uFEFF' :: cs => cleanLines cs
  | cs => cleanLines cs

/-- A blank within a line. -/
def isBlank (c : Char) : Bool := c = ' ' || c = '\t'

/-- Skip blanks. -/
def skipBlanks : List Char → List Char := List.dropWhile isBlank

/-- Skip blanks, line ends and comments. -/
def skipSpace : (comment : Bool) → List Char → List Char
  | _, [] => []
  | true, c :: cs => skipSpace (c ≠ '\n') cs
  | false, c :: cs =>
    if isBlank c || c = '\n' then skipSpace false cs
    else if c = '#' then skipSpace true cs
    else c :: cs

/-- What may stand behind an item on its line: blanks and a comment. -/
def endLine (cs : List Char) : Option (List Char) :=
  let rest := match skipBlanks cs with
    | '#' :: cs => cs.dropWhile (· ≠ '\n')
    | cs => cs
  match rest with
  | [] => some []
  | '\n' :: cs => some cs
  | _ => none

/-! ## Strings -/

/-- The character that a short escape stands for. -/
def shortEscape? : Char → Option Char
  | 'b' => some '\x08'
  | 'f' => some '\x0c'
  | 'n' => some '\n'
  | 'r' => some '\r'
  | 't' => some '\t'
  | '"' => some '"'
  | '\\' => some '\\'
  | _ => none

/-- The character whose code point is given in base sixteen. -/
def codePoint? (digits : List Char) : Option Char :=
  (Number.readNat 16 digits).bind fun n => if n.isValidChar then some (Char.ofNat n) else none

/-- The number of digits behind the letter of a numeric escape. -/
def escapeWidth? (c : Char) : Option Nat :=
  if c = 'u' then some 4 else if c = 'U' then some 8 else none

/-- The character of an escape, its backslash having been read. -/
def readEscape : Reader Char
  | [] => none
  | c :: cs =>
    match escapeWidth? c with
    | none => (shortEscape? c).map fun e => (e, cs)
    | some width =>
      if cs.length < width then none
      else (codePoint? (cs.take width)).map fun e => (e, cs.drop width)

theorem length_readEscape {cs rest : List Char} {c : Char} (h : readEscape cs = some (c, rest)) :
    rest.length < cs.length := by
  cases cs with
  | nil => simp [readEscape] at h
  | cons d cs =>
    simp only [readEscape] at h
    split at h
    · obtain ⟨_, _, h⟩ := Option.map_eq_some_iff.mp h
      simp [← (Prod.mk.inj h).2]
    · split at h
      · simp at h
      · obtain ⟨_, _, h⟩ := Option.map_eq_some_iff.mp h
        rw [← (Prod.mk.inj h).2, List.length_drop, List.length_cons]
        omega

/-- The rest of a string on one line with escapes, onto the characters read so far (last first). -/
def readBasicOnto (seen : List Char) (cs : List Char) : Option (String × List Char) :=
  match cs with
  | [] => none
  | c :: cs =>
    if c = '"' then some (String.ofList seen.reverse, cs)
    else if c = '\n' then none
    else if c = '\\' then
      match h : readEscape cs with
      | none => none
      | some (e, rest) =>
        have : rest.length < cs.length := length_readEscape h
        readBasicOnto (e :: seen) rest
    else readBasicOnto (c :: seen) cs
termination_by cs.length

/-- The rest of a string on one line without escapes. -/
def readLiteral : Reader String := fun cs =>
  let word := cs.takeWhile fun c => c ≠ '\'' && c ≠ '\n'
  match cs.drop word.length with
  | '\'' :: rest => some (String.ofList word, rest)
  | _ => none

/-- The number of quotes at the front that belong to a string of several lines, and whether the
    string ends with them.  Three quotes end it, and up to two more in front of those belong to it. -/
def quotesWithin (n : Nat) : Nat × Bool := if n < 3 then (n, false) else (min (n - 3) 2, true)

/-- The rest of a string of several lines, onto the characters read so far (last first).  With
    escapes, a backslash at the end of a line joins the next text that is not blank. -/
def readLinesOnto (quote : Char) (seen : List Char) (cs : List Char) :
    Option (String × List Char) :=
  match cs with
  | [] => none
  | c :: cs =>
    if c = quote then
      let run := cs.takeWhile (· = quote)
      let (own, ends) := quotesWithin (run.length + 1)
      let seen := List.replicate own quote ++ seen
      if ends then some (String.ofList seen.reverse, cs.drop (own + 2))
      else readLinesOnto quote seen (cs.drop run.length)
    else if c = '\\' && quote = '"' then
      match skipBlanks cs with
      | '\n' :: _ =>
        readLinesOnto quote seen (cs.dropWhile fun c => isBlank c || c = '\n')
      | _ =>
        match h : readEscape cs with
        | none => none
        | some (e, rest) =>
          have : rest.length < cs.length := length_readEscape h
          readLinesOnto quote (e :: seen) rest
    else readLinesOnto quote (c :: seen) cs
termination_by cs.length
decreasing_by
  all_goals simp only [List.length_drop, List.length_cons]
  all_goals first
    | omega
    | exact Nat.lt_succ_of_le (List.dropWhile_sublist _).length_le

/-- A line end right behind the opening quotes does not belong to the string. -/
def trimFirstLine : List Char → List Char
  | '\n' :: cs => cs
  | cs => cs

/-- A string in one of its four forms. -/
def readString : Reader String
  | '"' :: '"' :: '"' :: cs => readLinesOnto '"' [] (trimFirstLine cs)
  | '"' :: cs => readBasicOnto [] cs
  | '\'' :: '\'' :: '\'' :: cs => readLinesOnto '\'' [] (trimFirstLine cs)
  | '\'' :: cs => readLiteral cs
  | _ => none

/-! ## Keys -/

/-- A character of a bare key. -/
def isBare (c : Char) : Bool :=
  ('a' ≤ c && c ≤ 'z') || ('A' ≤ c && c ≤ 'Z') || ('0' ≤ c && c ≤ '9') || c = '_' || c = '-'

/-- One part of a key: bare, or a string on one line. -/
def readPart : Reader String
  | '"' :: cs => readBasicOnto [] cs
  | '\'' :: cs => readLiteral cs
  | cs =>
    let word := cs.takeWhile isBare
    if word.isEmpty then none else some (String.ofList word, cs.drop word.length)

/-- The parts of a key between points, with blanks around each. -/
def readParts (cs : List Char) : Option (List String × List Char) :=
  match readPart (skipBlanks cs) with
  | none => none
  | some (part, rest) =>
    match skipBlanks rest with
    | '.' :: rest =>
      if rest.length < cs.length then (readParts rest).map fun (ps, rest) => (part :: ps, rest)
      else none
    | rest => some ([part], rest)
termination_by cs.length

/-- A bound that the parts of a key, and the levels of nested values, stay below. -/
def depthBound : Nat := 80

/-- A key with the blanks around it. -/
def readKey : Reader (List String) := fun cs =>
  (readParts cs).filter fun (parts, _) => parts.length < depthBound

end Switchyard.Toml
