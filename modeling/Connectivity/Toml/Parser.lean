import Connectivity.Toml.Scalar

/-!
# Reading TOML

The statements of a TOML 1.1 text: assignments of values to keys, and headers of tables. What the
statements make of each other is the matter of `Toml.Table`. Each reader returns what it read and
the characters that follow.
-/
namespace Connectivity.Toml

open Text

/-- A value as written: an inline table is a list of assignments. -/
inductive Expression where
  | plain (value : Toml)
  | array (items : List Expression)
  | inline (entries : List (List String × Expression))
  deriving Repr

inductive Statement where
  | assign (path : List String) (value : Expression)
  | header (path : List String)
  | arrayHeader (path : List String)
  deriving Repr

def isSpace (c : Char) : Bool := c = ' ' || c = '\t'

def skipSpace (cs : List Char) : List Char := cs.dropWhile isSpace

/-- A line ends in a line feed, with a carriage return before it or not. -/
def newline? : List Char → Option (List Char)
  | '\n' :: rest => some rest
  | '\r' :: '\n' :: rest => some rest
  | _ => none

/-- Control characters other than the tab stand neither in comments nor in strings. -/
def isPlain (c : Char) : Bool := c = '\t' || (0x20 ≤ c.toNat && c.toNat ≠ 0x7f)

/-- The rest of a line if it holds nothing but space and a comment: the lines that follow. -/
def endLine? (cs : List Char) : Option (List Char) :=
  let rest := match skipSpace cs with
    | '#' :: rest => rest.dropWhile isPlain
    | rest => rest
  if rest.isEmpty then some [] else newline? rest

/-- Skips space, line ends and comments, of which there are at most `fuel`. -/
def skipLines : Nat → List Char → Option (List Char)
  | 0, _ => none
  | fuel + 1, cs =>
      match skipSpace cs with
      | [] => some []
      | c :: rest =>
          if c = '#' || c = '\n' || c = '\r' then (endLine? (c :: rest)).bind (skipLines fuel)
          else some (c :: rest)

/-- A character by its code, if the code is one of a character. -/
def charOf? (n : Nat) : Option Char := if n.isValidChar then some (Char.ofNat n) else none

/-- What a backslash stands for, together with the characters that follow it. -/
def readEscape : List Char → Option (Char × List Char)
  | [] => none
  | c :: rest =>
      let coded (width : Nat) : Option (Char × List Char) := do
        let ds := rest.take width
        if ds.length = width then
          let n ← ofHex? ds
          let c ← charOf? n
          some (c, rest.drop width)
        else none
      if c = '"' || c = '\\' then some (c, rest)
      else if c = 'b' then some ('\x08', rest)
      else if c = 't' then some ('\t', rest)
      else if c = 'n' then some ('\n', rest)
      else if c = 'f' then some ('\x0c', rest)
      else if c = 'r' then some ('\r', rest)
      else if c = 'e' then some ('\x1b', rest)
      else if c = 'x' then coded 2
      else if c = 'u' then coded 4
      else if c = 'U' then coded 8
      else none

/-- A string on one line, after its quote. -/
def readBasic : Nat → List Char → Option (List Char × List Char)
  | 0, _ => none
  | _, [] => none
  | fuel + 1, c :: rest =>
      if c = '"' then some ([], rest)
      else if c = '\\' then do
        let (c, rest) ← readEscape rest
        let (s, rest) ← readBasic fuel rest
        some (c :: s, rest)
      else if isPlain c then do
        let (s, rest) ← readBasic fuel rest
        some (c :: s, rest)
      else none

/-- A string without escapes on one line, after its quote. -/
def readLiteral : List Char → Option (List Char × List Char)
  | [] => none
  | c :: rest =>
      if c = '\'' then some ([], rest)
      else if isPlain c then do
        let (s, rest) ← readLiteral rest
        some (c :: s, rest)
      else none

/-- Three quotes end a string of several lines; one or two more just before them belong to it. -/
def closing? (quote : Char) : List Char → Option (List Char × List Char)
  | a :: b :: c :: rest =>
      if a = quote && b = quote && c = quote then
        match rest with
        | d :: e :: rest' =>
            if d = quote then
              if e = quote then some ([quote, quote], rest') else some ([quote], e :: rest')
            else some ([], rest)
        | [d] => if d = quote then some ([quote], []) else some ([], rest)
        | [] => some ([], [])
      else none
  | _ => none

/-- Skips space and line ends. -/
def skipBlank : List Char → List Char
  | '\r' :: '\n' :: rest => skipBlank rest
  | c :: rest => if isSpace c || c = '\n' then skipBlank rest else c :: rest
  | [] => []

/-- A backslash at the end of a line: the text after the space and line ends that follow it. -/
def continued? (cs : List Char) : Option (List Char) := (newline? (skipSpace cs)).map skipBlank

/-- Line ends stand in a string of several lines as they are. -/
def isPlainOrNewline (c : Char) (rest : List Char) : Bool :=
  isPlain c || (newline? (c :: rest)).isSome

/-- A string of several lines, after its three quotes. -/
def readMultiBasic : Nat → List Char → Option (List Char × List Char)
  | 0, _ => none
  | _, [] => none
  | fuel + 1, c :: rest =>
      match closing? '"' (c :: rest) with
      | some closed => some closed
      | none =>
          if c = '\\' then
            match continued? rest with
            | some rest => readMultiBasic fuel rest
            | none => do
                let (c, rest) ← readEscape rest
                let (s, rest) ← readMultiBasic fuel rest
                some (c :: s, rest)
          else if isPlainOrNewline c rest then
            (readMultiBasic fuel rest).map fun (s, rest) => (c :: s, rest)
          else none

/-- A string of several lines without escapes, after its three quotes. -/
def readMultiLiteral : Nat → List Char → Option (List Char × List Char)
  | 0, _ => none
  | _, [] => none
  | fuel + 1, c :: rest =>
      match closing? '\'' (c :: rest) with
      | some closed => some closed
      | none =>
          if isPlainOrNewline c rest then
            (readMultiLiteral fuel rest).map fun (s, rest) => (c :: s, rest)
          else none

/-- A string of several lines does not hold the line end just after its quotes. -/
def dropNewline (cs : List Char) : List Char := (newline? cs).getD cs

/-- A string of any of the four kinds, from its first quote on. -/
def readString (cs : List Char) : Option (String × List Char) :=
  let read := match cs with
    | '"' :: '"' :: '"' :: rest => readMultiBasic (rest.length + 1) (dropNewline rest)
    | '\'' :: '\'' :: '\'' :: rest => readMultiLiteral (rest.length + 1) (dropNewline rest)
    | '"' :: rest => readBasic (rest.length + 1) rest
    | '\'' :: rest => readLiteral rest
    | _ => none
  read.map fun (s, rest) => (String.ofList s, rest)

def isBareKeyChar (c : Char) : Bool := c.isAlphanum || c = '_' || c = '-'

/-- One part of a key: letters, digits, dashes and underscores, or a string on one line. -/
def readKeyPart (cs : List Char) : Option (String × List Char) :=
  match cs with
  | '"' :: rest => (readBasic (rest.length + 1) rest).map fun (s, rest) => (String.ofList s, rest)
  | '\'' :: rest => (readLiteral rest).map fun (s, rest) => (String.ofList s, rest)
  | _ =>
      let bare := cs.takeWhile isBareKeyChar
      if bare.isEmpty then none else some (String.ofList bare, cs.dropWhile isBareKeyChar)

/-- Arrays and inline tables within each other go no deeper than this, nor do the parts of a key. -/
def maxDepth : Nat := 80

/-- A key of at most `depth` parts with points between them, and the space after it. -/
def readParts : Nat → List Char → Option (List String × List Char)
  | 0, _ => none
  | depth + 1, cs => do
      let (part, rest) ← readKeyPart (skipSpace cs)
      match skipSpace rest with
      | '.' :: rest => (readParts depth rest).map fun (parts, rest) => (part :: parts, rest)
      | rest => some ([part], rest)

def readKey (cs : List Char) : Option (List String × List Char) := readParts maxDepth cs

/-- What ends words: a line end, a comment, or a mark of an assignment, an array or a table. -/
def isMark (c : Char) : Bool := "\n\r#=,[]\x7b\x7d".toList.contains c

/-- A character that can begin a further word. -/
def isWordStart (c : Char) : Bool := !(isMark c || isSpace c || c = '"' || c = '\'')

/-- Words up to a mark or a string, and what follows them. Space between words, as there is between
a date and a time, belongs to them; space behind the last word does not. -/
def spanWords : List Char → List Char × List Char
  | [] => ([], [])
  | c :: rest =>
      if isMark c || (isSpace c && !(skipSpace rest).head?.any isWordStart) then ([], c :: rest)
      else
        let (words, rest) := spanWords rest
        (c :: words, rest)

/-- A value without quotes or brackets. -/
def readWords (cs : List Char) : Option (Toml × List Char) :=
  let (words, rest) := spanWords cs
  (ofWords? words).map (·, rest)

mutual

/-- A value; `depth` counts the arrays and tables that it may still open. -/
def readValue : Nat → Nat → List Char → Option (Expression × List Char)
  | 0, _, _ => none
  | fuel + 1, depth, cs =>
      match cs with
      | '[' :: rest => if depth = 0 then none else readItems fuel (depth - 1) rest
      | '{' :: rest => if depth = 0 then none else readEntries fuel (depth - 1) rest
      | '"' :: _ | '\'' :: _ => (readString cs).map fun (s, rest) => (.plain (.string s), rest)
      | _ => (readWords cs).map fun (v, rest) => (.plain v, rest)

/-- The items of an array up to its bracket. A comma may stand after the last one. -/
def readItems : Nat → Nat → List Char → Option (Expression × List Char)
  | 0, _, _ => none
  | fuel + 1, depth, cs => do
      match ← skipLines (cs.length + 1) cs with
      | ']' :: rest => some (.array [], rest)
      | cs =>
          let (v, rest) ← readValue fuel depth cs
          match ← skipLines (rest.length + 1) rest with
          | ',' :: rest =>
              match ← readItems fuel depth rest with
              | (.array items, rest) => some (.array (v :: items), rest)
              | _ => none
          | ']' :: rest => some (.array [v], rest)
          | _ => none

/-- The assignments of an inline table up to its brace. Lines may end between any two of its marks,
keys and values. A comma may stand after the last assignment. -/
def readEntries : Nat → Nat → List Char → Option (Expression × List Char)
  | 0, _, _ => none
  | fuel + 1, depth, cs => do
      match ← skipLines (cs.length + 1) cs with
      | '}' :: rest => some (.inline [], rest)
      | cs =>
          let (path, rest) ← readKey cs
          let rest ← skipLines (rest.length + 1) rest
          let rest ← mark '=' rest
          let rest ← skipLines (rest.length + 1) rest
          let (v, rest) ← readValue fuel depth rest
          match ← skipLines (rest.length + 1) rest with
          | ',' :: rest =>
              match ← readEntries fuel depth rest with
              | (.inline entries, rest) => some (.inline ((path, v) :: entries), rest)
              | _ => none
          | '}' :: rest => some (.inline [(path, v)], rest)
          | _ => none

end

/-- One statement up to the end of its line. -/
def readStatement (cs : List Char) : Option (Statement × List Char) := do
  let (statement, rest) ←
    match cs with
    | '[' :: '[' :: rest => do
        let (path, rest) ← readKey rest
        let rest ← (mark ']' rest).bind (mark ']')
        some (Statement.arrayHeader path, rest)
    | '[' :: rest => do
        let (path, rest) ← readKey rest
        let rest ← mark ']' rest
        some (Statement.header path, rest)
    | _ => do
        let (path, rest) ← readKey cs
        let rest ← mark '=' rest
        let (v, rest) ← readValue (rest.length + 1) maxDepth (skipSpace rest)
        some (Statement.assign path v, rest)
  (endLine? rest).map fun rest => (statement, rest)

/-- All statements of a text, at most `fuel` of them. -/
def readStatements : Nat → List Char → Option (List Statement)
  | 0, _ => none
  | fuel + 1, cs => do
      match ← skipLines (cs.length + 1) cs with
      | [] => some []
      | cs =>
          let (statement, rest) ← readStatement cs
          (readStatements fuel rest).map (statement :: ·)

/-- The statements of a text, which may begin with a byte order mark. -/
def statements? (text : String) : Option (List Statement) :=
  let cs := match text.toList with
    | '\ufeff' :: cs => cs
    | cs => cs
  readStatements (cs.length + 1) cs

end Connectivity.Toml
