import FunctionBindings.Toml.Moment
import FunctionBindings.Toml.Node
import FunctionBindings.Toml.Number
import FunctionBindings.Toml.Quoted

/-!
# TOML documents

A document is a sequence of lines: pairs of a key and a value, and headers that begin a section. Of
two calls in a row of the scanners for values, items and members at least one has read a character,
so twice the length of the text bounds their depth.
-/

namespace FunctionBindings.Toml

/-- The key at the front of a text: bare, or a string of one line. -/
def scanKey : Scan String
  | '"' :: rest => quotedKey '"' rest
  | '\'' :: rest => quotedKey '\'' rest
  | cs =>
      match cs.takeWhile isKeyChar with
      | [] => refuse cs
      | key => .ok (String.ofList key, cs.dropWhile isKeyChar)
where
  /-- A key behind its first quote. -/
  quotedKey (quote : Char) (rest : List Char) : Except Fault (String × List Char) :=
    match scanString quote rest with
    | .error fault => .error fault
    | .ok ((key, false), rest) => .ok (key, rest)
    | .ok ((_, true), _) => .error (.unexpectedChar quote)

/-- The keys of a dotted key, and what follows it and the blanks behind it. -/
def scanPath : Nat → Scan (List String)
  | 0, cs => refuse cs
  | fuel + 1, cs => do
      let (key, rest) ← scanKey cs
      match skipBlanks rest with
      | '.' :: rest =>
          let (path, rest) ← scanPath fuel (skipBlanks rest)
          return (key :: path, rest)
      | rest => return ([key], rest)

/-- The characters of a value that is not quoted: bare characters, points, colons and plus signs,
and a blank between a date and its time. -/
def splitWord (cs : List Char) : List Char × List Char :=
  let isWordChar (c : Char) : Bool := isKeyChar c || c == '.' || c == ':' || c == '+'
  let word := cs.takeWhile isWordChar
  match cs.dropWhile isWordChar with
  | ' ' :: c :: rest =>
      if isDate word && isKeyChar c then
        (word ++ ' ' :: (c :: rest).takeWhile isWordChar, (c :: rest).dropWhile isWordChar)
      else (word, ' ' :: c :: rest)
  | rest => (word, rest)

/-- The value of a word. -/
def ofWord (word : List Char) : Except Fault Toml :=
  if word = "true".toList then .ok (.boolean true)
  else if word = "false".toList then .ok (.boolean false)
  else match number? word with
  | some value => .ok value
  | none =>
      match moment? word with
      | some text => .ok (.moment (String.ofList text))
      | none => .error (.invalidValue (String.ofList word))

/-- What follows the blanks, line breaks and comments at the front of a text. -/
def skipGap : Nat → List Char → Except Fault (List Char)
  | 0, cs => .ok cs
  | fuel + 1, cs =>
      match skipBlanks cs with
      | '\n' :: rest => skipGap fuel rest
      | '#' :: rest =>
          match endOfLine (rest.dropWhile isCommentChar) with
          | .ok rest => skipGap fuel rest
          | .error fault => .error fault
      | rest => .ok rest

mutual

/-- The value at the front of a text. -/
def scanValue : Nat → Scan Toml
  | 0, cs => refuse cs
  | _ + 1, '"' :: rest => (scanString '"' rest).map fun scanned ↦
      (.string scanned.1.1, scanned.2)
  | _ + 1, '\'' :: rest => (scanString '\'' rest).map fun scanned ↦
      (.string scanned.1.1, scanned.2)
  | fuel + 1, '[' :: rest => do
      let (items, rest) ← scanItems fuel rest
      return (.array items, rest)
  | fuel + 1, '\x7b' :: rest => do
      match skipBlanks rest with
      | '\x7d' :: rest => return (.table [], rest)
      | rest =>
          let (nodes, rest) ← scanMembers fuel [] rest
          return (.table (Node.members nodes), rest)
  | _ + 1, cs =>
      match splitWord cs with
      | ([], rest) => refuse rest
      | (word, rest) => (ofWord word).map (·, rest)

/-- The items of an array up to its closing bracket; a comma may stand behind the last one. -/
def scanItems : Nat → Scan (List Toml)
  | 0, cs => refuse cs
  | fuel + 1, cs => do
      match ← skipGap cs.length cs with
      | ']' :: rest => return ([], rest)
      | rest =>
          let (item, rest) ← scanValue fuel rest
          match ← skipGap rest.length rest with
          | ',' :: rest =>
              let (items, rest) ← scanItems fuel rest
              return (item :: items, rest)
          | ']' :: rest => return ([item], rest)
          | rest => refuse rest

/-- The members of an inline table up to its closing brace, all on one line. -/
def scanMembers : Nat → Nodes → Scan Nodes
  | 0, _, cs => refuse cs
  | fuel + 1, nodes, cs => do
      let (path, rest) ← scanPath cs.length cs
      let '=' :: rest := rest | refuse rest
      let (value, rest) ← scanValue fuel (skipBlanks rest)
      let nodes ← Node.enter value path nodes
      match skipBlanks rest with
      | '\x7d' :: rest => return (nodes, rest)
      | ',' :: rest => scanMembers fuel nodes (skipBlanks rest)
      | rest => refuse rest

end

/-- A line of a document. -/
inductive Line where
  | pair (path : List String) (value : Toml)
  | header (path : List String)
  /-- A header in double brackets. -/
  | seriesHeader (path : List String)
  deriving Inhabited

/-- A header behind its opening brackets, with what closes it. -/
def scanHeader (closing : List Char) (cs : List Char) : Except Fault (List String × List Char) := do
  let (path, rest) ← scanPath cs.length (skipBlanks cs)
  if closing.isPrefixOf rest then return (path, rest.drop closing.length) else refuse rest

/-- The line at the front of a text that is not blank. -/
def scanLine : Scan Line
  | '[' :: '[' :: rest => (scanHeader [']', ']'] rest).map fun scanned ↦
      (.seriesHeader scanned.1, scanned.2)
  | '[' :: rest => (scanHeader [']'] rest).map fun scanned ↦ (.header scanned.1, scanned.2)
  | cs => do
      let (path, rest) ← scanPath cs.length cs
      let '=' :: rest := rest | refuse rest
      let rest := skipBlanks rest
      let (value, rest) ← scanValue (2 * rest.length + 1) rest
      return (.pair path value, rest)

/-- The lines of a text. -/
def scanLines : Nat → List Char → Except Fault (List Line)
  | 0, _ => .ok []
  | fuel + 1, cs => do
      match ← skipGap cs.length cs with
      | [] => return []
      | rest =>
          let (line, rest) ← scanLine rest
          let lines ← scanLines fuel (← finishLine rest)
          return line :: lines

/-- The part of a document from a header up to the next one. -/
structure Section where
  isSeries : Bool
  path : List String
  nodes : Nodes

/-- The tree of a document so far, and the section that its lines are in. -/
structure Draft where
  root : Nodes
  current : Section

/-- The tree of a draft with its last section. -/
def Draft.finish (draft : Draft) : Except Fault Nodes :=
  Node.place draft.current.isSeries draft.current.nodes draft.current.path draft.root

/-- The draft with one more line. -/
def Draft.add (draft : Draft) : Line → Except Fault Draft
  | .pair path value => do
      let nodes ← Node.enter value path draft.current.nodes
      return { draft with current := { draft.current with nodes } }
  | .header path => do
      return ⟨← draft.finish, ⟨false, path, []⟩⟩
  | .seriesHeader path => do
      return ⟨← draft.finish, ⟨true, path, []⟩⟩

/-- A text in which every line break is a single line feed, without a byte order mark. -/
def normalLines : List Char → List Char
  | '\ufeff' :: cs => unifyBreaks cs
  | cs => unifyBreaks cs
where
  /-- Take a carriage return and a line feed for one line feed. -/
  unifyBreaks : List Char → List Char
    | [] => []
    | '\r' :: '\n' :: cs => '\n' :: unifyBreaks cs
    | c :: cs => c :: unifyBreaks cs

/-- Read the members of the table that a document is. -/
def ofText (text : String) : Except Fault (List (String × Toml)) := do
  let cs := normalLines text.toList
  let lines ← scanLines (cs.length + 1) cs
  let draft ← lines.foldlM Draft.add ⟨[], ⟨false, [], []⟩⟩
  return Node.members (← draft.finish)

end FunctionBindings.Toml
