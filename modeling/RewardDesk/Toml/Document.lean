import RewardDesk.Toml.Scalar

/-!
# TOML documents

A document is a list of statements: headers that open a table or one more table of a list, and
assignments to keys of the table that is open. `read?` carries them out one after the other on a
tree of nodes. A node knows how it came about, for that decides who may still add to it: a table
with a header is opened once, one that is made by a dotted key grows by dotted keys only, and what
is written in one piece is closed.
-/

namespace RewardDesk.Toml

/-! ### Nodes -/

/-- How a table came about. -/
inductive Making where
  /-- A header names a table inside it. -/
  | implied
  /-- A dotted key leads through it. -/
  | dotted
  /-- It has a header of its own. -/
  | header
  deriving DecidableEq, Repr

/-- What a key stands for while a document is read. -/
inductive Node where
  | value (value : Setting)
  | table (making : Making) (entries : List (String × Node))
  /-- A list of tables that have a header each. It is never empty. -/
  | tables (tables : List (List (String × Node)))
  deriving Repr

/-- The keys of a table, in ascending order. -/
abbrev Entries := List (String × Node)

mutual

/-- The setting that a node is in the end. -/
def Node.settle : Node → Setting
  | .value v => v
  | .table _ entries => .table (settleEntries entries)
  | .tables tables => .list (settleTables tables)

/-- The settings that the keys of a table are. -/
def settleEntries : List (String × Node) → List (String × Setting)
  | [] => []
  | (key, node) :: rest => (key, node.settle) :: settleEntries rest

/-- The settings that tables are. -/
def settleTables : List (List (String × Node)) → List Setting
  | [] => []
  | entries :: rest => .table (settleEntries entries) :: settleTables rest

end

/-- Change the last of some tables. -/
def changeLast (f : Entries → Option Entries) (tables : List Entries) : Option (List Entries) := do
  let last ← tables.getLast?
  return tables.dropLast ++ [← f last]

/-- Change the table at the end of a path of headers. Tables that are not there are implied. -/
def descend (f : Entries → Option Entries) : List String → Entries → Option Entries
  | [], entries => f entries
  | key :: path, entries => do
    let node ← match Keyed.get? key entries with
      | none => (descend f path []).map (.table .implied ·)
      | some (.table making inner) => (descend f path inner).map (.table making ·)
      | some (.tables tables) => (changeLast (descend f path) tables).map .tables
      | some (.value _) => none
    return Keyed.set key node entries

/-- Give a header to a table. -/
def openTable (key : String) (entries : Entries) : Option Entries :=
  match Keyed.get? key entries with
  | none => some (Keyed.set key (.table .header []) entries)
  | some (.table .implied inner) => some (Keyed.set key (.table .header inner) entries)
  | _ => none

/-- Open one more table of a list. -/
def openItem (key : String) (entries : Entries) : Option Entries :=
  match Keyed.get? key entries with
  | none => some (Keyed.set key (.tables [[]]) entries)
  | some (.tables tables) => some (Keyed.set key (.tables (tables ++ [[]])) entries)
  | _ => none

/-- Give a value to a dotted key that has none. -/
def insert (value : Setting) : List String → Entries → Option Entries
  | [], _ => none
  | [key], entries =>
    match Keyed.get? key entries with
    | none => some (Keyed.set key (.value value) entries)
    | some _ => none
  | key :: path, entries => do
    let node ← match Keyed.get? key entries with
      | none => (insert value path []).map (.table .dotted ·)
      | some (.table making inner) =>
        if making = .header then none else (insert value path inner).map (.table making ·)
      | some (.tables tables) => (changeLast (insert value path) tables).map .tables
      | some (.value _) => none
    return Keyed.set key node entries

/-! ### Keys and values -/

/-- Drop blanks, line ends and comments; in a comment, drop the rest of it first. -/
def skipVoid (inComment : Bool) : List Char → Option (List Char)
  | [] => some []
  | '\r' :: '\n' :: rest => skipVoid false rest
  | c :: rest =>
    if c = '\n' then skipVoid false rest
    else if inComment then if isControl c then none else skipVoid true rest
    else if isBlank c then skipVoid false rest
    else if c = '#' then skipVoid true rest
    else some (c :: rest)

/-- One part of a key. -/
def keyPart? : Reader String
  | '"' :: rest => (basicText rest).map fun r => (.ofList r.1, r.2)
  | '\'' :: rest => (literalText rest).map fun r => (.ofList r.1, r.2)
  | cs =>
    let name := cs.takeWhile Setting.isNameChar
    if name.isEmpty then none else some (.ofList name, cs.drop name.length)

/-- A dotted key and the blanks behind it; `fuel` bounds the number of its parts. -/
def key? : (fuel : Nat) → Reader (List String)
  | 0, _ => none
  | fuel + 1, cs => do
    let (part, rest) ← keyPart? cs
    match skipBlanks rest with
    | '.' :: rest => do
      let (parts, rest) ← key? fuel (skipBlanks rest)
      return (part :: parts, rest)
    | rest => return ([part], rest)

mutual

/-- A value; `fuel` bounds the number of values, items and members in it. -/
def value? : (fuel : Nat) → Reader Setting
  | 0, _ => none
  | fuel + 1, cs =>
    match cs with
    | '[' :: rest => (items? fuel rest).map fun r => (.list r.1, r.2)
    | '{' :: rest => (members? fuel [] rest).map fun r => (.table (settleEntries r.1), r.2)
    | '"' :: _ | '\'' :: _ => (text? cs).map fun r => (.text r.1, r.2)
    | _ => scalar? cs

/-- The items of a list, behind its bracket. -/
def items? : (fuel : Nat) → Reader (List Setting)
  | 0, _ => none
  | fuel + 1, cs => do
    match ← skipVoid false cs with
    | ']' :: rest => some ([], rest)
    | cs => do
      let (value, rest) ← value? fuel cs
      match ← skipVoid false rest with
      | ',' :: rest => do
        let (values, rest) ← items? fuel rest
        return (value :: values, rest)
      | ']' :: rest => some ([value], rest)
      | _ => none

/-- The members of a table in one piece, behind its brace and those that are read already. -/
def members? : (fuel : Nat) → Entries → Reader Entries
  | 0, _, _ => none
  | fuel + 1, entries, cs => do
    match ← skipVoid false cs with
    | '\x7d' :: rest => some (entries, rest)
    | cs => do
      let (path, rest) ← key? (cs.length + 1) cs
      let rest ← skip? '=' rest
      let (value, rest) ← value? fuel (skipBlanks rest)
      let entries ← insert value path entries
      match ← skipVoid false rest with
      | ',' :: rest => members? fuel entries rest
      | '\x7d' :: rest => some (entries, rest)
      | _ => none

end

/-! ### Statements -/

/-- A statement of a document. -/
inductive Statement where
  | openTable (path : List String)
  | openItem (path : List String)
  | assign (path : List String) (value : Setting)
  deriving Repr

/-- The path of a header, up to its closing brackets. -/
def header? (closing : List Char) : Reader (List String) := fun cs => do
  let (path, rest) ← key? (cs.length + 1) (skipBlanks cs)
  if closing.isPrefixOf rest then some (path, rest.drop closing.length) else none

/-- A statement. -/
def statement? : Reader Statement
  | '[' :: '[' :: rest => (header? [']', ']'] rest).map fun r => (.openItem r.1, r.2)
  | '[' :: rest => (header? [']'] rest).map fun r => (.openTable r.1, r.2)
  | cs => do
    let (path, rest) ← key? (cs.length + 1) cs
    let rest := skipBlanks (← skip? '=' rest)
    let (value, rest) ← value? (rest.length + 1) rest
    return (.assign path value, rest)

/-- All statements of a document, each on a line of its own; `fuel` bounds their number. -/
def statements? : (fuel : Nat) → List Char → Option (List Statement)
  | 0, _ => none
  | fuel + 1, cs => do
    match ← skipVoid false cs with
    | [] => some []
    | cs => do
      let (s, rest) ← statement? cs
      let rest := skipBlanks rest
      if rest.isEmpty || atLineEnd rest || rest.head? = some '#' then
        return s :: (← statements? fuel rest)
      else none

/-- The tables of a document so far, and the path of the one that is open. -/
structure Draft where
  current : List String := []
  entries : Entries := []

/-- Carry out a statement. -/
def Draft.apply (d : Draft) : Statement → Option Draft
  | .openTable path => do
    let entries ← descend (Toml.openTable (← path.getLast?)) path.dropLast d.entries
    return ⟨path, entries⟩
  | .openItem path => do
    let entries ← descend (Toml.openItem (← path.getLast?)) path.dropLast d.entries
    return ⟨path, entries⟩
  | .assign path value => do
    return { d with entries := ← descend (insert value path) d.current d.entries }

/-- Drop the mark that may stand at the front of a text. -/
def skipMark : List Char → List Char
  | '\uFEFF' :: rest => rest
  | cs => cs

/-- The settings that a document holds, if it is one. -/
def read? (text : String) : Option (List (String × Setting)) := do
  let cs := skipMark text.toList
  let d ← (← statements? (cs.length + 1) cs).foldlM Draft.apply {}
  return settleEntries d.entries

end RewardDesk.Toml
