import RewardDesk.Config.Environment
import RewardDesk.Text.Alphanumeric
import RewardDesk.Text.Blank

/-!
# Files of variables

A file with one variable a line, `NAME=value`, provides variables that are not set yet. A value may
stand between quotation marks and then go over several lines, and `$NAME` and `${NAME}` stand for
variables that are set already. `EnvFile.load` goes through the file line by line and stops at the
first line that makes no sense.
-/

namespace RewardDesk.EnvFile

/-! ### Lines -/

/-- What a line is in the middle of. -/
inductive Mode where
  | plain | afterBlank | escape | single | singleEscape | double | doubleEscape
  deriving DecidableEq, Repr

/-- What follows a character; `none` if it begins a comment. A comment stands behind a single
blank. -/
def Mode.next : Mode → Char → Option Mode
  | .afterBlank, c =>
    if c = '#' then none
    else if c = '\\' then some .escape
    else if c = '"' then some .double
    else if c = '\'' then some .single
    else some .plain
  | .plain, c =>
    if c = '\\' then some .escape
    else if c = '"' then some .double
    else if c = '\'' then some .single
    else if Text.isBlankChar c && c ≠ '\n' && c ≠ '\r' then some .afterBlank
    else some .plain
  | .escape, _ => some .plain
  | .double, c =>
    some (if c = '\\' then .doubleEscape else if c = '"' then .plain else .double)
  | .doubleEscape, _ => some .double
  | .single, c =>
    some (if c = '\\' then .singleEscape else if c = '\'' then .plain else .single)
  | .singleEscape, _ => some .single

/-- The part of a line in front of a comment, and what is still open behind it; `none` for the
mode if there is a comment. -/
def scan : Mode → List Char → List Char × Option Mode
  | mode, [] => ([], some mode)
  | mode, c :: rest =>
    match mode.next c with
    | none => ([], none)
    | some next =>
      let (kept, ending) := scan next rest
      (c :: kept, ending)

/-- Cut a text behind each line end. -/
def cutLines : List Char → List (List Char)
  | [] => []
  | c :: rest =>
    if c = '\n' then [c] :: cutLines rest
    else match cutLines rest with
      | [] => [[c]]
      | line :: lines => (c :: line) :: lines

/-- Drop the line end of a line. -/
def dropLineEnd (line : List Char) : List Char :=
  match line.reverse with
  | '\n' :: '\r' :: rest => rest.reverse
  | '\n' :: rest => rest.reverse
  | _ => line

/-- Join the lines that belong together, given what is open from those before. A line that is
still open at the end of the file is `none`. -/
def joinLines : Mode → (before : List Char) → List (List Char) → List (Option (List Char))
  | mode, _, [] => if mode = .plain then [] else [none]
  | mode, before, line :: rest =>
    if (Text.trimStart (before ++ line)).head? = some '#' then
      some [] :: joinLines .plain [] rest
    else
      match scan mode line with
      | (kept, none) => some (before ++ kept) :: joinLines .plain [] rest
      | (_, some .plain) => some (dropLineEnd (before ++ line)) :: joinLines .plain [] rest
      | (_, some mode) => joinLines mode (before ++ line) rest

/-! ### Values -/

/-- What a value is in the middle of. -/
inductive Place where
  | plain
  | escape
  | single
  /-- The name of a variable, without braces or between them. -/
  | name (braced : Bool) (name : List Char)
  /-- Blanks behind the value. -/
  | behind
  | comment
  deriving DecidableEq, Repr

/-- A value so far. -/
structure Draft where
  place : Place := .plain
  /-- Is a double quotation mark open? -/
  quoted : Bool := false
  text : List Char := []
  deriving Repr

namespace Draft

/-- Add a character to the text. -/
def push (d : Draft) (c : Char) : Draft := { d with text := d.text ++ [c], place := .plain }

/-- Add the value of a variable to the text. -/
def fill (d : Draft) (lookup : String → String) (name : List Char) : Draft :=
  { d with text := d.text ++ (lookup (.ofList name)).toList, place := .plain }

/-- Read a character that stands for itself, or opens or closes something. -/
def readPlain (d : Draft) (c : Char) : Draft :=
  if c = '$' then { d with place := .name false [] }
  else if c = '\\' then { d with place := .escape }
  else if c = '"' then { d with quoted := !d.quoted }
  else if d.quoted then d.push c
  else if c = '\'' then { d with place := .single }
  else if c = ' ' ∨ c = '\t' then { d with place := .behind }
  else d.push c

/-- Read a character behind a backslash. -/
def readEscaped? (d : Draft) (c : Char) : Option Draft :=
  if c = 'n' then some (d.push '\n')
  else if c = '\\' ∨ c = '\'' ∨ c = '"' ∨ c = '$' ∨ c = ' ' then some (d.push c)
  else none

/-- Read a character of the name of a variable, or the one behind it. -/
def readName (d : Draft) (lookup : String → String) (braced : Bool) (name : List Char) (c : Char) :
    Draft :=
  if Text.isAlphanumeric c then { d with place := .name braced (name ++ [c]) }
  else if braced then
    if c = '\x7d' then d.fill lookup name else { d with place := .name true (name ++ [c]) }
  else if c = '\x7b' ∧ name = [] then { d with place := .name true [] }
  else if c = '$' then { d.fill lookup name with place := .name false [] }
  else (d.fill lookup name).push c

def read? (lookup : String → String) (d : Draft) (c : Char) : Option Draft :=
  match d.place with
  | .comment => some d
  | .behind =>
    if c = ' ' ∨ c = '\t' then some d
    else if c = '#' then some { d with place := .comment }
    else none
  | .escape => d.readEscaped? c
  | .single =>
    if c = '\'' then some { d with place := .plain }
    else some { d with text := d.text ++ [c] }
  | .name braced name => some (d.readName lookup braced name c)
  | .plain => some (d.readPlain c)

/-- The text at the end of the line, if nothing is left open. -/
def close? (lookup : String → String) (d : Draft) : Option String :=
  match d.place with
  | .single | .name true _ => none
  | .name false name => if d.quoted then none else some (.ofList (d.fill lookup name).text)
  | _ => if d.quoted then none else some (.ofList d.text)

end Draft

def value? (lookup : String → String) (cs : List Char) : Option String := do
  (← cs.foldlM (Draft.read? lookup) {}).close? lookup

/-! ### Variables -/

def beginsName (c : Char) : Bool := c.isAlpha || c = '_'

def isNameChar (c : Char) : Bool := c.isAlphanum || c = '_' || c = '.'

/-- The name at the front, and what stands behind it and the blanks after it. -/
def name? (cs : List Char) : Option (String × List Char) :=
  if cs.head?.any beginsName then
    let name := cs.takeWhile isNameChar
    some (.ofList name, Text.trimStart (cs.drop name.length))
  else none

/-- The name of a variable and what stands behind the equals sign. The word `export` may stand in
front of the name. -/
def assigned? (cs : List Char) : Option (String × List Char) := do
  match ← name? cs with
  | (name, '=' :: rest) => some (name, rest)
  | (name, rest) =>
    if name = "export" then
      match ← name? rest with
      | (name, '=' :: rest) => some (name, rest)
      | _ => none
    else none

/-- The variable of a line, if there is one; `none` if the line makes no sense. -/
def ofLine? (lookup : String → String) (line : List Char) : Option (Option (String × String)) :=
  let cs := Text.trimStart (Text.trimEnd line)
  if cs.isEmpty || cs.head? = some '#' then some none
  else do
    let (name, rest) ← assigned? cs
    let rest := Text.trimStart rest
    if rest.isEmpty || rest.head? = some '#' then return some (name, "")
    else return some (name, ← value? lookup rest)

/-- Provide the variables of some lines, given those of the lines before. -/
def provideLines : (before : Environment) → List (Option (List Char)) → Environment → Environment
  | before, some line :: rest, env =>
    let lookup name := ((env.get? name).or (Environment.get? before name)).getD ""
    match ofLine? lookup line with
    | none => env
    | some none => provideLines before rest env
    | some (some (name, value)) =>
      provideLines ((name, value) :: before) rest (env.provide name value)
  | _, _, env => env

/-- Provide the variables of a file. -/
def load (text : String) (env : Environment) : Environment :=
  let cs := match text.toList with
    | '\uFEFF' :: rest => rest
    | cs => cs
  provideLines [] (joinLines .plain [] (cutLines cs)) env

end RewardDesk.EnvFile
