import RewardDesk.Log.Entry
import RewardDesk.Number.Reading
import RewardDesk.Text.Alphanumeric
import RewardDesk.Text.Blank

/-!
# Filters of the log

A filter is a list of directives, `target[span{field}]=level` with any part left out. Notes are held
against the directive with the longest target that theirs begins with. A directive that names a span
or fields speaks of spans instead: it shows them, and lets through what is said inside them.
-/

namespace RewardDesk.Log

/-- A directive. -/
structure Directive where
  /-- What a target has to begin with. -/
  target : Option String := none
  /-- The name that a span has to have. -/
  span : Option String := none
  /-- The fields that have to be there, with the values that are asked for. -/
  fields : List (String × Option String) := []
  /-- The highest rank that is let through, from zero for nothing to five for everything. -/
  limit : Nat := 5
  deriving DecidableEq, Repr

/-! ### Reading -/

/-- The limit that a word stands for. -/
def limitOf? (word : String) : Option Nat :=
  match Number.readBounded 5 word with
  | .ok n => some n
  | .error _ =>
    let names := ["off", "error", "warn", "info", "debug", "trace"]
    match names.findIdx? (· == String.ofList (word.toList.map Char.toLower)) with
    | some n => some n
    | none => if word.isEmpty then some 1 else none

namespace Directive

/-- Which part of a directive is being read, and where it began. -/
inductive Stage where
  | start
  | levelOrTarget
  | span (start : Nat)
  | field (start : Nat)
  | fields
  | behindSpan
  | level (start : Nat)
  deriving DecidableEq, Repr

/-- The characters from one place up to another. -/
def between (cs : List Char) (start stop : Nat) : String :=
  String.ofList ((cs.drop start).take (stop - start))

/-- A field with the value that is asked for. -/
def field? (text : String) : Option (String × Option String) :=
  if text.isEmpty then none
  else
    let name := text.toList.takeWhile (· ≠ '=')
    match text.toList.drop name.length with
    | [] => some (text, none)
    | _ :: value => some (.ofList name, some (.ofList (value.takeWhile (· ≠ '='))))

/-- Read the character at a place. Parts are cut out of the text as it is, blanks at its front
included, though the places do not count these. -/
def step? (cs : List Char) (read : Directive × Stage) (character : Char × Nat) :
    Option (Directive × Stage) := do
  let (d, stage) := read
  let (c, i) := character
  match stage with
  | .start =>
    if c = '[' then return (d, .span (i + 1))
    else if c = '-' ∨ c = ':' ∨ c = '_' ∨ Text.isAlphanumeric c then return (d, .levelOrTarget)
    else none
  | .levelOrTarget =>
    if c = '=' then return ({ d with target := between cs 0 i }, .level (i + 1))
    else if c = '[' then return ({ d with target := between cs 0 i }, .span (i + 1))
    else return (d, stage)
  | .span start =>
    if c = ']' then return ({ d with span := between cs start i }, .behindSpan)
    else if c = '\x7b' then
      let name := between cs start i
      return ({ d with span := if name.isEmpty then none else some name }, .field (i + 1))
    else return (d, stage)
  | .field start =>
    if c = '\x7d' then
      return ({ d with fields := d.fields ++ [← field? (between cs start i)] }, .fields)
    else return (d, stage)
  | .fields => if c = ']' then return (d, .behindSpan) else none
  | .behindSpan => if c = '=' then return (d, .level (i + 1)) else none
  | .level _ => return (d, stage)

/-- A directive that ends where its text does. -/
def close? (cs : List Char) (read : Directive × Stage) : Option Directive :=
  let (d, stage) := read
  match stage with
  | .levelOrTarget =>
    let word := String.ofList cs
    match limitOf? word with
    | some limit => some { d with limit }
    | none => some { d with target := word }
  | .level start =>
    let word := String.ofList (cs.drop start)
    if word.isEmpty then some d else (limitOf? word).map fun limit => { d with limit }
  | _ => some d

/-- Read a directive. -/
def ofText? (cs : List Char) : Option Directive := do
  let trimmed := Text.trimEnd (Text.trimStart cs)
  close? cs (← trimmed.zipIdx.foldlM (step? cs) ({}, .start))

/-- Does it speak of spans? -/
def isOfSpans (d : Directive) : Bool := d.span.isSome || !d.fields.isEmpty

/-- Does it speak of notes? -/
def isOfNotes (d : Directive) : Bool := d.span.isNone && d.fields.all (·.2.isNone)

/-- Does a target begin as asked for? -/
def admitsTarget (d : Directive) (target : String) : Bool :=
  match d.target with
  | some start => target.startsWith start
  | none => true

/-- Does it speak of this span? -/
def isAbout (d : Directive) (s : Span) : Bool :=
  d.admitsTarget s.target && (d.span.isNone || d.span = some s.name) &&
    d.fields.all fun f => s.fields.any (·.1 == f.1)

/-- The rank of a directive among those that speak of a note: longer targets come first, then
more fields. -/
def weight (d : Directive) : Nat × Nat :=
  (match d.target with
    | some start => start.utf8ByteSize + 1
    | none => 0,
   d.fields.length)

end Directive

/-! ### Filtering -/

/-- The directives of a filter, in order. -/
structure Filter where
  directives : List Directive
  deriving DecidableEq, Repr

namespace Filter

/-- Cut a text at its commas. -/
def cut : List Char → List (List Char)
  | [] => [[]]
  | c :: rest =>
    if c = ',' then [] :: cut rest
    else match cut rest with
      | [] => [[c]]
      | piece :: pieces => (c :: piece) :: pieces

/-- Read a filter. Without any directive only errors are let through. -/
def ofText? (text : String) : Option Filter := do
  let directives ← ((cut text.toList).filter (· ≠ [])).mapM Directive.ofText?
  return ⟨if directives.isEmpty then [{ limit := 1 }] else directives⟩

/-- The directives that speak of notes. -/
def ofNotes (f : Filter) : List Directive := f.directives.filter Directive.isOfNotes

/-- The directives that speak of spans. -/
def ofSpans (f : Filter) : List Directive := f.directives.filter Directive.isOfSpans

/-- The weightier of two directives; of two that weigh the same the later one. -/
def weightier (best : Option Directive) (d : Directive) : Option Directive :=
  match best with
  | none => some d
  | some b =>
    let (bt, bf) := b.weight
    let (dt, df) := d.weight
    if bt < dt ∨ (bt = dt ∧ bf ≤ df) then some d else some b

/-- The limit for a target, among the directives that speak of it. -/
def limitFor (f : Filter) (target : String) (fits : Directive → Bool) : Nat :=
  let speaking := f.ofNotes.filter fun d => d.admitsTarget target && fits d
  match speaking.foldl weightier none with
  | some d => d.limit
  | none => 0

/-- The limit inside a span, if any directive speaks of it. -/
def limitWithin? (f : Filter) (order : FieldOrder) (s : Span) : Option Nat :=
  match f.ofSpans.filter (·.isAbout s) with
  | [] => none
  | about =>
    let holds (d : Directive) : Bool := d.fields.all fun (name, value) =>
      match value with
      | none => true
      | some text => s.fields.any fun field => field.1 == name && field.2.plain order == text
    some ((about.filter holds).foldl (fun limit d => max limit d.limit) 0)

/-- The highest rank that any directive lets through. -/
def most (f : Filter) : Nat :=
  if f.directives.any fun d => d.fields.any (·.2.isSome) then 5
  else f.directives.foldl (fun limit d => max limit d.limit) 0

end Filter

/-- A span that has been entered. -/
structure Entered where
  span : Span
  /-- Is it shown? -/
  shown : Bool
  /-- The limit for what is said inside it, if it has one of its own. -/
  limit : Nat
  deriving DecidableEq, Repr

/-- What is shown of a log: notes with the spans around them, outermost first, and spans that are
left. -/
inductive Record where
  | note (note : Note) (spans : List Span)
  | close (span : Span) (parents : List Span)
  deriving DecidableEq, Repr

namespace Filter

/-- The spans that are shown, outermost first. -/
def shownSpans (around : List Entered) : List Span :=
  ((around.filter (·.shown)).map (·.span)).reverse

/-- Is a rank let through by one of the spans around? -/
def admittedAround (around : List Entered) (rank : Nat) : Bool :=
  around.any fun e => e.shown && rank ≤ e.limit

/-- Enter a span. -/
def enter (f : Filter) (order : FieldOrder) (around : List Entered) (s : Span) : Entered :=
  let rank := s.level.rank
  let within := f.limitWithin? order s
  let shown := rank ≤ f.most &&
    (within.isSome || admittedAround around rank || rank ≤ f.limitFor s.target fun _ => true)
  ⟨s, shown, within.getD 0⟩

/-- Is a note shown? -/
def admits (f : Filter) (around : List Entered) (n : Note) : Bool :=
  let rank := n.level.rank
  let names := "message" :: n.fields.map (·.1)
  admittedAround around rank ||
    rank ≤ f.limitFor n.target fun d => d.fields.all fun field => names.contains field.1

/-- What a filter shows of a log, given the spans around it, innermost first. -/
def records (f : Filter) (order : FieldOrder) : (around : List Entered) → List Entry → List Record
  | _, [] => []
  | around, .enter s :: rest => records f order (f.enter order around s :: around) rest
  | around, .note n :: rest =>
    if f.admits around n then .note n (shownSpans around) :: records f order around rest
    else records f order around rest
  | [], .leave :: rest => records f order [] rest
  | e :: around, .leave :: rest =>
    if e.shown then .close e.span (shownSpans around) :: records f order around rest
    else records f order around rest

/-- The filter of a service: the one of the variable `RUST_LOG`, else the one that is configured,
else the one that lets information through. -/
def choose (preferred configured : Option String) : Filter :=
  match preferred.bind ofText? with
  | some f => f
  | none => (configured.bind ofText?).getD ⟨[{ limit := 3 }]⟩

end Filter
end RewardDesk.Log
