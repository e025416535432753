import RewardDesk.Keyed
import RewardDesk.Metrics.Measure
import RewardDesk.Number.Binary64

/-!
# The exposition of metrics

The text form in which metrics are shown: each sample has a name, labels between braces and a value,
and samples of one kind make up a family with a help text and a type.
-/

namespace RewardDesk.Exposition

/-! ### Labels -/

/-- The value of a label between quotation marks. Line ends and quotation marks are escaped. A
backslash is held back until it is clear what it stands in front of: two in a row are one that is
escaped already, and one in front of a quotation mark belongs to it. -/
def escaped (held : Bool) : List Char → List Char
  | [] => if held then ['\\', '\\'] else []
  | c :: rest =>
    if c = '\n' then '\\' :: 'n' :: escaped held rest
    else if c = '"' then '\\' :: '"' :: escaped false rest
    else if c = '\\' then
      if held then '\\' :: '\\' :: escaped false rest else escaped true rest
    else if held then '\\' :: '\\' :: c :: escaped false rest
    else c :: escaped false rest

/-- A label with its value. -/
def label (l : String × String) : String :=
  l.1 ++ "=\"" ++ String.ofList (escaped false l.2.toList) ++ "\""

/-- The name of a sample with its labels. -/
def sample (name : String) (labels : List (String × String)) : String :=
  if labels.isEmpty then name
  else name ++ "\x7b" ++ ",".intercalate (labels.map label) ++ "\x7d"

/-! ### Families -/

/-- A family of samples. -/
structure Family where
  name : String
  help : String
  type : String
  deriving DecidableEq, Repr

/-- The families that are described. -/
def families : List Family := [
  ⟨"commands_total", "Total number of handled commands", "counter"⟩,
  ⟨"command_duration_seconds", "Command handling duration in seconds", "summary"⟩,
  ⟨"rewards_created_total", "Total number of created rewards", "counter"⟩,
  ⟨"reward_requests_created_total", "Total number of created reward requests", "counter"⟩,
  ⟨"reward_request_transitions_total", "Total number of reward request status transitions",
    "counter"⟩]

/-- The families of some samples. -/
def familiesOf (samples : List (String × Binary64)) : List Family :=
  families.filter fun f => samples.any fun s => s.1.startsWith f.name

/-! ### Samples -/

/-- A measure and, for a command, how many seconds it took. -/
structure Reading where
  measure : Measure
  seconds : Binary64 := .zero false
  deriving Repr

/-- How much a measure adds to which samples: one to its counter, and to the count and the sum of
durations if it has one. -/
def Reading.growth (r : Reading) : List (String × Binary64) :=
  let one := Binary64.ofNat 1
  let duration := match r.measure.command? with
    | none => []
    | some command =>
      let labels := [("command", command)]
      [(sample (Measure.durations ++ "_count") labels, one),
        (sample (Measure.durations ++ "_sum") labels, r.seconds)]
  (sample r.measure.counter r.measure.labels, one) :: duration

/-- Add to a sample. -/
def raise (samples : List (String × Binary64)) (growth : String × Binary64) :
    List (String × Binary64) :=
  let before := (Keyed.get? growth.1 samples).getD (.zero false)
  Keyed.set growth.1 (before.add growth.2) samples

/-- The samples that grow by some measures, and by how much. -/
def samples (readings : List Reading) : List (String × Binary64) :=
  ((readings.flatMap Reading.growth).foldl raise []).filter (·.2.rank ≠ 0)

/-- The sample that counts how often a service was started. -/
def starts (service : String) : String := sample "service_starts_total" [("service", service)]

end RewardDesk.Exposition
