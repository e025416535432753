import RewardDesk.Http.Endpoint
import RewardDesk.Service.Life
import RewardDesk.Session.World
import RewardDesk.Store.Basic

/-!
# The program

Loads the configuration of the folder it is started in and answers commands. Each line of standard
input is the name of a command, a blank and its payload; each answer is a line of standard output,
as is each line of the log.
-/

namespace RewardDesk.Main

/-- The contents of a file, if there is one. -/
def contents? (path : String) : IO (Option String) := do
  try return some (← IO.FS.readFile path) catch _ => return none

/-- The variables of the process. -/
def readEnvironment : IO Environment := do
  let bytes ← try IO.FS.readBinFile "/proc/self/environ" catch _ => pure .empty
  let pairs := ((Text.lossy bytes.toList).splitOn "\x00").filter (·.contains '=')
  return pairs.map fun pair =>
    let name := pair.toList.takeWhile (· ≠ '=')
    (.ofList name, .ofList (pair.toList.drop (name.length + 1)))

/-- The files of the configuration. -/
def readFolder (env : Environment) : IO Folder := do
  let read (path : String) : IO (List (String × String)) := do
    return (← contents? path).toList.map fun text => (path, text)
  let envFile ← read ".env"
  let files := AppConfig.files Service.name (AppConfig.provided ⟨envFile⟩ env)
  return ⟨envFile ++ (← files.mapM read).flatten⟩

/-- What time it is: the start of the machine and how long it has been up. -/
def readClock : IO Instant := do
  let lines := ((← contents? "/proc/stat").getD "").splitOn "\n"
  let start := (lines.findSome? fun line =>
    match line.splitOn " " with
    | ["btime", n] => n.toNat?
    | _ => none).getD 0
  let up := (((← contents? "/proc/uptime").getD "").splitOn " ").headD ""
  match (up.splitOn ".").map String.toNat? with
  | [some seconds, some hundredths] => return ⟨start + seconds, hundredths * 10000000⟩
  | _ => return ⟨start, 0⟩

/-- A number in a fixed count of hexadecimal digits. -/
def hex (count n : Nat) : String :=
  let digits := Nat.toDigits 16 (n % Nat.pow 16 count)
  .ofList (List.replicate (count - digits.length) '0' ++ digits)

/-- A fresh id: the time in milliseconds first, then chance. -/
def freshId (now : Instant) (chance : Nat) : String :=
  let time := now.second.toNat * 1000 + now.nano / 1000000
  "-".intercalate [hex 8 (time / Nat.pow 2 16), hex 4 time, "7" ++ hex 3 chance,
    hex 4 (0x8000 + chance / Nat.pow 2 12 % 0x4000), hex 12 (chance / Nat.pow 2 26)]

/-- What is given out while one program runs. -/
def readSupply : IO Supply := do
  let now ← readClock
  let chance ← IO.rand 0 (Nat.pow 2 62)
  return ⟨fun n => freshId now (chance + n), fun _ => now⟩

/-- Run a program and print what it says. -/
def run (s : Service.Surroundings) (p : Program α) (w : World Store) : IO (α × World Store) := do
  let (a, w) := w.run Storage.memory (← readSupply) p
  for line in Service.written s w.log do
    match line with
    | .string text => IO.println text
    | j => IO.println j.compact
  return (a, { w with log := [] })

/-- Answer the lines of standard input. -/
partial def answerLines (s : Service.Surroundings) (r : Router) (w : World Store) :
    IO (World Store) := do
  let line ← (← IO.getStdin).getLine
  if line.isEmpty then return w
  let name := line.toList.takeWhile fun c => !Text.isBlankChar c
  let payload := Text.bytes (.ofList (line.toList.drop name.length))
  let (response, w) ← run s (Http.runCommand r (.ofList name) payload .byLine) w
  IO.println response.body
  answerLines s r w

/-- Answer commands as long as there are any, if there is a storage. -/
def answer (s : Service.Surroundings) (c : AppConfig) (w : World Store) :
    IO (Option Service.Failure × World Store) := do
  let (opened, w) ← run s (Service.openStorage s c) w
  match opened with
  | .error failure => return (some failure, w)
  | .ok () =>
    let (r, w) ← run s Router.openStandard w
    return (none, ← answerLines s r w)

/-- Load the configuration, answer commands, and close the log. -/
def live : IO UInt32 := do
  let env ← readEnvironment
  let s : Service.Surroundings := { folder := ← readFolder env, env }
  let (c, e) := Service.config s
  let w : World Store := { storage := .empty, channel := .ofCapacity Channel.standardCapacity }
  let (_, w) ← run s (Observability.start (Service.watching s) s.network) w
  let ((), w) ← run s (Service.announce c e) w
  let (failure, w) ← answer s c w
  let _ ← run s Observability.stop w
  match failure with
  | some failure =>
    (← IO.getStderr).putStr failure.text
    return 1
  | none => return 0

end RewardDesk.Main

def main : IO UInt32 := RewardDesk.Main.live
