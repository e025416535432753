import RewardDesk.Config.Environment
import RewardDesk.Database.Address
import RewardDesk.Number.Reading
import RewardDesk.Text.Quoted

/-!
# Options of a connection

What the address of a database says about a connection: the parts of the address first, then the
parameters of its query, one after the other.
-/

namespace RewardDesk.Database

/-- Why an address says nothing that makes sense. -/
inductive OptionProblem where
  | address (problem : AddressProblem)
  /-- Bytes that are no text. -/
  | bytes (message : String)
  | number (misread : Number.Misread)
  | sslMode (mode : String)
  | ipAddress
  deriving DecidableEq, Repr

def OptionProblem.message : OptionProblem → String
  | .address problem => problem.message
  | .bytes message => message
  | .number misread => misread.message
  | .sslMode mode =>
    "error with configuration: unknown value " ++ Text.quoted mode ++ " for `ssl_mode`"
  | .ipAddress => "invalid IP address syntax"

/-- Where a connection goes. -/
structure Options where
  /-- The folder of a socket on this machine, which is taken before any host. -/
  socket : Option String := none
  host : String := "localhost"
  port : Nat := 5432
  deriving DecidableEq, Repr

namespace Options

/-- What the variables of the process say about connections. -/
def ofEnvironment (env : Environment) : Options where
  host := ((env.get? "PGHOSTADDR").or (env.get? "PGHOST")).getD "localhost"
  port :=
    let given := (env.get? "PGPORT").bind fun s => (Number.readBounded (Nat.pow 2 16 - 1) s).toOption
    given.getD 5432

/-- The file of the socket, if the connection goes to one. -/
def socketFile? (o : Options) : Option String :=
  let file (folder : String) : String := folder ++ "/.s.PGSQL." ++ toString o.port
  match o.socket with
  | some folder => some (file folder)
  | none => if o.host.startsWith "/" then some (file o.host) else none

/-- Go to a host; one that begins with a slash is a folder with a socket. -/
def goTo (o : Options) (host : String) : Options :=
  if host.startsWith "/" then { o with socket := some host } else { o with host }

/-! ### Parts of the address -/

/-- The text of a part of the address. -/
def part (cs : List Char) : Except OptionProblem String :=
  (Text.readBytes (Text.resolvePercent cs)).mapError .bytes

/-- Take over the parts of an address in front of its query. -/
def takeParts (a : Address) (o : Options) : Except OptionProblem Options := do
  let o ← if a.host.isEmpty then pure o else (part a.host).map o.goTo
  let o := match a.port with
    | some port => { o with port }
    | none => o
  let _ ← part a.user
  let _ ← part a.password
  let _ ← part a.path
  return o

/-! ### Parameters -/

/-- The text of a name or a value of a query, in which a plus is a blank. -/
def queryText (cs : List Char) : String :=
  Text.lossy (Text.resolvePercent (cs.map fun c => if c = '+' then ' ' else c))

/-- The parameters of a query, in order. -/
def parameters (query : List Char) : List (String × String) :=
  ((IpAddress.cutAt '&' query).filter (· ≠ [])).map fun pair =>
    let name := pair.takeWhile (· ≠ '=')
    (queryText name, queryText (pair.drop (name.length + 1)))

/-- The modes of encryption. -/
def sslModes : List String := ["disable", "allow", "prefer", "require", "verify-ca", "verify-full"]

/-- The parameters that say nothing about where the connection goes. -/
def harmless : List String := [
  "sslrootcert", "ssl-root-cert", "ssl-ca", "sslcert", "ssl-cert", "sslkey", "ssl-key", "dbname",
  "user", "password", "application_name", "options"]

/-- A number up to a bound. -/
def number (bound : Nat) (value : String) : Except OptionProblem Nat :=
  (Number.readBounded bound value).mapError .number

/-- Take over a parameter; `none` if it is not known. -/
def takeParameter (o : Options) (name value : String) : Except OptionProblem (Option Options) := do
  if name = "sslmode" ∨ name = "ssl-mode" then
    if sslModes.contains (String.ofList (value.toList.map Char.toLower)) then return some o
    else throw (.sslMode value)
  else if name = "statement-cache-capacity" then
    let _ ← number (Nat.pow 2 64 - 1) value
    return some o
  else if name = "host" then return some (o.goTo value)
  else if name = "hostaddr" then
    let cs := value.toList
    if IpAddress.isVersion4 cs || IpAddress.isVersion6 cs then return some { o with host := value }
    else throw .ipAddress
  else if name = "port" then return some { o with port := ← number (Nat.pow 2 16 - 1) value }
  else if harmless.contains name || name.startsWith "options[" then return some o
  else return none

/-- Take over all parameters. The parameters that are not known are listed up to the first one
that makes no sense. -/
def takeParameters : Options → List (String × String) →
    List (String × String) × Except OptionProblem Options
  | o, [] => ([], .ok o)
  | o, (name, value) :: rest =>
    match takeParameter o name value with
    | .error problem => ([], .error problem)
    | .ok (some o) => takeParameters o rest
    | .ok none =>
      let (unknown, outcome) := takeParameters o rest
      ((name, value) :: unknown, outcome)

/-- The options that an address gives, and the parameters in it that are not known. -/
def ofAddress (env : Environment) (text : String) :
    List (String × String) × Except OptionProblem Options :=
  match Address.ofText text with
  | .error problem => ([], .error (.address problem))
  | .ok a =>
    match takeParts a (ofEnvironment env) with
    | .error problem => ([], .error problem)
    | .ok o => takeParameters o (parameters a.query)

end Options
end RewardDesk.Database
