import RewardDesk.Database.IpAddress

/-!
# The network of the machine

Which ports are taken, and why a server cannot listen at an address.
-/

namespace RewardDesk

/-- The ports that are taken. -/
structure Network where
  taken : List UInt16 := []
  deriving Repr

namespace Network

/-- Why a server cannot listen. -/
inductive Problem where
  | unknownHost
  | foreignAddress
  | portTaken
  deriving DecidableEq, Repr

def Problem.message : Problem → String
  | .unknownHost => "failed to lookup address information: Name or service not known"
  | .foreignAddress => "Cannot assign requested address (os error 99)"
  | .portTaken => "Address already in use (os error 98)"

/-- Is it the name or an address of this machine? -/
def isHere (host : String) : Bool :=
  host = "localhost" || host = "0.0.0.0" || host = "::" || host = "::1" ||
    (host.startsWith "127." && IpAddress.isVersion4 host.toList)

/-- Is it an address of some machine? -/
def isAddress (host : String) : Bool :=
  IpAddress.isVersion4 host.toList || IpAddress.isVersion6 host.toList

/-- Listen at a port, which is taken from then on. Port zero stands for any that is free. -/
def listen (n : Network) (host : String) (port : UInt16) : Except Problem Network :=
  if isHere host then
    if n.taken.contains port then .error .portTaken
    else if port = 0 then .ok n
    else .ok ⟨port :: n.taken⟩
  else if isAddress host then .error .foreignAddress
  else .error .unknownHost

end Network
end RewardDesk
