import LinkProbe.Address.Ipv6

/-!
# Ends of a connection

* `IpAddress.parse?`: a host that is written as a number.
* `Endpoint.text`: an address and a port, an address with colons in brackets.
* `targetText`: the same for a host that may be a name.
-/

namespace LinkProbe

/-- An address of a machine. -/
inductive IpAddress where
  | v4 (address : Ipv4)
  | v6 (address : Ipv6)
deriving DecidableEq, Repr

namespace IpAddress

/-- Reads an address of either kind. -/
def parse? (host : String) : Option IpAddress :=
  match Ipv4.parse? host.toList with
  | some address => some (.v4 address)
  | none => (Ipv6.parse? host.toList).map .v6

/-- The canonical form of the address. -/
def text : IpAddress → String
  | .v4 address => address.text
  | .v6 address => address.text

end IpAddress

/-- One end of a connection. -/
structure Endpoint where
  ip : IpAddress
  port : UInt16
deriving DecidableEq, Repr

/-- The address and the port. -/
def Endpoint.text (e : Endpoint) : String :=
  match e.ip with
  | .v4 address => s!"{address.text}:{e.port.toNat}"
  | .v6 address => s!"[{address.text}]:{e.port.toNat}"

/-- The name and port of a machine to connect to. An address with colons takes its canonical form
in brackets, every other host stands as it is. -/
def targetText (host : String) (port : UInt16) : String :=
  match IpAddress.parse? host with
  | some (.v6 address) => s!"[{address.text}]:{port.toNat}"
  | _ => s!"{host}:{port.toNat}"

end LinkProbe
