import ServiceProbe.Registry
import ServiceProbe.Report

/-! # Listings

What a registry holds, and what a scan of one port would send. -/

namespace ServiceProbe.Listing
set_option autoImplicit false

open Report (pad)

def rarityText (rarity : Option Nat) : Text := rarity.elim ['-'] Text.ofNat

/-- The ports that a probe names, counted list by list, or a word where it names none. -/
def portsText (p : Probe) : Text :=
  if p.isCatchAll then ['a', 'l', 'l'] else Text.ofNat (p.ports.size + p.sslPorts.size)

def probeRow (name protocol rarity ports rules fallback : Text) : Text :=
  name ++ ' ' :: protocol ++ ' ' :: pad 7 rarity ++ ' ' :: pad 7 ports ++
    ' ' :: pad 6 rules ++ ' ' :: fallback ++ ['\n']

def rowOf (p : Probe) : Text :=
  probeRow (pad 22 p.name.toList) p.protocol.name.toList (rarityText p.rarity) (portsText p)
    (Text.ofNat p.rules.length) (Text.join ',' (p.fallback.map String.toList))

def header : Text :=
  probeRow (pad 22 "PROBE".toList) (pad 6 "PROTO".toList) "RARITY".toList "PORTS".toList "RULES".toList
    "FALLBACK".toList

/-- The probes in the order of their declaration. -/
def probes (r : Registry) : Text :=
  header ++ r.probes.flatMap rowOf ++ ['\n'] ++ Text.ofNat r.size ++ " probe(s), ".toList ++
    Text.ofNat r.exclude.size ++ " excluded port(s)\n".toList

def dispatchRow (r : Registry) (place : Nat) (name : String) : Text :=
  (Text.ofNat place).leftpad 3 ' ' ++ ['.', ' '] ++ pad 22 name.toList ++ " rarity ".toList ++
    rarityText ((r.probe? name).bind Probe.rarity) ++ ['\n']

def exclusionNotice (port : Port) : Text :=
  "Port ".toList ++ Text.ofNat port.toNat ++
    " is excluded; scans skip it unless --no-exclude is given.\n".toList

def emptyNotice (port : Port) : Text :=
  "No probes apply to port ".toList ++ Text.ofNat port.toNat ++ ['.', '\n']

def dispatchBody (r : Registry) (port : Port) : Text :=
  match r.dispatch port with
  | [] => emptyNotice port
  | names => (names.zipIdx 1).flatMap fun (name, place) => dispatchRow r place name

/-- The probes that a scan of the port walks, numbered from one. -/
def dispatch (r : Registry) (port : Port) : Text :=
  (if r.isExcluded port then exclusionNotice port else []) ++ dispatchBody r port

end ServiceProbe.Listing
