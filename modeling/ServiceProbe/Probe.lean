import ServiceProbe.Duration
import ServiceProbe.Payload
import ServiceProbe.Port.Expression
import ServiceProbe.Protocol
import ServiceProbe.Rule

/-! # Probes

A probe is one interaction with a service: what is sent, on which ports, and the rules that read the
reply. It is compiled from its header line and the directive lines after it. A bad header refuses
the probe; a bad directive is left out and reported. -/

namespace ServiceProbe
set_option autoImplicit false

structure Probe where
  name : String
  protocol : Protocol
  payload : Bytes
  ports : PortSet
  sslPorts : PortSet
  rarity : Option Nat
  totalWait : Option Duration
  tcpWrapped : Option Duration
  fallback : List String
  rules : List Rule

/-- Why lines are no probe, or a line no directive of one. -/
inductive ProbeFault where
  | noLines
  | notHeader (line : Text)
  | withoutProtocol (line : Text)
  | badProtocol (word : Text)
  | withoutName (line : Text)
  | withoutPayload (name : Text)
  | badPayload (fault : PayloadFault) (payload : Text)
  | rule (fault : RuleFault)
  | ports (fault : PortFault)
  | badRarity (argument : Text)
  | badMillis (argument : Text)
  | emptyFallback
  deriving DecidableEq

namespace ProbeFault

def message : ProbeFault → String
  | noLines => "empty probe definition"
  | notHeader line => "not a Probe header: '" ++ String.ofList line ++ "'"
  | withoutProtocol line => "Probe without protocol: '" ++ String.ofList line ++ "'"
  | badProtocol word => "unknown protocol '" ++ String.ofList word ++ "'"
  | withoutName line => "Probe without name: '" ++ String.ofList line ++ "'"
  | withoutPayload name => "Probe " ++ String.ofList name ++ " has no q|...| payload"
  | badPayload .danglingEscape payload =>
    "dangling escape in payload '" ++ String.ofList payload ++ "'"
  | badPayload .badCode payload => "bad \\x escape in payload '" ++ String.ofList payload ++ "'"
  | rule fault => fault.message
  | ports fault => fault.message
  | badRarity argument => "invalid rarity '" ++ String.ofList argument ++ "'"
  | badMillis argument => "invalid millisecond value '" ++ String.ofList argument ++ "'"
  | emptyFallback => "fallback without probe names"

def toError (fault : ProbeFault) : Error := .parse fault.message

end ProbeFault

namespace Probe

def orFault {α : Type} (fault : ProbeFault) : Option α → Except ProbeFault α
  | some a => pure a
  | none => throw fault

/-- The rest of a header line after its first word. -/
def afterKeyword? (line : Text) : Option Text :=
  (Text.after? "Probe".toList line.trim).filter fun rest => rest.head?.any Text.isBlank

def readProtocol (word : Text) : Except ProbeFault Protocol :=
  match Protocol.parse word with
  | .ok protocol => pure protocol
  | .error _ => throw (.badProtocol word)

def readPayload (raw : Text) : Except ProbeFault Bytes :=
  match Payload.decode (Text.utf8 raw) with
  | .ok payload => pure payload
  | .error fault => throw (.badPayload fault raw)

/-- The text between the delimiters of a payload. -/
def payloadText? (request : Text) : Option Text :=
  ((Text.after? ['q'] request).bind Text.delimited?).map (·.1)

/-- The probe that a header line declares, with nothing else known about it. -/
def ofHeader (line : Text) : Except ProbeFault Probe := do
  let rest ← orFault (.notHeader line) (afterKeyword? line)
  let (protocol, rest) ← orFault (.withoutProtocol line) (Text.nextWord? rest)
  let protocol ← readProtocol protocol
  let (name, request) ← orFault (.withoutName line) (Text.nextWord? rest)
  let raw ← orFault (.withoutPayload name) (payloadText? request.trimStart)
  let payload ← readPayload raw
  pure {
    name := String.ofList name
    protocol := protocol
    payload := payload
    ports := .empty
    sslPorts := .empty
    rarity := none
    totalWait := none
    tcpWrapped := none
    fallback := []
    rules := [] }

/-- What one directive line says about a probe. -/
inductive Directive where
  | rule (rule : Rule)
  | ports (ranges : List PortRange)
  | sslPorts (ranges : List PortRange)
  | rarity (value : Nat)
  | totalWait (wait : Duration)
  | tcpWrapped (wait : Duration)
  | fallback (names : List String)
  | nothing

def readRarity (argument : Text) : Except ProbeFault Nat :=
  orFault (.badRarity argument) <|
    (Text.readUnsigned? 255 argument).filter fun n => 1 ≤ n && n ≤ 9

def readMillis (argument : Text) : Except ProbeFault Duration :=
  orFault (.badMillis argument) <|
    (Text.readUnsigned? (UInt64.size - 1) argument).map fun n => Duration.ofMillis (UInt64.ofNat n)

def readNames (argument : Text) : Except ProbeFault (List String) :=
  let names := ((Text.commaParts argument).map Text.trim).filter fun name => !name.isEmpty
  if names.isEmpty then throw .emptyFallback else pure (names.map String.ofList)

/-- The first word of a trimmed line, and the rest without the blanks around it. -/
def keywordAndArgument (line : Text) : Text × Text :=
  match Text.cutAt? Text.isBlank line with
  | some (keyword, rest) => (keyword, rest.trim)
  | none => (line, [])

/-- Reads a directive line. A keyword that is not known says nothing. -/
def readDirective (line : Text) : Except ProbeFault Directive :=
  let line := line.trim
  let (keyword, argument) := keywordAndArgument line
  if keyword = "match".toList || keyword = "softmatch".toList then
    ((Rule.compile line).mapError .rule).map .rule
  else if keyword = "ports".toList then
    ((PortExpression.read argument).mapError .ports).map .ports
  else if keyword = "sslports".toList then
    ((PortExpression.read argument).mapError .ports).map .sslPorts
  else if keyword = "rarity".toList then (readRarity argument).map .rarity
  else if keyword = "totalwaitms".toList then (readMillis argument).map .totalWait
  else if keyword = "tcpwrappedms".toList then (readMillis argument).map .tcpWrapped
  else if keyword = "fallback".toList then (readNames argument).map .fallback
  else pure .nothing

def put (p : Probe) : Directive → Probe
  | .rule rule => { p with rules := p.rules ++ [rule] }
  | .ports ranges => { p with ports := ranges.foldl PortSet.insertRange p.ports }
  | .sslPorts ranges => { p with sslPorts := ranges.foldl PortSet.insertRange p.sslPorts }
  | .rarity value => { p with rarity := some value }
  | .totalWait wait => { p with totalWait := some wait }
  | .tcpWrapped wait => { p with tcpWrapped := some wait }
  | .fallback names => { p with fallback := names }
  | .nothing => p

/-- Takes in a directive line, or refuses it. A fallback line without names is refused, and still
takes the names of earlier ones away. -/
def apply (p : Probe) (line : Text) : Probe × Option ProbeFault :=
  match readDirective line with
  | .ok directive => (p.put directive, none)
  | .error .emptyFallback => (p.put (.fallback []), some .emptyFallback)
  | .error fault => (p, some fault)

/-- Takes in the lines one after the other, and gives the faults of those it refused. -/
def applyAll : Probe → List Text → Probe × List ProbeFault
  | p, [] => (p, [])
  | p, line :: rest =>
    let (p, fault?) := p.apply line
    let (p, faults) := applyAll p rest
    (p, fault?.toList ++ faults)

/-- Compiles a header line and the directive lines after it, with the faults of the refused
directives in their order. -/
def compile : List Text → Except ProbeFault (Probe × List ProbeFault)
  | [] => throw .noLines
  | header :: body => (ofHeader header).map fun p => p.applyAll body

/-- A probe that names no port is sent to every port. -/
def isCatchAll (p : Probe) : Bool := p.ports.isEmpty && p.sslPorts.isEmpty

def appliesTo (p : Probe) (port : Port) : Bool :=
  port != 0 && (p.isCatchAll || p.ports.contains port || p.sslPorts.contains port)

/-- What the first of the probe's own rules that matches makes of a reply. -/
def match? (p : Probe) (reply : Bytes) : Option Finger :=
  p.rules.findSome? fun rule => rule.finger? p.name reply

end Probe
end ServiceProbe
