import ServiceProbe.Exchange
import ServiceProbe.Network
import ServiceProbe.ScanOptions

/-! # Exchanges over the network

An exchange sends one payload and collects the reply. The waits of a request go before those of the
transport, and a cap bounds both. What has been read when a read fails or takes too long is the
reply; a peer that closes at once without a word is wrapped. -/

namespace ServiceProbe
set_option autoImplicit false

structure NetworkTransport where
  totalWait : Duration := Duration.ofMillis 5000
  tcpWrapped : Duration := Duration.ofMillis 2000
  maxWait : Option Duration := none
  readIdle : Duration := Duration.ofMillis 300
  /-- The most bytes that are kept of a reply. -/
  maxResponse : Nat := 65536
  deriving DecidableEq, Repr

namespace NetworkTransport

def name : String := "tcp/udp"

def ofOptions (options : ScanOptions) : NetworkTransport where
  totalWait := options.totalWait
  tcpWrapped := options.tcpWrapped
  maxWait := options.maxWait

/-- At least one byte is kept of a reply. -/
def withMaxResponse (t : NetworkTransport) (limit : Nat) : NetworkTransport :=
  { t with maxResponse := max 1 limit }

def capped (t : NetworkTransport) (wait : Duration) : Duration :=
  match t.maxWait with
  | none => wait
  | some cap => wait.min cap

def totalWaitFor (t : NetworkTransport) (r : Request) : Duration :=
  t.capped (r.totalWait.getD t.totalWait)

def tcpWrappedFor (t : NetworkTransport) (r : Request) : Duration :=
  t.capped (r.tcpWrapped.getD t.tcpWrapped)

/-- What a peer has to say for itself that closes the connection without any data. -/
def closedError (address : String) (wrapped elapsed : Duration) : Error :=
  if elapsed.toNanos ≤ wrapped.toNanos then .tcpWrapped
  else .network (address ++ " closed without data")

def failedError (failure : Failure) (wrapped elapsed : Duration) : Error :=
  if failure.kind = .connectionReset && elapsed.toNanos ≤ wrapped.toNanos then .tcpWrapped
  else .io failure.text

/-- What has been read, or an error if that is nothing. -/
def settle (received : Bytes) (e : Error) : Reply :=
  if received.isEmpty then .error e else .ok received

/-- Collects a reply of at most `limit` bytes. The last read, if there is none further, takes too
long. -/
def collect (limit : Nat) (wrapped : Duration) (address : String) (received : Bytes) :
    List Arrival → Reply
  | [] => settle received (.timeout ("no response from " ++ address))
  | arrival :: rest =>
    match arrival.reading with
    | .chunk bytes =>
      let received := received ++ bytes
      if limit ≤ received.length then .ok (received.take limit)
      else collect limit wrapped address received rest
    | .closed => settle received (closedError address wrapped arrival.elapsed)
    | .failed failure => settle received (failedError failure wrapped arrival.elapsed)
    | .expired => settle received (.timeout ("no response from " ++ address))

/-- Tries endpoints in turn until one can be reached. Of several failures the last one counts. -/
def connectAny (network : Network) (callTo : Endpoint → Call) : List Endpoint → Attempt Connection
  | [] => .failed ⟨.other, "could not resolve to any address"⟩
  | [e] => network.connect (callTo e)
  | e :: rest =>
    match network.connect (callTo e) with
    | .failed _ => connectAny network callTo rest
    | attempt => attempt

def callTo (t : NetworkTransport) (r : Request) (e : Endpoint) : Call :=
  ⟨e, r.payload, t.totalWaitFor r, t.readIdle⟩

def tcpExchange (t : NetworkTransport) (network : Network) (endpoints : List Endpoint)
    (r : Request) : Reply :=
  match connectAny network (t.callTo r) endpoints with
  | .expired => .error (.timeout ("connect to " ++ r.address))
  | .failed failure => .error (.io failure.text)
  | .done connection =>
    let read := collect t.maxResponse (t.tcpWrappedFor r) r.address [] connection.arrivals
    if r.payload.isEmpty then read
    else
      match connection.written with
      | .expired => .error (.timeout ("write to " ++ r.address))
      | .failed failure => .error (.io failure.text)
      | .done _ => read

def udpExchange (t : NetworkTransport) (network : Network) (endpoints : List Endpoint)
    (r : Request) : Reply :=
  match endpoints with
  | [] => .error (.invalidTarget r.address)
  | e :: _ =>
    match network.datagram (t.callTo r e) with
    | .expired => .error (.timeout ("no datagram from " ++ r.address))
    | .failed failure => .error (.io failure.text)
    | .done bytes => .ok (bytes.take t.maxResponse)

def exchange (t : NetworkTransport) (network : Network) (resolver : Resolver) (r : Request) : Reply :=
  match Endpoint.resolve resolver r.address.toList with
  | .error fault => .error (.io fault.message)
  | .ok endpoints =>
    match r.protocol with
    | .tcp => t.tcpExchange network endpoints r
    | .udp => t.udpExchange network endpoints r

end NetworkTransport
end ServiceProbe
