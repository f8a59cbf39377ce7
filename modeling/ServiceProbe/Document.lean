import ServiceProbe.Json.Form
import ServiceProbe.Json.Printer
import ServiceProbe.Protocol
import ServiceProbe.Record
import ServiceProbe.ScanOptions
import ServiceProbe.Uuid

/-! # Documents

The values of a scan as JSON documents. A document has the form of its type, and what is read is
written back in its normal form. -/

namespace ServiceProbe
set_option autoImplicit false

/-- How the values of a type stand in documents. -/
structure Document (α : Type) where
  form : Form
  toJson : α → Json
  /-- The value of a document in normal form. -/
  ofJson? : Json → Option α

namespace Document

open Form (Member)

def text {α : Type} (d : Document α) (a : α) : Text := (d.toJson a).compact

def read {α : Type} (d : Document α) (t : Text) : Except JsonFault α := do
  let json ← d.form.readAll t
  match d.ofJson? json with
  | some a => pure a
  | none => throw .mismatched

def stringOf? : Json → Option String
  | .string s => some s
  | _ => none

def optionOf? {α : Type} (f : Json → Option α) : Json → Option (Option α)
  | .null => some none
  | j => (f j).map some

def listOf? {α : Type} (f : Json → Option α) : Json → Option (List α)
  | .array items => items.mapM f
  | _ => none

def naturalOf? : Json → Option Nat
  | .natural n => some n
  | _ => none

/-- Whole seconds and nanoseconds under two names. Full seconds among the nanoseconds are carried
over, and what then takes `limit` seconds or more is refused. -/
def span (secs nanos : String) (limit : Nat) : Document Duration where
  form := Form.structWith true
    [.required secs (.natural (UInt64.size - 1)), .required nanos (.natural (UInt32.size - 1))]
    fun
    | [(_, .natural s), (_, .natural n)] =>
      let total := s + n / 1000000000
      if total < limit then
        some [(secs, .natural total), (nanos, .natural (n % 1000000000))]
      else none
    | _ => none
  toJson d := .object [(secs, .natural d.secs.toNat), (nanos, .natural d.nanos.val)]
  ofJson?
    | .object [(_, .natural s), (_, .natural n)] =>
      Duration.ofNanos? (s * 1000000000 + n)
    | _ => none

def duration : Document Duration := span "secs" "nanos" UInt64.size

/-- A moment after the epoch. -/
def moment : Document Duration := span "secs_since_epoch" "nanos_since_epoch" (UInt64.size / 2)

def protocol : Document Protocol where
  form := .choice [Protocol.tcp.tag, Protocol.udp.tag]
  toJson p := .string p.tag
  ofJson?
    | .string s =>
      if s = Protocol.tcp.tag then some .tcp else if s = Protocol.udp.tag then some .udp else none
    | _ => none

def finger : Document Finger where
  form := .struct
    [.required "probe" .string, .required "service" .string, .optional "product" .string,
      .optional "version" .string, .optional "info" .string, .optional "hostname" .string,
      .optional "os" .string, .optional "device_type" .string,
      .defaulted "cpe" (.list .string) (.array []), .required "soft" .bool]
  toJson f := .object <|
    [("probe", .string f.probe), ("service", .string f.service),
      ("product", .option .string f.product), ("version", .option .string f.version),
      ("info", .option .string f.info), ("hostname", .option .string f.hostname),
      ("os", .option .string f.os), ("device_type", .option .string f.deviceType)] ++
    (if f.cpe.isEmpty then [] else [("cpe", Json.strings f.cpe)]) ++ [("soft", .bool f.soft)]
  ofJson?
    | .object [(_, .string probe), (_, .string service), (_, product), (_, version), (_, info),
        (_, hostname), (_, os), (_, deviceType), (_, cpe), (_, .bool soft)] => do
      let product ← optionOf? stringOf? product
      let version ← optionOf? stringOf? version
      let info ← optionOf? stringOf? info
      let hostname ← optionOf? stringOf? hostname
      let os ← optionOf? stringOf? os
      let deviceType ← optionOf? stringOf? deviceType
      let cpe ← listOf? stringOf? cpe
      pure ⟨probe, service, product, version, info, hostname, os, deviceType, cpe, soft⟩
    | _ => none

def target : Document Target where
  form := .struct
    [.required "host" .string, .required "port" (.natural 65535), .required "addr" .string]
  toJson t := .object
    [("host", .string t.host), ("port", .natural t.port.toNat), ("addr", .string t.address)]
  ofJson?
    | .object [(_, .string host), (_, .natural port), (_, .string address)] =>
      some ⟨host, UInt16.ofNat port, address⟩
    | _ => none

def options : Document ScanOptions where
  form := .struct
    [.optional "rarity_threshold" (.natural 255), .required "honor_exclude" .bool,
      .required "total_wait" duration.form, .required "tcp_wrapped" duration.form,
      .optional "max_wait" duration.form, .required "max_concurrency" (.natural (UInt64.size - 1)),
      .optional "rate_limit" (.natural (UInt32.size - 1))]
  toJson o := .object
    [("rarity_threshold", .option (fun n => .natural n.toNat) o.rarityThreshold),
      ("honor_exclude", .bool o.honorExclude), ("total_wait", duration.toJson o.totalWait),
      ("tcp_wrapped", duration.toJson o.tcpWrapped), ("max_wait", .option duration.toJson o.maxWait),
      ("max_concurrency", .natural o.maxConcurrency.toNat),
      ("rate_limit", .option (fun n => .natural n.toNat) o.rateLimit)]
  ofJson?
    | .object [(_, rarity), (_, .bool honor), (_, total), (_, wrapped), (_, cap),
        (_, .natural concurrency), (_, rate)] => do
      let rarity ← optionOf? naturalOf? rarity
      let total ← duration.ofJson? total
      let wrapped ← duration.ofJson? wrapped
      let cap ← optionOf? duration.ofJson? cap
      let rate ← optionOf? naturalOf? rate
      pure ⟨rarity.map UInt8.ofNat, honor, total, wrapped, cap, UInt64.ofNat concurrency,
        rate.map UInt32.ofNat⟩
    | _ => none

def record : Document Record where
  form := .struct
    [.required "target" target.form, .optional "finger" finger.form,
      .required "elapsed" duration.form]
  toJson r := .object
    [("target", target.toJson r.target), ("finger", .option finger.toJson r.finger),
      ("elapsed", duration.toJson r.elapsed)]
  ofJson?
    | .object [(_, t), (_, f), (_, elapsed)] => do
      let t ← target.ofJson? t
      let f ← optionOf? finger.ofJson? f
      let elapsed ← duration.ofJson? elapsed
      pure ⟨t, f, elapsed⟩
    | _ => none

def idOf? : Json → Option Uuid
  | .string s => Uuid.read? s.toList
  | _ => none

def uuid : Document Uuid where
  form := do
    let id ← Form.orMismatch (idOf? (← Form.string))
    pure (.string (String.ofList id.render))
  toJson id := .string (String.ofList id.render)
  ofJson? := idOf?

def job : Document Job where
  form := .struct
    [.required "id" uuid.form, .required "targets" (.list target.form),
      .required "created_at" moment.form]
  toJson j := .object
    [("id", uuid.toJson j.id), ("targets", .array (j.targets.map target.toJson)),
      ("created_at", moment.toJson j.createdAt)]
  ofJson?
    | .object [(_, id), (_, targets), (_, createdAt)] => do
      let id ← uuid.ofJson? id
      let targets ← listOf? target.ofJson? targets
      let createdAt ← moment.ofJson? createdAt
      pure ⟨id, targets, createdAt⟩
    | _ => none

end Document
end ServiceProbe
