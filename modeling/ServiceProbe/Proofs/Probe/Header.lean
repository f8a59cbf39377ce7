import ServiceProbe.Proofs.Probe.Directives
import ServiceProbe.Proofs.Text.Parts
import ServiceProbe.Proofs.Text.Words

/-! # Header lines

A header line declares a protocol, a name and the text of a payload. Whether it is accepted then
hangs on that text alone, and the directive lines after it change neither the name nor the payload. -/

namespace ServiceProbe.Probe
set_option autoImplicit false

variable {line header name raw : Text} {body : List Text} {protocol : Protocol} {p : Probe}
  {payload : Bytes}

/-- The line has the form of a header, with the text `raw` between the delimiters of its payload. -/
def Declares (line : Text) (protocol : Protocol) (name raw : Text) : Prop :=
  ∃ rest word afterWord request, afterKeyword? line = some rest ∧
    Text.nextWord? rest = some (word, afterWord) ∧ readProtocol word = .ok protocol ∧
    Text.nextWord? afterWord = some (name, request) ∧ payloadText? request.trimStart = some raw

/-- A probe of which its header is all that is known. -/
def bare (protocol : Protocol) (name : Text) (payload : Bytes) : Probe where
  name := String.ofList name
  protocol := protocol
  payload := payload
  ports := .empty
  sslPorts := .empty
  rarity := none
  totalWait := none
  tcpWrapped := none
  fallback := []
  rules := []

theorem orFault_eq_ok_iff {α : Type} {fault : ProbeFault} {found : Option α} {a : α} :
    orFault fault found = .ok a ↔ found = some a := by
  cases found <;> simp [orFault, pure, Except.pure, throw, throwThe, MonadExceptOf.throw]

theorem Declares.isWord (h : Declares line protocol name raw) : Text.IsWord name := by
  obtain ⟨_, _, _, _, _, _, _, hName, _⟩ := h
  obtain ⟨_, _, _, hWord, _⟩ := Text.nextWord?_eq_some_iff.mp hName
  exact hWord

theorem Declares.ofHeader (h : Declares line protocol name raw) :
    ofHeader line = (readPayload raw).map (bare protocol name) := by
  obtain ⟨rest, word, afterWord, request, hKeyword, hWord, hProtocol, hName, hRaw⟩ := h
  unfold Probe.ofHeader
  simp only [hKeyword, orFault, pure, Except.pure, bind, Except.bind, hWord, hProtocol, hName, hRaw]
  cases readPayload raw <;> rfl

theorem exists_declares_of_ofHeader (h : ofHeader line = .ok p) : ∃ protocol name raw payload,
    Declares line protocol name raw ∧ readPayload raw = .ok payload ∧ p = bare protocol name payload := by
  obtain ⟨rest, hKeyword, h⟩ := exists_of_bind_eq_ok h
  obtain ⟨⟨word, afterWord⟩, hWord, h⟩ := exists_of_bind_eq_ok h
  obtain ⟨protocol, hProtocol, h⟩ := exists_of_bind_eq_ok h
  obtain ⟨⟨name, request⟩, hName, h⟩ := exists_of_bind_eq_ok h
  obtain ⟨raw, hRaw, h⟩ := exists_of_bind_eq_ok h
  obtain ⟨payload, hPayload, h⟩ := exists_of_bind_eq_ok h
  cases h
  exact ⟨protocol, name, raw, payload, ⟨rest, word, afterWord, request,
    orFault_eq_ok_iff.mp hKeyword, orFault_eq_ok_iff.mp hWord, hProtocol,
    orFault_eq_ok_iff.mp hName, orFault_eq_ok_iff.mp hRaw⟩, hPayload, rfl⟩

@[simp] theorem name_putAll (p : Probe) (ds : List Directive) : (p.putAll ds).name = p.name := by
  rw [putAll_eq]

@[simp] theorem payload_putAll (p : Probe) (ds : List Directive) :
    (p.putAll ds).payload = p.payload := by
  rw [putAll_eq]

theorem Declares.compile_of_payload (h : Declares header protocol name raw)
    (hPayload : readPayload raw = .ok payload) :
    ∃ p faults, compile (header :: body) = .ok (p, faults) ∧ p.payload = payload := by
  have hHeader : Probe.ofHeader header = .ok (bare protocol name payload) := by
    rw [h.ofHeader, hPayload]
    rfl
  exact ⟨_, _, compile_of_header hHeader body, payload_putAll _ _⟩

theorem Declares.compile_of_fault {fault : ProbeFault} (h : Declares header protocol name raw)
    (hPayload : readPayload raw = .error fault) : compile (header :: body) = .error fault := by
  rw [compile, h.ofHeader, hPayload]
  rfl

end ServiceProbe.Probe
