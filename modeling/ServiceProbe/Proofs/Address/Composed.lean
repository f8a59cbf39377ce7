import ServiceProbe.Endpoint
import ServiceProbe.Proofs.Text.Accepted
import ServiceProbe.Proofs.Text.Separated
import ServiceProbe.Target

/-! # Composed addresses

The address of a target is taken apart again at its last colon: the port stands behind it and the
host before it, between brackets if it is an address of version 6. No two targets have the same
address unless a host begins with a bracket of its own. -/

namespace ServiceProbe
set_option autoImplicit false

namespace Endpoint

theorem cutLastColon?_append_cons {port : Text} (h : ':' ∉ port) (host : Text) :
    cutLastColon? (host ++ ':' :: port) = some (host, port) := by
  have hReverse : (host ++ ':' :: port).reverse = port.reverse ++ ':' :: host.reverse := by simp
  rw [cutLastColon?, hReverse, Text.cutOn?_append_cons (mt List.mem_reverse.mp h)]
  simp

theorem readPort?_ofNat (port : Port) : readPort? (Text.ofNat port.toNat) = some port := by
  rw [readPort?, Text.readUnsigned?_ofNat (Nat.le_of_lt_succ port.toNat_lt), Option.map_some,
    UInt16.ofNat_toNat]

end Endpoint

namespace Target

def IsBracketed (t : Text) : Prop := t.head? = some '[' ∧ t.getLast? = some ']'

instance (t : Text) : Decidable (IsBracketed t) := inferInstanceAs (Decidable (_ ∧ _))

/-- A text without the pair of brackets around it, if there is one. -/
def unbracketed (t : Text) : Text := if IsBracketed t then t.tail.dropLast else t

variable {host host' : Text} {port port' : Port}

theorem isBracketed_bracketed_iff (h : host.head? ≠ some '[') :
    IsBracketed (bracketed host) ↔ (Address.readV6? host).isSome = true := by
  unfold bracketed
  split
  · rename_i hLiteral
    exact iff_of_true ⟨rfl, List.getLast?_concat⟩ hLiteral
  · rename_i hName
    simp [IsBracketed, hName, h]

theorem unbracketed_bracketed (h : host.head? ≠ some '[') : unbracketed (bracketed host) = host := by
  by_cases hLiteral : (Address.readV6? host).isSome = true
  · rw [unbracketed, if_pos ((isBracketed_bracketed_iff h).mpr hLiteral), bracketed, if_pos hLiteral,
      List.cons_append, List.tail_cons, List.dropLast_concat]
  · rw [unbracketed, if_neg (mt (isBracketed_bracketed_iff h).mp hLiteral), bracketed,
      if_neg hLiteral]

theorem cutLastColon?_addressOf (host : Text) (port : Port) :
    Endpoint.cutLastColon? (addressOf host port) =
      some (bracketed host, Text.ofNat port.toNat) := by
  refine Endpoint.cutLastColon?_append_cons (fun hColon => ?_) (bracketed host)
  exact absurd (Text.isDigit_of_mem_ofNat hColon) (by decide)

theorem parts_of_addressOf_eq (h : addressOf host port = addressOf host' port') :
    bracketed host = bracketed host' ∧ port = port' := by
  have hParts := congrArg Endpoint.cutLastColon? h
  rw [cutLastColon?_addressOf, cutLastColon?_addressOf, Option.some.injEq, Prod.mk.injEq] at hParts
  obtain ⟨hHost, hPort⟩ := hParts
  have hRead := congrArg Endpoint.readPort? hPort
  rw [Endpoint.readPort?_ofNat, Endpoint.readPort?_ofNat] at hRead
  exact ⟨hHost, Option.some.inj hRead⟩

theorem addressOf_eq_iff (h : host.head? ≠ some '[') (h' : host'.head? ≠ some '[') :
    addressOf host port = addressOf host' port' ↔ host = host' ∧ port = port' := by
  constructor
  · intro hAddress
    obtain ⟨hBracketed, hPort⟩ := parts_of_addressOf_eq hAddress
    have hHost := congrArg unbracketed hBracketed
    rw [unbracketed_bracketed h, unbracketed_bracketed h'] at hHost
    exact ⟨hHost, hPort⟩
  · rintro ⟨rfl, rfl⟩
    rfl

/-- Among hosts that do not begin with a bracket an address belongs to one target, whose host and
port are found around its last colon. -/
theorem composed_address_unambiguous {host : String} (h : host.toList.head? ≠ some '[')
    (port : Port) :
    (∀ host' port', host'.toList.head? ≠ some '[' →
        (ofHostPort host' port').address = (ofHostPort host port).address →
          host' = host ∧ port' = port) ∧
      ∃ left right, Endpoint.cutLastColon? (ofHostPort host port).address.toList =
          some (left, right) ∧
        unbracketed left = host.toList ∧
        (IsBracketed left ↔ (Address.readV6? host.toList).isSome = true) ∧
        right = Text.ofNat port.toNat ∧ Endpoint.readPort? right = some port := by
  constructor
  · intro host' port' h' hAddress
    obtain ⟨hHost, hPort⟩ := (addressOf_eq_iff h' h).mp (String.ofList_injective hAddress)
    exact ⟨String.toList_injective hHost, hPort⟩
  · have hText : (ofHostPort host port).address.toList = addressOf host.toList port :=
      String.toList_ofList
    refine ⟨bracketed host.toList, Text.ofNat port.toNat, ?_, unbracketed_bracketed h,
      isBracketed_bracketed_iff h, rfl, Endpoint.readPort?_ofNat port⟩
    rw [hText, cutLastColon?_addressOf]

/-- An address of version 6, and a host that looks like the rest of one with a port. -/
theorem composed_address_unambiguous_of_colons :
    (ofHostPort "::1" 22).address ≠ (ofHostPort "::1]:2" 2).address ∧
      ∃ left right, Endpoint.cutLastColon? "[::1]:22".toList = some (left, right) ∧
        unbracketed left = "::1".toList ∧ right = "22".toList := by
  have hLiteral := @composed_address_unambiguous "::1" (by decide) 22
  refine ⟨fun hSame => ?_, ?_⟩
  · exact absurd (hLiteral.1 "::1]:2" 2 (by decide) hSame.symm).1 (by decide)
  · obtain ⟨left, right, hCut, hHost, _, hPort, _⟩ := hLiteral.2
    have hAddress : (ofHostPort "::1" 22).address.toList = "[::1]:22".toList := by decide
    exact ⟨left, right, hAddress ▸ hCut, hHost, hPort⟩

/-- A host with brackets of its own is taken for the address between them. -/
example : (ofHostPort "[::1]" 22).address = (ofHostPort "::1" 22).address := by decide

end Target
end ServiceProbe
