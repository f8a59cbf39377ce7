import ServiceProbe.Proofs.Address.Characters
import ServiceProbe.Proofs.Expansion.Enumeration

/-! # What tokens stand for

A token of a list of targets is a block, an address, a range or the name of a host. No token can be
read in two of these ways, so the order in which they are tried does not matter. Blocks and ranges of
too many addresses are refused. -/

namespace ServiceProbe
set_option autoImplicit false

namespace Expansion

/-- A token with an address of version 4 before its first hyphen, and the rest of it. -/
def IsRange (token : Text) (first : BitVec 32) (tail : Text) : Prop :=
  ∃ head, '-' ∉ head ∧ token = head ++ '-' :: tail ∧ Address.readV4? head.trim = some first

structure IsName (token : Text) : Prop where
  not_block : ∀ b, Block.read? token ≠ some b
  not_address : ∀ a, Address.read? token ≠ some a
  not_range : ∀ first tail, ¬ IsRange token first tail

inductive StandsFor (resolver : Resolver) : Text → List Address → Prop where
  | block {token : Text} {b : Block} {addresses : List Address} (h : Block.read? token = some b)
      (hHosts : Enumerates b.IsHost addresses) : StandsFor resolver token addresses
  | address {token : Text} {a : Address} (h : Address.read? token = some a) :
      StandsFor resolver token [a]
  | range {token tail : Text} {first last : BitVec 32} {addresses : List Address}
      (h : IsRange token first tail) (hLast : Address.readV4? tail.trim = some last)
      (hOrder : first ≤ last) (hAll : Enumerates (Address.IsBetween first last) addresses) :
      StandsFor resolver token addresses
  | resolved {token : Text} {locations : List Location} (h : IsName token)
      (hAnswer : resolver token = .ok locations) :
      StandsFor resolver token (locations.map Location.address)
  | unresolved {token : Text} {fault : ResolverFault} (h : IsName token)
      (hAnswer : resolver token = .error fault) : StandsFor resolver token []

/-- The limit of 4096 addresses is lifted for blocks alone. -/
inductive IsRefused (allowLarge : Bool) : Text → Prop where
  | largeBlock {token : Text} {b : Block} (h : Block.read? token = some b)
      (hLarge : 4096 < 1 <<< b.hostBits) (hLimit : allowLarge = false) : IsRefused allowLarge token
  | badEnd {token tail : Text} {first : BitVec 32} (h : IsRange token first tail)
      (hEnd : Address.readV4? tail.trim = none) : IsRefused allowLarge token
  | reversed {token tail : Text} {first last : BitVec 32} (h : IsRange token first tail)
      (hLast : Address.readV4? tail.trim = some last) (hOrder : last < first) :
      IsRefused allowLarge token
  | longRange {token tail : Text} {first last : BitVec 32} (h : IsRange token first tail)
      (hLast : Address.readV4? tail.trim = some last)
      (hLong : 4096 < last.toNat + 1 - first.toNat) : IsRefused allowLarge token

variable {resolver : Resolver} {allowLarge : Bool} {token tail : Text} {first : BitVec 32} {b : Block}
  {a : Address} {addresses : List Address}

/-! ## One reading for every token -/

theorem IsRange.mem (h : IsRange token first tail) : '-' ∈ token := by
  obtain ⟨head, _, rfl, _⟩ := h
  simp

theorem IsRange.not_block (h : IsRange token first tail) (b : Block) : Block.read? token ≠ some b :=
  fun hBlock => Block.hyphen_not_mem_of_read? hBlock h.mem

theorem IsRange.not_address (h : IsRange token first tail) (a : Address) :
    Address.read? token ≠ some a :=
  fun hAddress => absurd (Address.isSign_of_read? hAddress _ h.mem) (by decide)

theorem not_address_of_block (h : Block.read? token = some b) (a : Address) :
    Address.read? token ≠ some a := by
  intro hAddress
  exact absurd (Address.isSign_of_read? hAddress _ (Block.slash_mem_of_read? h)) (by decide)

theorem IsRange.inj {other : BitVec 32} {rest : Text} (h : IsRange token first tail)
    (k : IsRange token other rest) : first = other ∧ tail = rest := by
  obtain ⟨head, hHead, rfl, hFirst⟩ := h
  obtain ⟨front, hFront, hEq, hOther⟩ := k
  have hCut := Text.cutOn?_append_cons hHead tail
  rw [hEq, Text.cutOn?_append_cons hFront rest] at hCut
  cases hCut
  rw [hFirst] at hOther
  exact ⟨Option.some.inj hOther, rfl⟩

theorem range?_eq_some_iff : range? token = some (first, tail) ↔ IsRange token first tail := by
  constructor
  · intro h
    obtain ⟨⟨head, rest⟩, hCut, h⟩ := Option.bind_eq_some_iff.mp h
    obtain ⟨bits, hBits, h⟩ := Option.bind_eq_some_iff.mp h
    cases h
    rcases Text.cutOn?_cases '-' token with ⟨_, hNone⟩ | ⟨front, after, hText, hFree, hSome⟩
    · rw [hCut] at hNone
      cases hNone
    · rw [hCut] at hSome
      cases hSome
      exact ⟨head, hFree, hText, hBits⟩
  · rintro ⟨head, hHead, rfl, hFirst⟩
    rw [range?, Text.cutOn?_append_cons hHead]
    simp only [bind, Option.bind, hFirst, pure]

theorem standsFor_iff_of_block (h : Block.read? token = some b) :
    StandsFor resolver token addresses ↔ Enumerates b.IsHost addresses := by
  constructor
  · intro k
    cases k with
    | block hBlock hHosts =>
      rw [h] at hBlock
      cases hBlock
      exact hHosts
    | address hAddress => exact absurd hAddress (not_address_of_block h _)
    | range hRange => exact absurd h (hRange.not_block _)
    | resolved hName | unresolved hName => exact absurd h (hName.not_block _)
  · exact .block h

theorem standsFor_iff_of_address (h : Address.read? token = some a) :
    StandsFor resolver token addresses ↔ addresses = [a] := by
  constructor
  · intro k
    cases k with
    | block hBlock => exact absurd h (not_address_of_block hBlock _)
    | address hAddress =>
      rw [h] at hAddress
      cases hAddress
      rfl
    | range hRange => exact absurd h (hRange.not_address _)
    | resolved hName | unresolved hName => exact absurd h (hName.not_address _)
  · rintro rfl
    exact .address h

theorem standsFor_iff_of_range (h : IsRange token first tail) :
    StandsFor resolver token addresses ↔ ∃ last, Address.readV4? tail.trim = some last ∧
      first ≤ last ∧ Enumerates (Address.IsBetween first last) addresses := by
  constructor
  · intro k
    cases k with
    | block hBlock => exact absurd hBlock (h.not_block _)
    | address hAddress => exact absurd hAddress (h.not_address _)
    | range hRange hLast hOrder hAll =>
      obtain ⟨rfl, rfl⟩ := h.inj hRange
      exact ⟨_, hLast, hOrder, hAll⟩
    | resolved hName | unresolved hName => exact absurd h (hName.not_range _ _)
  · rintro ⟨last, hLast, hOrder, hAll⟩
    exact .range h hLast hOrder hAll

theorem standsFor_iff_of_name (h : IsName token) :
    StandsFor resolver token addresses ↔ addresses = ofHost resolver token := by
  unfold ofHost
  constructor
  · intro k
    cases k with
    | block hBlock => exact absurd hBlock (h.not_block _)
    | address hAddress => exact absurd hAddress (h.not_address _)
    | range hRange => exact absurd hRange (h.not_range _ _)
    | resolved _ hAnswer | unresolved _ hAnswer => rw [hAnswer]
  · rintro rfl
    cases hAnswer : resolver token with
    | ok locations => exact .resolved h hAnswer
    | error fault => exact .unresolved h hAnswer

/-- No token stands for two lists. -/
theorem StandsFor.eq {others : List Address} (h : StandsFor resolver token addresses)
    (k : StandsFor resolver token others) : addresses = others := by
  cases h with
  | block hBlock hHosts => exact hHosts.eq ((standsFor_iff_of_block hBlock).mp k)
  | address hAddress => exact ((standsFor_iff_of_address hAddress).mp k).symm
  | range hRange hLast _ hAll =>
    obtain ⟨last, hOther, _, hOthers⟩ := (standsFor_iff_of_range hRange).mp k
    rw [hLast] at hOther
    cases hOther
    exact hAll.eq hOthers
  | resolved hName hAnswer | unresolved hName hAnswer =>
    rw [(standsFor_iff_of_name hName).mp k, ofHost, hAnswer]

theorem isRefused_iff_of_block (h : Block.read? token = some b) :
    IsRefused allowLarge token ↔ 4096 < 1 <<< b.hostBits ∧ allowLarge = false := by
  constructor
  · intro k
    cases k with
    | largeBlock hBlock hLarge hLimit =>
      rw [h] at hBlock
      cases hBlock
      exact ⟨hLarge, hLimit⟩
    | badEnd hRange | reversed hRange | longRange hRange => exact absurd h (hRange.not_block _)
  · rintro ⟨hLarge, hLimit⟩
    exact .largeBlock h hLarge hLimit

theorem not_isRefused_of_address (h : Address.read? token = some a) :
    ¬ IsRefused allowLarge token := by
  intro k
  cases k with
  | largeBlock hBlock => exact not_address_of_block hBlock _ h
  | badEnd hRange | reversed hRange | longRange hRange => exact hRange.not_address _ h

theorem isRefused_iff_of_range (h : IsRange token first tail) :
    IsRefused allowLarge token ↔ ∀ last, Address.readV4? tail.trim = some last →
      last < first ∨ 4096 < last.toNat + 1 - first.toNat := by
  constructor
  · intro k last hLast
    cases k with
    | largeBlock hBlock => exact absurd hBlock (h.not_block _)
    | badEnd hRange hEnd =>
      obtain ⟨rfl, rfl⟩ := h.inj hRange
      rw [hLast] at hEnd
      cases hEnd
    | reversed hRange hOther hOrder =>
      obtain ⟨rfl, rfl⟩ := h.inj hRange
      rw [hLast] at hOther
      cases hOther
      exact .inl hOrder
    | longRange hRange hOther hLong =>
      obtain ⟨rfl, rfl⟩ := h.inj hRange
      rw [hLast] at hOther
      cases hOther
      exact .inr hLong
  · intro hBad
    cases hLast : Address.readV4? tail.trim with
    | none => exact .badEnd h hLast
    | some last =>
      rcases hBad last hLast with hOrder | hLong
      · exact .reversed h hLast hOrder
      · exact .longRange h hLast hLong

theorem not_isRefused_of_name (h : IsName token) : ¬ IsRefused allowLarge token := by
  intro k
  cases k with
  | largeBlock hBlock => exact h.not_block _ hBlock
  | badEnd hRange | reversed hRange | longRange hRange => exact h.not_range _ _ hRange

/-! ## Reading tokens -/

theorem ofBlock_eq_ok_iff : ofBlock allowLarge b = .ok addresses ↔
    addresses = b.hosts ∧ ¬ (4096 < 1 <<< b.hostBits ∧ allowLarge = false) := by
  have hSize : hostLimit < b.size ↔ 4096 < 1 <<< b.hostBits := by
    rw [Block.size, Nat.lt_min, hostLimit]
    exact and_iff_left (by decide)
  have hLimit : (hostLimit < b.size && !allowLarge) = true ↔
      4096 < 1 <<< b.hostBits ∧ allowLarge = false := by
    rw [Bool.and_eq_true, decide_eq_true_eq, hSize, Bool.not_eq_true']
  unfold ofBlock
  split
  · rename_i hRefused
    constructor
    · intro h
      cases h
    · rintro ⟨_, hAllowed⟩
      exact absurd (hLimit.mp hRefused) hAllowed
  · rename_i hAllowed
    constructor
    · intro h
      cases h
      exact ⟨rfl, fun hRefused => hAllowed (hLimit.mpr hRefused)⟩
    · rintro ⟨rfl, _⟩
      rfl

theorem ofRange_of_last {last : BitVec 32} (h : Address.readV4? tail.trim = some last) :
    ofRange token first tail = .ok addresses ↔
      Enumerates (Address.IsBetween first last) addresses ∧
        ¬ (last < first ∨ 4096 < last.toNat + 1 - first.toNat) := by
  unfold ofRange
  rw [h]
  dsimp only
  split
  · rename_i hOrder
    constructor
    · intro h
      cases h
    · rintro ⟨_, hGood⟩
      exact absurd (.inl hOrder) hGood
  · rename_i hOrder
    have hLe : first ≤ last := BitVec.not_lt.mp hOrder
    have hLeNat : first.toNat ≤ last.toNat := hLe
    split
    · rename_i hLong
      rw [hostLimit] at hLong
      constructor
      · intro h
        cases h
      · rintro ⟨_, hGood⟩
        exact absurd (.inr (by omega)) hGood
    · rename_i hShort
      rw [hostLimit] at hShort
      constructor
      · intro h
        cases h
        refine ⟨enumerates_range hLe, ?_⟩
        rintro (hReversed | hLong)
        · exact hOrder hReversed
        · omega
      · rintro ⟨hAll, _⟩
        rw [hAll.eq (enumerates_range hLe)]
        rfl

theorem ofRange_of_no_last (h : Address.readV4? tail.trim = none) :
    ofRange token first tail = .error (.badEnd tail) := by
  unfold ofRange
  rw [h]
  rfl

/-- The four ways to read a token, as they are tried. -/
theorem ofToken_cases (resolver : Resolver) (allowLarge : Bool) (token : Text) :
    (∃ b, Block.read? token = some b ∧ ofToken resolver allowLarge token = ofBlock allowLarge b) ∨
      (∃ a, Address.read? token = some a ∧ ofToken resolver allowLarge token = .ok [a]) ∨
      (∃ first tail, IsRange token first tail ∧
        ofToken resolver allowLarge token = ofRange token first tail) ∨
      (IsName token ∧ ofToken resolver allowLarge token = .ok (ofHost resolver token)) := by
  unfold ofToken
  cases hBlock : Block.read? token with
  | some b => exact .inl ⟨b, rfl, rfl⟩
  | none =>
    cases hAddress : Address.read? token with
    | some a => exact .inr (.inl ⟨a, rfl, rfl⟩)
    | none =>
      cases hRange : range? token with
      | some range => exact .inr (.inr (.inl ⟨range.1, range.2, range?_eq_some_iff.mp hRange, rfl⟩))
      | none =>
        refine .inr (.inr (.inr ⟨⟨by simp [hBlock], by simp [hAddress], fun first tail h => ?_⟩, rfl⟩))
        rw [range?_eq_some_iff.mpr h] at hRange
        cases hRange

theorem ofToken_eq_ok_iff : ofToken resolver allowLarge token = .ok addresses ↔
    StandsFor resolver token addresses ∧ ¬ IsRefused allowLarge token := by
  rcases ofToken_cases resolver allowLarge token with
    ⟨b, h, hToken⟩ | ⟨a, h, hToken⟩ | ⟨first, tail, h, hToken⟩ | ⟨h, hToken⟩
  · rw [hToken, ofBlock_eq_ok_iff, standsFor_iff_of_block h, isRefused_iff_of_block h]
    refine and_congr_left fun _ => ⟨?_, fun hAll => hAll.eq b.enumerates_hosts⟩
    rintro rfl
    exact b.enumerates_hosts
  · rw [hToken, standsFor_iff_of_address h, Except.ok.injEq, eq_comm]
    exact (and_iff_left (not_isRefused_of_address h)).symm
  · rw [hToken, standsFor_iff_of_range h, isRefused_iff_of_range h]
    cases hLast : Address.readV4? tail.trim with
    | none => simp [ofRange_of_no_last hLast]
    | some last =>
      rw [ofRange_of_last hLast]
      simp only [Option.some.injEq, exists_eq_left', forall_eq']
      refine and_congr_left fun hGood => (and_iff_right ?_).symm
      exact BitVec.not_lt.mp fun hOrder => hGood (.inl hOrder)
  · rw [hToken, standsFor_iff_of_name h, Except.ok.injEq, eq_comm]
    exact (and_iff_left (not_isRefused_of_name h)).symm

theorem exists_ofToken_eq_ok (resolver : Resolver) (h : ¬ IsRefused allowLarge token) :
    ∃ addresses, ofToken resolver allowLarge token = .ok addresses := by
  rcases ofToken_cases resolver allowLarge token with
    ⟨b, hBlock, hToken⟩ | ⟨a, _, hToken⟩ | ⟨first, tail, hRange, hToken⟩ | ⟨_, hToken⟩
  · rw [isRefused_iff_of_block hBlock] at h
    exact ⟨b.hosts, hToken.trans (ofBlock_eq_ok_iff.mpr ⟨rfl, h⟩)⟩
  · exact ⟨_, hToken⟩
  · rw [isRefused_iff_of_range hRange] at h
    push Not at h
    obtain ⟨last, hLast, hOrder, hShort⟩ := h
    have hAll := enumerates_range (BitVec.not_lt.mp hOrder)
    have hGood := not_or.mpr ⟨hOrder, Nat.not_lt.mpr hShort⟩
    exact ⟨_, hToken.trans ((ofRange_of_last hLast).mpr ⟨hAll, hGood⟩)⟩
  · exact ⟨_, hToken⟩

end Expansion
end ServiceProbe
