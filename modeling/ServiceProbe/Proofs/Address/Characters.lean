import ServiceProbe.Address.Block
import ServiceProbe.Proofs.Text.Accepted
import ServiceProbe.Proofs.Text.Hexadecimal
import ServiceProbe.Proofs.Text.Parts

/-! # The characters of addresses

A text that is read as an address holds nothing but hexadecimal digits, dots and colons, and the text
of a block holds a slash besides. So no text is read both as an address and as a block, and neither
has room for a hyphen. -/

namespace ServiceProbe
set_option autoImplicit false

namespace Address

/-- The characters that addresses are written with. -/
def IsSign (c : Char) : Prop := (Text.hexValue? c).isSome = true ∨ c = '.' ∨ c = ':'

instance (c : Char) : Decidable (IsSign c) := inferInstanceAs (Decidable (_ ∨ _))

variable {lenient : Bool} {t : Text} {n gap : Nat} {groups : List Nat} {a : Address}

theorem isSign_of_splitOn {d : Char} (hd : IsSign d) (h : ∀ part ∈ t.splitOn d, ∀ c ∈ part, IsSign c) :
    ∀ c ∈ t, IsSign c := by
  intro c hc
  by_cases hNe : c = d
  · exact hNe ▸ hd
  · obtain ⟨part, hPart, hMem⟩ := Text.exists_mem_splitOn hc hNe
    exact h part hPart c hMem

theorem isSign_of_readOctet? (h : readOctet? lenient t = some n) : ∀ c ∈ t, IsSign c := by
  unfold readOctet? at h
  split at h
  · obtain ⟨hRead, _⟩ := Option.filter_eq_some_iff.mp h
    exact fun c hc => .inl (Text.isHex_of_isDigit ((Text.readDecimal?_eq_some_iff.mp hRead).2.1 c hc))
  · cases h

theorem isSign_of_readOctets? (h : readOctets? lenient t = some n) : ∀ c ∈ t, IsSign c := by
  obtain ⟨octets, hOctets, _⟩ := Option.bind_eq_some_iff.mp h
  refine isSign_of_splitOn (.inr (.inl rfl)) fun part hPart => ?_
  obtain ⟨octet, hOctet⟩ := exists_of_mapM_eq_some hOctets part hPart
  exact isSign_of_readOctet? hOctet

theorem isSign_of_readGroup? (h : readGroup? t = some n) : ∀ c ∈ t, IsSign c := by
  unfold readGroup? at h
  split at h
  · exact fun c hc => .inl (Text.isHex_of_readHex? h c hc)
  · cases h

theorem isSign_of_readGroups? {parts : List Text} (h : readGroups? lenient parts = some groups) :
    ∀ part ∈ parts, ∀ c ∈ part, IsSign c := by
  induction parts generalizing groups with
  | nil => simp
  | cons part parts ih =>
    cases parts with
    | nil =>
      rw [List.forall_mem_singleton]
      unfold readGroups? at h
      split at h
      · rename_i hOctets
        exact isSign_of_readOctets? hOctets
      · obtain ⟨group, hGroup, _⟩ := Option.map_eq_some_iff.mp h
        exact isSign_of_readGroup? hGroup
    | cons next parts =>
      obtain ⟨group, hGroup, h⟩ := Option.bind_eq_some_iff.mp h
      obtain ⟨rest, hRest, _⟩ := Option.bind_eq_some_iff.mp h
      exact List.forall_mem_cons.mpr ⟨isSign_of_readGroup? hGroup, ih hRest⟩

theorem isSign_of_colonParts (h : ∀ part ∈ colonParts t, ∀ c ∈ part, IsSign c) : ∀ c ∈ t, IsSign c := by
  unfold colonParts at h
  split at h
  · rename_i hEmpty
    simp [List.isEmpty_iff.mp hEmpty]
  · exact isSign_of_splitOn (.inr (.inr rfl)) h

theorem isSign_of_readSixteenths? (h : readSixteenths? lenient gap t = some groups) :
    ∀ c ∈ t, IsSign c := by
  unfold readSixteenths? at h
  split at h
  · obtain ⟨hGroups, _⟩ := Option.filter_eq_some_iff.mp h
    exact isSign_of_colonParts (isSign_of_readGroups? hGroups)
  · rename_i head tail hCut
    obtain ⟨before, hBefore, h⟩ := Option.bind_eq_some_iff.mp h
    obtain ⟨after, hAfter, _⟩ := Option.bind_eq_some_iff.mp h
    have hHead : ∀ c ∈ head, IsSign c := by
      refine isSign_of_colonParts fun part hPart => ?_
      obtain ⟨group, hGroup⟩ := exists_of_mapM_eq_some hBefore part hPart
      exact isSign_of_readGroup? hGroup
    have hTail : ∀ c ∈ tail, IsSign c := isSign_of_colonParts (isSign_of_readGroups? hAfter)
    have hColon : IsSign ':' := .inr (.inr rfl)
    have hMark : ∀ c ∈ [':', ':'], IsSign c :=
      List.forall_mem_cons.mpr ⟨hColon, List.forall_mem_singleton.mpr hColon⟩
    rw [Text.append_of_cutMark? hCut]
    exact List.forall_mem_append.mpr ⟨hHead, List.forall_mem_append.mpr ⟨hMark, hTail⟩⟩

theorem isSign_of_readV4? {bits : BitVec 32} (h : readV4? t = some bits) : ∀ c ∈ t, IsSign c := by
  obtain ⟨n, hn, _⟩ := Option.map_eq_some_iff.mp h
  exact isSign_of_readOctets? hn

theorem isSign_of_read? (h : read? t = some a) : ∀ c ∈ t, IsSign c := by
  unfold read? at h
  split at h
  · rename_i bits hBits
    exact isSign_of_readV4? hBits
  · obtain ⟨bits, hBits, _⟩ := Option.map_eq_some_iff.mp h
    obtain ⟨groups, hGroups, _⟩ := Option.map_eq_some_iff.mp hBits
    exact isSign_of_readSixteenths? hGroups

end Address

namespace Block

theorem isDigit_of_readLength? {places limit : Nat} {t : Text} {length : Fin (limit + 1)}
    (h : readLength? places limit t = some length) : ∀ c ∈ t, c.isDigit = true := by
  unfold readLength? at h
  split at h
  · obtain ⟨n, hn, _⟩ := Option.bind_eq_some_iff.mp h
    exact (Text.readDecimal?_eq_some_iff.mp hn).2.1
  · cases h

theorem exists_of_read? {t : Text} {b : Block} (h : read? t = some b) :
    ∃ address length, t = address ++ '/' :: length ∧ (∀ c ∈ address, Address.IsSign c) ∧
      ∀ c ∈ length, c.isDigit = true := by
  obtain ⟨⟨address, length⟩, hCut, h⟩ := Option.bind_eq_some_iff.mp h
  rcases Text.cutOn?_cases '/' t with ⟨_, hNone⟩ | ⟨head, rest, hText, _, hSome⟩
  · rw [hCut] at hNone
    cases hNone
  · rw [hCut] at hSome
    cases hSome
    refine ⟨address, length, hText, ?_⟩
    rcases Option.or_eq_some_iff.mp h with hV4 | ⟨_, hV6⟩
    · obtain ⟨n, hn, hV4⟩ := Option.bind_eq_some_iff.mp hV4
      obtain ⟨bits, hBits, _⟩ := Option.bind_eq_some_iff.mp hV4
      exact ⟨Address.isSign_of_readOctets? hn, isDigit_of_readLength? hBits⟩
    · obtain ⟨groups, hGroups, hV6⟩ := Option.bind_eq_some_iff.mp hV6
      obtain ⟨bits, hBits, _⟩ := Option.bind_eq_some_iff.mp hV6
      exact ⟨Address.isSign_of_readSixteenths? hGroups, isDigit_of_readLength? hBits⟩

theorem slash_mem_of_read? {t : Text} {b : Block} (h : read? t = some b) : '/' ∈ t := by
  obtain ⟨address, length, rfl, _⟩ := exists_of_read? h
  simp

theorem hyphen_not_mem_of_read? {t : Text} {b : Block} (h : read? t = some b) : '-' ∉ t := by
  obtain ⟨address, length, rfl, hAddress, hLength⟩ := exists_of_read? h
  intro hIn
  rcases List.mem_append.mp hIn with hIn | hIn
  · exact absurd (hAddress _ hIn) (by decide)
  · rcases List.mem_cons.mp hIn with hSlash | hIn
    · exact absurd hSlash (by decide)
    · exact absurd (hLength _ hIn) (by decide)

end Block
end ServiceProbe
