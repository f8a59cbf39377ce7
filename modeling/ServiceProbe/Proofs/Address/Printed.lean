import ServiceProbe.Proofs.Address.Characters
import ServiceProbe.Proofs.Text.Separated

/-! # Printed addresses

The text that an address is printed as is read back as the address. So no two addresses are printed
alike, and printed addresses hold none but the characters of addresses. -/

namespace ServiceProbe.Address
set_option autoImplicit false

variable {groups : List Nat} {n : Nat} {c : Char}

/-! ## Addresses of version 4 -/

theorem readOctet?_ofNat : ∀ n : Fin 256, readOctet? false (Text.ofNat n) = some n.val := by
  decide +kernel

theorem readOctets?_renderV4 (bits : BitVec 32) :
    readOctets? false (renderV4 bits) = some bits.toNat := by
  have hParts : (renderV4 bits).splitOn '.' = (Digits.places 256 bits.toNat 4).map Text.ofNat := by
    refine Text.splitOn_join (by simp [Digits.places]) fun part hPart hDot => ?_
    obtain ⟨n, _, rfl⟩ := List.mem_map.mp hPart
    exact absurd (Text.isDigit_of_mem_ofNat hDot) (by decide)
  have hRead : ((Digits.places 256 bits.toNat 4).map Text.ofNat).mapM (readOctet? false) =
      some (Digits.places 256 bits.toNat 4) := by
    rw [mapM_eq_some_iff, List.forall₂_map_left_iff, List.forall₂_same]
    intro n hn
    exact readOctet?_ofNat ⟨n, Digits.lt_of_mem_places (by decide) hn⟩
  have hValue : Digits.value 256 (Digits.places 256 bits.toNat 4) = bits.toNat := by
    rw [Digits.value_places]
    exact Nat.mod_eq_of_lt bits.isLt
  rw [readOctets?, hParts, hRead]
  simp only [bind, Option.bind, Digits.length_places, if_true, hValue]

theorem readV4?_renderV4 (bits : BitVec 32) : readV4? (renderV4 bits) = some bits := by
  rw [readV4?, readOctets?_renderV4, Option.map_some, BitVec.ofNat_toNat, BitVec.setWidth_eq]

theorem colon_not_mem_of_readOctets? {lenient : Bool} {t : Text}
    (h : readOctets? lenient t = some n) : ':' ∉ t := by
  intro hColon
  obtain ⟨octets, hOctets, _⟩ := Option.bind_eq_some_iff.mp h
  obtain ⟨part, hPart, hMem⟩ := Text.exists_mem_splitOn hColon (d := '.') (by decide)
  obtain ⟨octet, hOctet⟩ := exists_of_mapM_eq_some hOctets part hPart
  unfold readOctet? at hOctet
  split at hOctet
  · obtain ⟨hDigits, _⟩ := Option.filter_eq_some_iff.mp hOctet
    exact absurd ((Text.readDecimal?_eq_some_iff.mp hDigits).2.1 _ hMem) (by decide)
  · cases hOctet

/-! ## Groups of hexadecimal digits -/

theorem not_mem_toDigits (h : (Text.hexValue? c).isSome = false) : c ∉ Nat.toDigits 16 n := by
  intro hMem
  rw [Text.isHex_of_mem_toDigits hMem] at h
  cases h

theorem isPart_of_mem_map (groups : List Nat) :
    ∀ part ∈ groups.map (Nat.toDigits 16), part ≠ [] ∧ ':' ∉ part := by
  intro part hPart
  obtain ⟨n, _, rfl⟩ := List.mem_map.mp hPart
  exact ⟨Nat.toDigits_ne_nil, not_mem_toDigits (by decide)⟩

theorem colonParts_renderGroups (groups : List Nat) :
    colonParts (renderGroups groups) = groups.map (Nat.toDigits 16) := by
  cases groups with
  | nil => rfl
  | cons group groups =>
    have hNonempty : (group :: groups).map (Nat.toDigits 16) ≠ [] := List.cons_ne_nil _ _
    have hText : renderGroups (group :: groups) ≠ [] :=
      Text.join_ne_nil hNonempty fun part hPart => (isPart_of_mem_map _ part hPart).1
    rw [colonParts, if_neg (by rwa [List.isEmpty_iff])]
    exact Text.splitOn_join hNonempty fun part hPart => (isPart_of_mem_map _ part hPart).2

theorem readGroup?_toDigits (h : n < 65536) : readGroup? (Nat.toDigits 16 n) = some n := by
  have hLength : (Nat.toDigits 16 n).length ≤ 4 :=
    (Nat.length_toDigits_le_iff (by decide) (by decide)).mpr h
  rw [readGroup?, if_pos hLength, Text.readHex?_toDigits]

theorem mapM_readGroup? (h : ∀ n ∈ groups, n < 65536) :
    (groups.map (Nat.toDigits 16)).mapM readGroup? = some groups := by
  rw [mapM_eq_some_iff, List.forall₂_map_left_iff, List.forall₂_same]
  exact fun n hn => readGroup?_toDigits (h n hn)

theorem readOctets?_toDigits (lenient : Bool) (n : Nat) :
    readOctets? lenient (Nat.toDigits 16 n) = none := by
  have hDot : '.' ∉ Nat.toDigits 16 n := not_mem_toDigits (by decide)
  rw [readOctets?, List.splitOn_eq_singleton hDot]
  cases h : readOctet? lenient (Nat.toDigits 16 n) with
  | none => simp [h]
  | some octet => simp [h]

theorem readGroups?_toDigits (lenient : Bool) (h : ∀ n ∈ groups, n < 65536) :
    readGroups? lenient (groups.map (Nat.toDigits 16)) = some groups := by
  induction groups with
  | nil => rfl
  | cons group groups ih =>
    obtain ⟨hGroup, hGroups⟩ := List.forall_mem_cons.mp h
    cases groups with
    | nil =>
      simp only [List.map_cons, List.map_nil, readGroups?, readOctets?_toDigits,
        readGroup?_toDigits hGroup, Option.map_some]
    | cons next groups =>
      have hRest := ih hGroups
      rw [List.map_cons] at hRest
      simp only [List.map_cons, readGroups?, readGroup?_toDigits hGroup, hRest, bind, Option.bind, pure]

/-! ## Runs of zeros -/

theorem take_of_le_zeroRun {k : Nat} (h : k ≤ zeroRun groups) :
    groups.take k = List.replicate k 0 := by
  induction groups generalizing k with
  | nil => simp_all [zeroRun]
  | cons group groups ih =>
    cases k with
    | zero => rfl
    | succ k =>
      unfold zeroRun at h ih
      by_cases hZero : group = 0
      · subst hZero
        rw [List.takeWhile_cons_of_pos (by rfl), List.length_cons] at h
        rw [List.take_succ_cons, List.replicate_succ, ih (Nat.le_of_succ_le_succ h)]
      · rw [List.takeWhile_cons_of_neg (by simpa using hZero)] at h
        exact absurd h (Nat.not_succ_le_zero k)

theorem longestRun_le (groups : List Nat) :
    (longestRun groups).2 ≤ zeroRun (groups.drop (longestRun groups).1) := by
  unfold longestRun
  refine List.foldlRecOn (motive := fun best : Nat × Nat => best.2 ≤ zeroRun (groups.drop best.1))
    _ _ (Nat.zero_le _) fun best hBest start _ => ?_
  dsimp only
  split
  · exact Nat.le_refl _
  · exact hBest

/-- The zeros of the longest run stand between what is before them and what is after them. -/
theorem around_longestRun (groups : List Nat) :
    groups.take (longestRun groups).1 ++ (List.replicate (longestRun groups).2 0 ++
      groups.drop ((longestRun groups).1 + (longestRun groups).2)) = groups := by
  rw [← take_of_le_zeroRun (longestRun_le groups), ← List.drop_drop, List.take_append_drop,
    List.take_append_drop]

theorem add_longestRun_le (h : 0 < (longestRun groups).2) :
    (longestRun groups).1 + (longestRun groups).2 ≤ groups.length := by
  have hRun := longestRun_le groups
  have hTaken : zeroRun (groups.drop (longestRun groups).1) ≤
      (groups.drop (longestRun groups).1).length := (List.takeWhile_sublist _).length_le
  rw [List.length_drop] at hTaken
  omega

/-! ## Addresses of version 6 -/

theorem readSixteenths?_renderGroups (hLength : groups.length = 8) (h : ∀ n ∈ groups, n < 65536) :
    readSixteenths? false 1 (renderGroups groups) = some groups := by
  have hMark : Text.cutMark? [':', ':'] (renderGroups groups) = none := by
    have hCut := Text.cutMark?_join_append (isPart_of_mem_map groups) []
    rwa [List.append_nil] at hCut
  unfold readSixteenths?
  rw [hMark]
  simp only [colonParts_renderGroups, readGroups?_toDigits false h, Option.filter_some, hLength,
    decide_true, if_true]

theorem readSixteenths?_compressed {before after : List Nat} {k : Nat}
    (hLength : before.length + k + after.length = 8) (hRun : 1 < k)
    (hBefore : ∀ n ∈ before, n < 65536) (hAfter : ∀ n ∈ after, n < 65536) :
    readSixteenths? false 1 (renderGroups before ++ [':', ':'] ++ renderGroups after) =
      some (before ++ (List.replicate k 0 ++ after)) := by
  have hMark : Text.cutMark? [':', ':'] (renderGroups before ++ [':', ':'] ++ renderGroups after) =
      some (renderGroups before, renderGroups after) := by
    have hCut := Text.cutMark?_join_append (isPart_of_mem_map before)
      (':' :: ':' :: renderGroups after)
    rw [List.append_assoc]
    simpa [Text.cutMark?, Text.after?, renderGroups] using hCut
  have hZeros : 8 - before.length - after.length = k := by omega
  have hRoom : (before.length < 8 && before.length + after.length + 1 ≤ 8) = true := by
    simp only [Bool.and_eq_true, decide_eq_true_eq]
    omega
  unfold readSixteenths?
  rw [hMark]
  simp only [colonParts_renderGroups, mapM_readGroup? hBefore, readGroups?_toDigits false hAfter,
    bind, Option.bind, hRoom, if_true, hZeros, List.append_assoc]

theorem readSixteenths?_mapped (bits : BitVec 32) :
    readSixteenths? false 1 ("::ffff:".toList ++ renderV4 bits) =
      some [0, 0, 0, 0, 0, 65535, bits.toNat / 65536, bits.toNat % 65536] := by
  have hColon := colon_not_mem_of_readOctets? (readOctets?_renderV4 bits)
  have hMark : Text.cutMark? [':', ':'] ("::ffff:".toList ++ renderV4 bits) =
      some ([], ['f', 'f', 'f', 'f', ':'] ++ renderV4 bits) := rfl
  have hParts : colonParts (['f', 'f', 'f', 'f', ':'] ++ renderV4 bits) =
      [['f', 'f', 'f', 'f'], renderV4 bits] := by
    have hFree : ∀ part ∈ [['f', 'f', 'f', 'f'], renderV4 bits], ':' ∉ part := by
      simp [hColon]
    exact Text.splitOn_join (List.cons_ne_nil _ _) hFree
  have hGroups : readGroups? false [['f', 'f', 'f', 'f'], renderV4 bits] =
      some [65535, bits.toNat / 65536, bits.toNat % 65536] := by
    have hGroup : readGroup? ['f', 'f', 'f', 'f'] = some 65535 := by decide
    simp only [readGroups?, hGroup, readOctets?_renderV4, bind, Option.bind, pure]
  unfold readSixteenths?
  rw [hMark]
  simp only [hParts, hGroups]
  rfl

theorem ofGroups_places (bits : BitVec 128) :
    ofGroups (Digits.places 65536 bits.toNat 8) = bits := by
  rw [ofGroups, Digits.value_places]
  apply BitVec.eq_of_toNat_eq
  rw [BitVec.toNat_ofNat, Nat.mod_eq_of_lt (Nat.lt_of_le_of_lt (Nat.mod_le _ _) bits.isLt)]
  exact Nat.mod_eq_of_lt bits.isLt

theorem ofGroups_mapped {bits : BitVec 128} (h : bits >>> 32 = 0xFFFF) :
    ofGroups [0, 0, 0, 0, 0, 65535, (BitVec.ofNat 32 bits.toNat).toNat / 65536,
      (BitVec.ofNat 32 bits.toNat).toNat % 65536] = bits := by
  have hHigh : bits.toNat / 4294967296 = 65535 := by
    have hNat := congrArg BitVec.toNat h
    rwa [BitVec.toNat_ushiftRight, Nat.shiftRight_eq_div_pow] at hNat
  have hLow : (BitVec.ofNat 32 bits.toNat).toNat = bits.toNat % 4294967296 := BitVec.toNat_ofNat ..
  have hBits := bits.isLt
  apply BitVec.eq_of_toNat_eq
  rw [hLow, ofGroups, BitVec.toNat_ofNat]
  simp only [Digits.value, List.foldl_cons, List.foldl_nil]
  omega

theorem readV6?_renderV6 (bits : BitVec 128) : readV6? (renderV6 bits) = some bits := by
  have hPlaces : ∀ n ∈ Digits.places 65536 bits.toNat 8, n < 65536 :=
    fun n hn => Digits.lt_of_mem_places (by decide) hn
  have hLength := Digits.length_places 65536 bits.toNat 8
  unfold readV6? renderV6
  generalize hGroups : Digits.places 65536 bits.toNat 8 = groups at hPlaces hLength
  dsimp only
  split
  · rename_i hMapped
    rw [readSixteenths?_mapped, Option.map_some, ofGroups_mapped hMapped]
  · split
    · rw [readSixteenths?_renderGroups hLength hPlaces, Option.map_some, ← hGroups, ofGroups_places]
    · rename_i hRun
      have hEnd : (longestRun groups).1 + (longestRun groups).2 ≤ groups.length :=
        add_longestRun_le (by omega)
      have hAround := around_longestRun groups
      rw [readSixteenths?_compressed (k := (longestRun groups).2), hAround, Option.map_some, ← hGroups,
        ofGroups_places]
      · rw [List.length_take, List.length_drop]
        omega
      · omega
      · exact fun n hn => hPlaces n (List.mem_of_mem_take hn)
      · exact fun n hn => hPlaces n (List.mem_of_mem_drop hn)

theorem colon_mem_renderV6 (bits : BitVec 128) : ':' ∈ renderV6 bits := by
  have hLength := Digits.length_places 65536 bits.toNat 8
  unfold renderV6
  generalize Digits.places 65536 bits.toNat 8 = groups at hLength
  dsimp only
  split
  · simp
  · split
    · match groups, hLength with
      | first :: next :: groups, _ => simp [renderGroups, Text.join]
    · simp

/-! ## Both families -/

theorem read?_render (a : Address) : read? (render a) = some a := by
  cases a with
  | v4 bits => rw [read?, render, readV4?_renderV4]
  | v6 bits =>
    have hNotV4 : readV4? (renderV6 bits) = none := by
      rw [readV4?, Option.map_eq_none_iff, Option.eq_none_iff_forall_ne_some]
      exact fun n hn => colon_not_mem_of_readOctets? hn (colon_mem_renderV6 bits)
    rw [read?, render, hNotV4, readV6?_renderV6]
    rfl

theorem render_injective : Function.Injective render := by
  intro a b h
  have hRead := read?_render a
  rw [h, read?_render] at hRead
  exact (Option.some.inj hRead).symm

theorem isSign_of_mem_render {a : Address} (h : c ∈ render a) : IsSign c :=
  isSign_of_read? (read?_render a) c h

end ServiceProbe.Address
