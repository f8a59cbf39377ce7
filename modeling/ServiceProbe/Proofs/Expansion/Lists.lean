import ServiceProbe.Proofs.Expansion.FirstSeen
import ServiceProbe.Proofs.Expansion.Tokens
import ServiceProbe.Proofs.Text.Words

/-! # What lists of targets stand for

A list stands for what its tokens stand for, each address at its first place, unless a token is
refused or no token stands for anything. Its tokens are told by how the text is put together: parts
with commas between them, each of them blank or a token with blanks around it. -/

namespace ServiceProbe.Expansion
set_option autoImplicit false

/-- What stands between two commas, and the token in it, if there is one. -/
inductive IsPart : Text → List Text → Prop where
  | blank {part : Text} (h : ∀ c ∈ part, Text.isBlank c = true) : IsPart part []
  | token {token part : Text} (hTight : Text.IsTight token) (h : Text.IsSurrounded token part) :
      IsPart part [token]

inductive HasTokens : Text → List Text → Prop where
  | last {part : Text} {here : List Text} (hFree : ',' ∉ part) (h : IsPart part here) :
      HasTokens part here
  | comma {part rest : Text} {here later : List Text} (hFree : ',' ∉ part) (h : IsPart part here)
      (hRest : HasTokens rest later) : HasTokens (part ++ ',' :: rest) (here ++ later)

inductive IsUnusable (resolver : Resolver) (allowLarge : Bool) (t : Text) : Prop where
  | blank (h : ∀ c ∈ t, Text.isBlank c = true)
  | refused {ts : List Text} {token : Text} (hTokens : HasTokens t ts) (hMem : token ∈ ts)
      (h : IsRefused allowLarge token)
  | nothing {ts : List Text} (hTokens : HasTokens t ts) (h : ∀ token ∈ ts, StandsFor resolver token [])

variable {resolver : Resolver} {allowLarge : Bool} {t part : Text} {ts : List Text}
  {addresses : List Address}

/-! ## Tokens -/

theorem isEmpty_trim_iff : t.trim.isEmpty = true ↔ ∀ c ∈ t, Text.isBlank c = true := by
  rw [List.isEmpty_iff]
  constructor
  · intro h c hc
    obtain ⟨left, right, hLeft, hRight, hText⟩ := Text.isSurrounded_trim t
    rw [hText, h, List.nil_append, List.mem_append] at hc
    exact hc.elim (hLeft c) (hRight c)
  · intro h
    have hSurrounded : Text.IsSurrounded [] t := ⟨t, [], h, by simp, by simp⟩
    exact hSurrounded.trim_eq

theorem isEmpty_trim_of_not_blank (h : ¬ ∀ c ∈ t, Text.isBlank c = true) :
    t.trim.isEmpty = false :=
  Bool.eq_false_iff.mpr fun hNone => h (isEmpty_trim_iff.mp hNone)

/-- The part without the blanks around it, unless nothing is left of it. -/
def partTokens (part : Text) : List Text := [part.trim].filter fun token => !token.isEmpty

theorem partTokens_of_blank (h : ∀ c ∈ part, Text.isBlank c = true) : partTokens part = [] := by
  rw [partTokens, List.filter_cons, isEmpty_trim_iff.mpr h]
  rfl

theorem partTokens_of_not_blank (h : ¬ ∀ c ∈ part, Text.isBlank c = true) :
    partTokens part = [part.trim] := by
  rw [partTokens, List.filter_cons, isEmpty_trim_of_not_blank h]
  rfl

theorem isPart_partTokens (part : Text) : IsPart part (partTokens part) := by
  by_cases hBlank : ∀ c ∈ part, Text.isBlank c = true
  · rw [partTokens_of_blank hBlank]
    exact .blank hBlank
  · rw [partTokens_of_not_blank hBlank]
    refine .token (Text.isTight_trim fun hNone => hBlank ?_) (Text.isSurrounded_trim part)
    exact isEmpty_trim_iff.mp (List.isEmpty_iff.mpr hNone)

theorem IsPart.eq (h : IsPart part ts) : partTokens part = ts := by
  cases h with
  | blank hBlank => exact partTokens_of_blank hBlank
  | token hTight hSurrounded =>
    have hTrim := hSurrounded.trim_eq.trans hTight.trim
    obtain ⟨c, rest, rfl, _⟩ := hTight.first
    rw [partTokens, hTrim]
    rfl

theorem tokens_of_free (h : ',' ∉ part) : tokens part = partTokens part := by
  rw [tokens, Text.commaParts, List.splitOn_eq_singleton h]
  rfl

theorem tokens_append_comma (h : ',' ∉ part) (rest : Text) :
    tokens (part ++ ',' :: rest) = partTokens part ++ tokens rest := by
  rw [tokens, Text.commaParts, List.splitOn_append_cons_self_of_not_mem h, List.map_cons,
    ← List.singleton_append, List.filter_append]
  rfl

/-- Every text is a list, and of one list of tokens alone. -/
theorem hasTokens_iff : HasTokens t ts ↔ tokens t = ts := by
  constructor
  · intro h
    induction h with
    | last hFree hPart => rw [tokens_of_free hFree, hPart.eq]
    | comma hFree hPart _ ih => rw [tokens_append_comma hFree, hPart.eq, ih]
  · rintro rfl
    induction hLength : t.length using Nat.strong_induction_on generalizing t with
    | _ n ih =>
      by_cases hComma : ',' ∈ t
      · obtain ⟨part, rest, rfl, hFree⟩ := List.eq_append_cons_of_mem hComma
        rw [tokens_append_comma hFree]
        refine .comma hFree (isPart_partTokens part) (ih rest.length ?_ rfl)
        rw [← hLength, List.length_append, List.length_cons]
        omega
      · rw [tokens_of_free hComma]
        exact .last hComma (isPart_partTokens t)

/-! ## Parts -/

theorem mapM_ofToken_eq_ok_iff {parts : List (List Address)} :
    ts.mapM (ofToken resolver allowLarge) = .ok parts ↔
      List.Forall₂ (StandsFor resolver) ts parts ∧ ∀ token ∈ ts, ¬ IsRefused allowLarge token := by
  simp only [mapM_eq_ok_iff, ofToken_eq_ok_iff]
  induction ts generalizing parts with
  | nil => simp
  | cons token ts ih =>
    simp only [List.forall₂_cons_left_iff, List.forall_mem_cons, ih]
    constructor
    · rintro ⟨part, rest, ⟨hPart, hToken⟩, ⟨hRest, hTokens⟩, rfl⟩
      exact ⟨⟨part, rest, hPart, hRest, rfl⟩, hToken, hTokens⟩
    · rintro ⟨⟨part, rest, hPart, hRest, rfl⟩, hToken, hTokens⟩
      exact ⟨part, rest, ⟨hPart, hToken⟩, ⟨hRest, hTokens⟩, rfl⟩

theorem flatten_eq_nil_iff {parts : List (List Address)}
    (h : List.Forall₂ (StandsFor resolver) ts parts) :
    parts.flatten = [] ↔ ∀ token ∈ ts, StandsFor resolver token [] := by
  induction h with
  | nil => simp
  | @cons token part ts parts hPart _ ih =>
    rw [List.flatten_cons, List.append_eq_nil_iff, ih, List.forall_mem_cons]
    refine and_congr_left fun _ => ⟨?_, hPart.eq⟩
    rintro rfl
    exact hPart

theorem expand_of_parts {parts : List (List Address)} (hSome : ¬ ∀ c ∈ t, Text.isBlank c = true)
    (hParts : (tokens t).mapM (ofToken resolver allowLarge) = .ok parts) :
    expand resolver allowLarge t =
      if parts.flatten = [] then .error .nothingFound else .ok (unique parts.flatten) := by
  have hEmpty : (unique parts.flatten).isEmpty = true ↔ parts.flatten = [] := by
    rw [List.isEmpty_iff, unique_eq_nil_iff]
  unfold expand
  rw [isEmpty_trim_of_not_blank hSome, hParts]
  by_cases h : parts.flatten = []
  · rw [if_pos h]
    exact if_pos (hEmpty.mpr h)
  · rw [if_neg h]
    exact if_neg fun hNone => h (hEmpty.mp hNone)

theorem exists_parts_of_expand (h : expand resolver allowLarge t = .ok addresses) :
    (¬ ∀ c ∈ t, Text.isBlank c = true) ∧
      ∃ parts, (tokens t).mapM (ofToken resolver allowLarge) = .ok parts := by
  rw [← isEmpty_trim_iff]
  unfold expand at h
  cases hTrim : t.trim.isEmpty with
  | true =>
    rw [hTrim] at h
    cases h
  | false =>
    rw [hTrim] at h
    obtain ⟨parts, hParts, _⟩ := exists_of_bind_eq_ok h
    exact ⟨Bool.false_ne_true, parts, hParts⟩

theorem expand_eq_ok_iff : expand resolver allowLarge t = .ok addresses ↔
    ¬ IsUnusable resolver allowLarge t ∧ ∃ parts, List.Forall₂ (StandsFor resolver) (tokens t) parts ∧
      FirstSeen parts.flatten addresses := by
  constructor
  · intro h
    obtain ⟨hSome, parts, hParts⟩ := exists_parts_of_expand h
    obtain ⟨hStand, hAllowed⟩ := mapM_ofToken_eq_ok_iff.mp hParts
    rw [expand_of_parts hSome hParts] at h
    split at h
    · cases h
    · rename_i hFound
      refine ⟨?_, parts, hStand, unique_eq_iff.mp (Except.ok.inj h)⟩
      rintro (hBlank | ⟨hTokens, hMem, hRefused⟩ | ⟨hTokens, hNothing⟩)
      · exact hSome hBlank
      · cases hasTokens_iff.mp hTokens
        exact hAllowed _ hMem hRefused
      · cases hasTokens_iff.mp hTokens
        exact hFound ((flatten_eq_nil_iff hStand).mpr hNothing)
  · rintro ⟨hUsable, parts, hStand, hSeen⟩
    have hTokens : HasTokens t (tokens t) := hasTokens_iff.mpr rfl
    have hAllowed : ∀ token ∈ tokens t, ¬ IsRefused allowLarge token :=
      fun token hMem h => hUsable (.refused hTokens hMem h)
    have hParts := mapM_ofToken_eq_ok_iff.mpr ⟨hStand, hAllowed⟩
    rw [expand_of_parts (fun h => hUsable (.blank h)) hParts, if_neg, unique_eq_iff.mpr hSeen]
    exact fun hEmpty => hUsable (.nothing hTokens ((flatten_eq_nil_iff hStand).mp hEmpty))

theorem exists_expand_eq_ok (h : ¬ IsUnusable resolver allowLarge t) :
    ∃ addresses, expand resolver allowLarge t = .ok addresses := by
  have hTokens : ∀ token ∈ tokens t, ∃ addresses, ofToken resolver allowLarge token = .ok addresses :=
    fun token hMem => exists_ofToken_eq_ok resolver fun hRefused =>
      h (.refused (hasTokens_iff.mpr rfl) hMem hRefused)
  obtain ⟨parts, hParts⟩ := exists_mapM_eq_ok_iff.mpr hTokens
  have hStand := (mapM_ofToken_eq_ok_iff.mp hParts).1
  exact ⟨_, expand_eq_ok_iff.mpr ⟨h, parts, hStand, firstSeen_unique parts.flatten⟩⟩

/-- A list is refused exactly when it is unusable. Any other one has the addresses that its tokens
stand for, each once and where it is seen first. -/
theorem expand_keeps_first_occurrences (resolver : Resolver) (allowLarge : Bool) (t : Text) :
    ((∃ fault, expand resolver allowLarge t = .error fault) ↔ IsUnusable resolver allowLarge t) ∧
      ∀ addresses, expand resolver allowLarge t = .ok addresses ↔
        ¬ IsUnusable resolver allowLarge t ∧ addresses.Nodup ∧
          ∃ ts parts, HasTokens t ts ∧ List.Forall₂ (StandsFor resolver) ts parts ∧
            FirstSeen parts.flatten addresses := by
  constructor
  · constructor
    · rintro ⟨fault, hFault⟩
      by_contra hUsable
      obtain ⟨addresses, hOk⟩ := exists_expand_eq_ok hUsable
      rw [hFault] at hOk
      cases hOk
    · intro hUnusable
      cases hResult : expand resolver allowLarge t with
      | error fault => exact ⟨fault, rfl⟩
      | ok addresses => exact absurd hUnusable (expand_eq_ok_iff.mp hResult).1
  · intro addresses
    rw [expand_eq_ok_iff]
    constructor
    · rintro ⟨hUsable, parts, hStand, hSeen⟩
      exact ⟨hUsable, hSeen.nodup, tokens t, parts, hasTokens_iff.mpr rfl, hStand, hSeen⟩
    · rintro ⟨hUsable, _, ts, parts, hTokens, hStand, hSeen⟩
      cases hasTokens_iff.mp hTokens
      exact ⟨hUsable, parts, hStand, hSeen⟩

/-- A resolver that knows one host, by an address of either version. -/
def knowingGateway : Resolver := fun name =>
  if name = "gateway".toList then .ok [⟨.v4 0x0A000004, 0⟩, ⟨.v6 1, 0⟩] else .error .unansweredName

/-- A block, a range that begins inside it, hosts, and an address that the block has. -/
def overlappingTargets : Text :=
  "10.0.0.0/30, 10.0.0.2 - 10.0.0.4\t,,gateway, nowhere ,10.0.0.1".toList

theorem expand_keeps_first_occurrences_of_overlapping :
    expand knowingGateway false overlappingTargets =
        .ok [.v4 0x0A000001, .v4 0x0A000002, .v4 0x0A000003, .v4 0x0A000004, .v6 1] ∧
      (∃ fault, expand knowingGateway false "10.0.0.1,10.0.0.0/19".toList = .error fault) ∧
      ∃ fault, expand knowingGateway true "10.0.0.1-10.0.16.1,10.0.0.1".toList = .error fault := by
  refine ⟨?_, ?_, ?_⟩
  · have hTokens : HasTokens overlappingTargets ["10.0.0.0/30".toList, "10.0.0.2 - 10.0.0.4".toList,
        "gateway".toList, "nowhere".toList, "10.0.0.1".toList] := hasTokens_iff.mpr rfl
    have hParts : (tokens overlappingTargets).mapM (ofToken knowingGateway false) =
        .ok [[.v4 0x0A000001, .v4 0x0A000002], [.v4 0x0A000002, .v4 0x0A000003, .v4 0x0A000004],
          [.v4 0x0A000004, .v6 1], [], [.v4 0x0A000001]] := rfl
    obtain ⟨hStand, hAllowed⟩ := mapM_ofToken_eq_ok_iff.mp hParts
    refine ((expand_keeps_first_occurrences _ _ _).2 _).mpr
      ⟨?_, by decide, _, _, hTokens, hStand, fun a => ?_, by decide⟩
    · rintro (hBlank | ⟨hOthers, hMem, hRefused⟩ | ⟨hOthers, hNothing⟩)
      · cases hBlank '1' List.mem_cons_self
      · cases hasTokens_iff.mp hOthers
        exact hAllowed _ hMem hRefused
      · cases hasTokens_iff.mp hOthers
        cases (flatten_eq_nil_iff hStand).mpr hNothing
    · simp only [List.flatten_cons, List.flatten_nil, List.mem_append, List.mem_cons,
        List.not_mem_nil]
      tauto
  · refine (expand_keeps_first_occurrences _ _ _).1.mpr (.refused (hasTokens_iff.mpr rfl)
      (List.mem_cons_of_mem _ List.mem_cons_self) ?_)
    exact .largeBlock (b := .v4 0x0A000000 19) rfl (by decide) rfl
  · refine (expand_keeps_first_occurrences _ _ _).1.mpr (.refused (hasTokens_iff.mpr rfl)
      List.mem_cons_self ?_)
    exact .longRange ⟨"10.0.0.1".toList, by decide, rfl, rfl⟩ rfl (by decide)

end ServiceProbe.Expansion
