import ServiceProbe.Proofs.Json.Numbers
import ServiceProbe.Proofs.Json.Tokens

/-! # Compact documents read back

A form takes what is printed in compact form, part by part: a part is read in front of whatever may
follow it. Members of an object may stand in any order, and what is missing is filled in at the end. -/

namespace ServiceProbe
set_option autoImplicit false

namespace Json

/-- Neither nothing nor a binary number. -/
def IsSolid : Json → Prop
  | null | binary _ => False
  | _ => True

theorem exists_head_of_isSolid {j : Json} (h : j.IsSolid) :
    ∃ c t, j.compact = c :: t ∧ JsonReader.isGap c = false ∧ c ≠ 'n' ∧ c ≠ ']' := by
  cases j with
  | null => exact h.elim
  | binary value => exact h.elim
  | bool value => cases value <;> exact ⟨_, _, rfl, by decide⟩
  | string value => exact ⟨'"', _, rfl, by decide⟩
  | array items =>
    cases items with
    | nil => exact ⟨'[', _, by rw [compact], by decide⟩
    | cons item items => exact ⟨'[', _, by rw [compact]; rfl, by decide⟩
  | object members =>
    cases members with
    | nil => exact ⟨'\x7b', _, by rw [compact], by decide⟩
    | cons member members => exact ⟨'\x7b', _, by rw [compact]; rfl, by decide⟩
  | natural value =>
    obtain ⟨c, t, hText, hDigit⟩ := JsonReader.exists_head_ofNat value
    refine ⟨c, t, by rw [compact, hText], JsonReader.isGap_of_isDigit hDigit, ?_, ?_⟩
    · rintro rfl
      exact absurd hDigit (by decide)
    · rintro rfl
      exact absurd hDigit (by decide)

theorem length_lt_compactItems (items : List Json) : items.length < (compactItems items).length := by
  induction items with
  | nil => decide
  | cons item items ih =>
    simp only [compactItems, List.length_cons, List.length_append]
    omega

theorem length_lt_compactMembers (members : List (String × Json)) :
    members.length < (compactMembers members).length := by
  induction members with
  | nil => decide
  | cons member members ih =>
    simp only [compactMembers, List.length_cons, List.length_append]
    omega

end Json

namespace Form

open JsonReader

/-- The compact text of a document is taken for a value, whatever may follow it. -/
def Takes (form : Form) (j value : Json) : Prop :=
  ∀ rest, Ends rest → form (j.compact ++ rest) = .ok (value, rest)

variable {form : Form} {frame : Frame} {j value : Json} {c : Char} {t rest : Text} {count : Nat}

theorem ends_compactItems (items : List Json) (rest : Text) :
    Ends (Json.compactItems items ++ rest) := by
  intro c hc
  cases items <;> cases hc <;> simp

theorem ends_compactMembers (members : List (String × Json)) (rest : Text) :
    Ends (Json.compactMembers members ++ rest) := by
  intro c hc
  cases members <;> cases hc <;> simp

/-! ## Values without parts -/

theorem takes_string (s : String) : Takes string (.string s) (.string s) := by
  intro rest _
  rw [Json.compact, quote_append, string, bind_of_ok (peek_cons rfl _), if_pos rfl, bind_of_ok (drop_cons _ _),
    bind_of_ok (stringTail_quoted s rest)]
  rfl

theorem takes_bool (b : Bool) : Takes bool (.bool b) (.bool b) := by
  intro rest _
  cases b <;> rfl

theorem takes_natural {limit n : Nat} (h : n ≤ limit) (hLimit : limit < UInt64.size) :
    Takes (natural limit) (.natural n) (.natural n) := by
  intro rest hEnds
  obtain ⟨c, t, hText, hDigit⟩ := exists_head_ofNat n
  have hPeek : peek (Text.ofNat n ++ rest) = .ok (c, Text.ofNat n ++ rest) := by
    rw [hText]
    exact peek_cons (isGap_of_isDigit hDigit) _
  have hNumber : (c = '-' || c.isDigit) = true := by rw [hDigit, Bool.or_true]
  rw [Json.compact, natural, bind_of_ok hPeek, if_pos hNumber,
    bind_of_ok (numeral_ofNat hEnds (Nat.lt_of_le_of_lt h hLimit))]
  simp only [if_pos h]
  rfl

theorem takes_option_null (form : Form) : Takes (option form) .null .null := fun _ _ => rfl

theorem takes_option (h : Takes form j value) (hSolid : j.IsSolid) : Takes (option form) j value := by
  intro rest hEnds
  obtain ⟨c, t, hText, hGap, hNull, -⟩ := Json.exists_head_of_isSolid hSolid
  have hPeek : peek? (j.compact ++ rest) = .ok (some c, j.compact ++ rest) := by
    rw [hText]
    exact peek?_cons hGap _
  have hOther : ¬ some c = some 'n' := fun hc => hNull (Option.some.inj hc)
  rw [option, bind_of_ok hPeek, if_neg hOther]
  exact h rest hEnds

/-! ## Going on and closing -/

theorem isGap_closer (frame : Frame) : isGap frame.closer = false := by
  cases frame <;> decide

theorem goesOn_closer (frame : Frame) (count : Nat) (t : Text) :
    goesOn frame count (frame.closer :: t) = .ok (false, frame.closer :: t) := by
  rw [goesOn, bind_of_ok (peek_cons (isGap_closer frame) t), if_pos rfl]
  rfl

theorem goesOn_first (frame : Frame) (hGap : isGap c = false) (hOpen : c ≠ frame.closer) (t : Text) :
    goesOn frame 0 (c :: t) = .ok (true, c :: t) := by
  rw [goesOn, bind_of_ok (peek_cons hGap t), if_neg hOpen]
  rfl

theorem goesOn_comma (frame : Frame) (hGap : isGap c = false) (hOpen : c ≠ frame.closer)
    (count : Nat) (t : Text) :
    goesOn frame (count + 1) (',' :: c :: t) = .ok (true, c :: t) := by
  have hComma : ',' ≠ frame.closer := by cases frame <;> decide
  rw [goesOn, bind_of_ok (peek_cons rfl (c :: t)), if_neg hComma, if_neg (Nat.succ_ne_zero count),
    if_pos rfl, bind_of_ok (drop_cons _ _), bind_of_ok (peek_cons hGap t), if_neg hOpen]
  rfl

theorem close_closer (frame : Frame) (rest : Text) :
    close frame (frame.closer :: rest) = .ok ((), rest) := by
  rw [close, bind_of_ok (peek_cons (isGap_closer frame) rest), if_pos rfl]
  rfl

/-! ## Arrays -/

theorem items_step {fuel : Nat} {items values : List Json} (hItem : Takes form j value)
    (hGoesOn : goesOn .array count t = .ok (true, j.compact ++ (Json.compactItems items ++ rest)))
    (hItems : Form.items form fuel (count + 1) (Json.compactItems items ++ rest) =
      .ok (values, ']' :: rest)) :
    Form.items form (fuel + 1) count t = .ok (value :: values, ']' :: rest) := by
  rw [Form.items, bind_of_ok hGoesOn, if_pos rfl,
    bind_of_ok (hItem _ (ends_compactItems items rest)), bind_of_ok hItems]
  rfl

theorem items_compactItems {items values : List Json} (h : List.Forall₂ (Takes form) items values)
    (hSolid : ∀ item ∈ items, item.IsSolid) {fuel : Nat} (hFuel : items.length < fuel) (count : Nat) :
    Form.items form fuel (count + 1) (Json.compactItems items ++ rest) = .ok (values, ']' :: rest) := by
  induction h generalizing fuel count with
  | nil =>
    obtain _ | fuel := fuel
    · exact absurd hFuel (Nat.not_lt_zero _)
    · rw [Form.items]
      exact bind_of_ok (goesOn_closer .array (count + 1) rest) _
  | @cons item value items values hItem _ ih =>
    obtain _ | fuel := fuel
    · exact absurd hFuel (Nat.not_lt_zero _)
    · obtain ⟨c, t, hText, hGap, -, hOpen⟩ :=
        Json.exists_head_of_isSolid (hSolid item List.mem_cons_self)
      refine items_step hItem ?_ (ih (fun _ h => hSolid _ (List.mem_cons_of_mem _ h))
        (Nat.lt_of_succ_lt_succ hFuel) (count + 1))
      rw [Json.compactItems, hText]
      simpa only [List.cons_append, List.append_assoc] using
        goesOn_comma .array hGap hOpen count _

theorem takes_list {items values : List Json} (h : List.Forall₂ (Takes form) items values)
    (hSolid : ∀ item ∈ items, item.IsSolid) : Takes (list form) (.array items) (.array values) := by
  intro rest _
  cases h with
  | nil => rfl
  | @cons item value items values hItem hItems =>
    obtain ⟨c, t, hText, hGap, -, hOpen⟩ :=
      Json.exists_head_of_isSolid (hSolid item List.mem_cons_self)
    have hInside : (Json.array (item :: items)).compact ++ rest =
        '[' :: (item.compact ++ (Json.compactItems items ++ rest)) := by
      rw [Json.compact, List.cons_append, List.cons_append, List.append_assoc]
    -- each item takes at least one of the characters that were counted out for the loop
    have hLength := Json.length_lt_compactItems items
    have hFound : Form.items form ((item.compact ++ (Json.compactItems items ++ rest)).length + 1) 0
        (item.compact ++ (Json.compactItems items ++ rest)) = .ok (value :: values, ']' :: rest) := by
      refine items_step hItem ?_ (items_compactItems hItems
        (fun _ h => hSolid _ (List.mem_cons_of_mem _ h)) ?_ 0)
      · rw [hText]
        exact goesOn_first .array hGap hOpen _
      · simp only [List.length_append]
        omega
    rw [hInside, list, bind_of_ok (peek_cons rfl _), if_pos rfl, bind_of_ok (drop_cons _ _),
      bind_of_ok (get_eq _), bind_of_ok hFound]
    exact bind_of_ok (close_closer .array rest) _

/-! ## Objects -/

/-- What the members of an object are taken for, one by one. -/
inductive Reads (ms : List Member) : List (String × Json) → List (String × Json) → Prop
  | nil : Reads ms [] []
  | cons {key : String} {m : Member} {j value : Json} {members entries : List (String × Json)}
      (hFind : ms.find? (fun m => m.name = key) = some m) (hTakes : Takes m.form j value)
      (hMore : Reads ms members entries) : Reads ms ((key, j) :: members) ((key, value) :: entries)

variable {closed : Bool} {ms : List Member} {members entries found : List (String × Json)}

theorem key_quote (s : String) (rest : Text) : key (Json.quote s ++ rest) = .ok (s, rest) := by
  rw [quote_append, key, bind_of_ok (peek_cons rfl _), if_pos rfl, bind_of_ok (drop_cons _ _)]
  exact stringTail_quoted s rest

theorem membersFound_step {name : String} {m : Member} {fuel : Nat}
    (hFind : ms.find? (fun m => m.name = name) = some m) (hTakes : Takes m.form j value)
    (hNew : found.lookup name = none) (hEnds : Ends rest)
    (hGoesOn : goesOn .object count t = .ok (true, Json.quote name ++ ':' :: (j.compact ++ rest))) :
    membersFound closed ms (fuel + 1) count found t =
      membersFound closed ms fuel (count + 1) ((name, value) :: found) rest := by
  have hColon : colon (':' :: (j.compact ++ rest)) = .ok ((), j.compact ++ rest) := by
    rw [colon, bind_of_ok (peek_cons rfl _), if_pos rfl]
    rfl
  rw [membersFound, bind_of_ok hGoesOn, if_pos rfl, bind_of_ok (key_quote name _), hFind, hNew]
  change (colon >>= _) _ = _
  rw [bind_of_ok hColon, bind_of_ok (hTakes rest hEnds)]

theorem lookup_cons_of_nodup {name : String} {keys : List String} (hKeys : (name :: keys).Nodup)
    (hNew : ∀ k ∈ name :: keys, found.lookup k = none) :
    ∀ k ∈ keys, ((name, value) :: found).lookup k = none := by
  intro k hk
  have hOther : k ≠ name := fun hSame => (List.nodup_cons.mp hKeys).1 (hSame ▸ hk)
  rw [List.lookup_cons, beq_false_of_ne hOther]
  exact hNew k (List.mem_cons_of_mem _ hk)

theorem membersFound_compactMembers (h : Reads ms members entries)
    (hKeys : (members.map Prod.fst).Nodup) (hNew : ∀ k ∈ members.map Prod.fst, found.lookup k = none)
    {fuel : Nat} (hFuel : members.length < fuel) (count : Nat) :
    membersFound closed ms fuel (count + 1) found (Json.compactMembers members ++ rest) =
      .ok (entries.reverse ++ found, '\x7d' :: rest) := by
  -- over what the members are read as; none of the keys that are left is among those found
  induction h generalizing fuel count found with
  | nil =>
    obtain _ | fuel := fuel
    · exact absurd hFuel (Nat.not_lt_zero _)
    · rw [membersFound]
      exact bind_of_ok (goesOn_closer .object (count + 1) rest) _
  | @cons name m j value members entries hFind hTakes _ ih =>
    obtain _ | fuel := fuel
    · exact absurd hFuel (Nat.not_lt_zero _)
    · have hGoesOn : goesOn .object (count + 1)
          (Json.compactMembers ((name, j) :: members) ++ rest) =
          .ok (true,
            Json.quote name ++ ':' :: (j.compact ++ (Json.compactMembers members ++ rest))) := by
        have hComma := goesOn_comma .object (c := '"') rfl (by decide) count
          (name.toList.flatMap Json.escape ++
            '"' :: ':' :: (j.compact ++ (Json.compactMembers members ++ rest)))
        simpa only [Json.compactMembers, Json.quote, List.cons_append, List.append_assoc,
          List.nil_append] using hComma
      rw [membersFound_step hFind hTakes (hNew name List.mem_cons_self)
        (ends_compactMembers members rest) hGoesOn,
        ih (List.nodup_cons.mp hKeys).2 (lookup_cons_of_nodup hKeys hNew)
          (Nat.lt_of_succ_lt_succ hFuel) (count + 1)]
      simp

theorem membersFound_compact (closed : Bool) (h : Reads ms members entries)
    (hKeys : (members.map Prod.fst).Nodup) (rest : Text) :
    ∃ inside, (Json.object members).compact ++ rest = '\x7b' :: inside ∧
      membersFound closed ms (inside.length + 1) 0 [] inside =
        .ok (entries.reverse, '\x7d' :: rest) := by
  cases h with
  | nil =>
    refine ⟨'\x7d' :: rest, by rw [Json.compact]; rfl, ?_⟩
    rw [membersFound]
    exact bind_of_ok (goesOn_closer .object 0 rest) _
  | @cons name m j value members entries hFind hTakes hMore =>
    have hLength := Json.length_lt_compactMembers members
    refine ⟨Json.quote name ++ ':' :: (j.compact ++ (Json.compactMembers members ++ rest)), ?_, ?_⟩
    · simp only [Json.compact, List.cons_append, List.append_assoc]
    · have hGoesOn : goesOn .object 0
          (Json.quote name ++ ':' :: (j.compact ++ (Json.compactMembers members ++ rest))) =
          .ok (true, Json.quote name ++ ':' :: (j.compact ++ (Json.compactMembers members ++ rest))) :=
        goesOn_first .object (c := '"') rfl (by decide) _
      rw [membersFound_step hFind hTakes List.lookup_nil (ends_compactMembers members rest) hGoesOn,
        membersFound_compactMembers hMore (List.nodup_cons.mp hKeys).2
          (lookup_cons_of_nodup hKeys fun _ _ => List.lookup_nil) _ 0, List.reverse_cons]
      simp only [List.length_append, List.length_cons]
      omega

theorem takes_struct {values : List (String × Json)}
    {settle : List (String × Json) → Option (List (String × Json))}
    (hKeys : (members.map Prod.fst).Nodup) (h : Reads ms members entries)
    (hValues : (arrange ms entries.reverse).bind settle = some values) :
    Takes (structWith closed ms settle) (.object members) (.object values) := by
  intro rest _
  obtain ⟨inside, hText, hFound⟩ := membersFound_compact closed h hKeys rest
  rw [hText, structWith, bind_of_ok (peek_cons rfl _)]
  change (drop >>= _) _ = _
  rw [bind_of_ok (drop_cons _ _), bind_of_ok (get_eq _), bind_of_ok hFound, hValues]
  have hSettled : orMismatch (some values) ('\x7d' :: rest) = .ok (values, '\x7d' :: rest) := rfl
  rw [bind_of_ok hSettled]
  exact bind_of_ok (close_closer .object rest) _

end Form
end ServiceProbe
