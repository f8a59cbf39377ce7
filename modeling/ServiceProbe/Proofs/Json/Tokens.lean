import Mathlib.Data.List.TakeWhile
import ServiceProbe.Json.Form
import ServiceProbe.Json.Printer
import ServiceProbe.Proofs.Text.Separated

/-! # Tokens read back

The strings, numbers and words of a compact document are read back in front of whatever may follow
a value: the end of the text, a comma, or the end of what the value is part of. -/

namespace ServiceProbe
set_option autoImplicit false

namespace JsonReader

variable {α β : Type} {t rest : Text} {c : Char}

theorem bind_of_ok {x : JsonReader α} {a : α} (h : x t = .ok (a, rest)) (f : α → JsonReader β) :
    (x >>= f) t = f a rest := by
  simp only [bind, StateT.bind, h, Except.bind]

theorem peek?_cons (h : isGap c = false) (t : Text) : peek? (c :: t) = .ok (some c, c :: t) := by
  have hDrop : (c :: t).dropWhile isGap = c :: t := List.dropWhile_cons_of_neg (by simp [h])
  change Except.ok (((c :: t).dropWhile isGap).head?, (c :: t).dropWhile isGap) = _
  rw [hDrop]
  rfl

theorem peek_cons (h : isGap c = false) (t : Text) : peek (c :: t) = .ok (c, c :: t) := by
  rw [peek, bind_of_ok (peek?_cons h t)]
  rfl

theorem get_eq (t : Text) : (get : JsonReader Text) t = .ok (t, t) := rfl

theorem drop_cons (c : Char) (t : Text) : drop (c :: t) = .ok ((), t) := rfl

/-! ## Strings -/

theorem stringFrom_of_front {d : Char} {width : Nat} (hQuote : c ≠ '"')
    (h : front false (c :: t) = .ok (d, width)) : stringFrom false 0 (c :: t) =
      (stringFrom false (width - 1) t).map fun (s, after) => (d :: s, after) := by
  simp only [stringFrom, if_neg hQuote, h]

theorem front_simple {e : Char} (h : simpleEscape? e = some c) (t : Text) :
    front false ('\\' :: e :: t) = .ok (c, 2) := by
  unfold front
  split
  · rename_i hText
    cases hText
  · rename_i hText
    cases hText
  · rename_i hText
    cases hText
    cases h
  · rename_i hText
    cases hText
    rw [h]
    rfl
  · rename_i _ hLonger hText
    cases hText
    exact (hLonger _ _ rfl rfl).elim

theorem front_plain (hEscape : c ≠ '\\') (hControl : ¬ c.toNat < 0x20) (t : Text) :
    front false (c :: t) = .ok (c, 1) := by
  unfold front
  split <;> simp_all [pure, Except.pure]

theorem unit_control : ∀ n : Fin 32,
    unit ('0' :: '0' :: Json.hexDigits n) = .ok n.val := by
  decide +kernel

theorem front_control (h : c.toNat < 0x20) (t : Text) :
    front false ('\\' :: 'u' :: '0' :: '0' :: Json.hexDigits c.toNat ++ t) = .ok (c, 6) := by
  have hUnit : unit ('0' :: '0' :: (Json.hexDigits c.toNat ++ t)) = .ok c.toNat := unit_control ⟨_, h⟩
  have hLow : low? c.toNat = false := by
    simp only [low?, Bool.and_eq_false_iff, decide_eq_false_iff_not]
    omega
  have hHigh : high? c.toNat = false := by
    simp only [high?, Bool.and_eq_false_iff, decide_eq_false_iff_not]
    omega
  change numericEscape false ('0' :: '0' :: (Json.hexDigits c.toNat ++ t)) = _
  simp [numericEscape, hUnit, hLow, hHigh, bind, Except.bind, pure, Except.pure]

theorem escape_cases (c : Char) :
    (∃ e, Json.escape c = ['\\', e] ∧ simpleEscape? e = some c) ∨
      c.toNat < 0x20 ∧ Json.escape c = '\\' :: 'u' :: '0' :: '0' :: Json.hexDigits c.toNat ∨
      c ≠ '"' ∧ c ≠ '\\' ∧ ¬ c.toNat < 0x20 ∧ Json.escape c = [c] := by
  by_cases hNamed : c ∈ ['"', '\\', '\n', '\r', '\t', '\x08', '\x0c']
  · simp only [List.mem_cons, List.not_mem_nil, or_false] at hNamed
    rcases hNamed with rfl | rfl | rfl | rfl | rfl | rfl | rfl <;> exact .inl ⟨_, rfl, rfl⟩
  · simp only [List.mem_cons, List.not_mem_nil, or_false, not_or] at hNamed
    by_cases hControl : c.toNat < 0x20
    · exact .inr (.inl ⟨hControl, by simp [Json.escape, hNamed, hControl]⟩)
    · exact .inr (.inr ⟨hNamed.1, hNamed.2.1, hControl, by simp [Json.escape, hNamed, hControl]⟩)

theorem stringFrom_escape (c : Char) (t : Text) : stringFrom false 0 (Json.escape c ++ t) =
    (stringFrom false 0 t).map fun (s, after) => (c :: s, after) := by
  have hBackslash : '\\' ≠ '"' := by decide
  obtain ⟨e, hText, hSimple⟩ | ⟨hControl, hText⟩ | ⟨hQuote, hEscape, hControl, hText⟩ := escape_cases c
  · rw [hText]
    exact stringFrom_of_front hBackslash (front_simple hSimple t)
  · rw [hText]
    exact stringFrom_of_front hBackslash (front_control hControl t)
  · rw [hText]
    exact stringFrom_of_front hQuote (front_plain hEscape hControl t)

theorem stringFrom_quoted (s rest : Text) :
    stringFrom false 0 (s.flatMap Json.escape ++ '"' :: rest) = .ok (s, rest) := by
  induction s with
  | nil => rfl
  | cons c s ih =>
    rw [List.flatMap_cons, List.append_assoc, stringFrom_escape, ih]
    rfl

theorem quote_append (s : String) (rest : Text) :
    Json.quote s ++ rest = '"' :: (s.toList.flatMap Json.escape ++ '"' :: rest) := by
  simp [Json.quote]

theorem stringTail_quoted (s : String) (rest : Text) :
    stringTail false (s.toList.flatMap Json.escape ++ '"' :: rest) = .ok (s, rest) := by
  rw [stringTail, stringFrom_quoted]
  simp [Except.map]

end JsonReader
end ServiceProbe
