import Mathlib.Data.List.Induction
import ServiceProbe.Proofs.Pattern.Groups
import ServiceProbe.Proofs.Rule.Grammar
import ServiceProbe.Proofs.Template.Rendering

/-! # Filled fingers

The finger of a match holds for each field the last text that is not empty among those its templates
come to, and all of them for the platform names. A field without such a text is left out. -/

namespace ServiceProbe
set_option autoImplicit false

namespace VersionInfo

/-- Each field of a line with what its template comes to. -/
def Renders (groups : Nat → Option Bytes) (fields : VersionInfo) (rendered : List (Field × Text)) :
    Prop :=
  List.Forall₂ (fun entry done => done.1 = entry.1 ∧ entry.2.Renders groups done.2) fields rendered

/-- What a field comes to wherever that is not empty, in the order of the line. -/
def shown (rendered : List (Field × Text)) (field : Field) : List String :=
  (rendered.filter fun done => done.1 == field && !done.2.isEmpty).map fun done =>
    String.ofList done.2

variable {groups : Nat → Option Bytes} {fields : VersionInfo} {rendered : List (Field × Text)}

theorem renders_iff : fields.Renders groups rendered ↔
    fields.map (fun entry => (entry.1, entry.2.render groups)) = rendered := by
  refine Template.forall₂_iff_map_eq (fun entry done => ?_) fields rendered
  obtain ⟨field, t⟩ := done
  rw [Template.renders_iff, Prod.mk.injEq, eq_comm]

theorem shown_concat (rendered : List (Field × Text)) (field other : Field) (t : Text) :
    shown (rendered ++ [(field, t)]) other =
      if field = other ∧ t ≠ [] then shown rendered other ++ [String.ofList t]
      else shown rendered other := by
  by_cases h : field = other ∧ t ≠ []
  · simp [shown, h]
  · simp [shown, h]

theorem not_mem_shown (rendered : List (Field × Text)) (field : Field) :
    "" ∉ shown rendered field := by
  intro hIn
  obtain ⟨⟨other, t⟩, hDone, hEmpty⟩ := List.mem_map.mp hIn
  have hText : other = field ∧ t ≠ [] := by simpa using (List.mem_filter.mp hDone).2
  exact hText.2 (String.ofList_eq_empty_iff.mp hEmpty)

end VersionInfo

/-- The finger with the last text for each field, and all of them for the platform names. -/
def Finger.showing (f : Finger) (texts : Field → List String) : Finger where
  probe := f.probe
  service := f.service
  product := (texts .product).getLast?
  version := (texts .version).getLast?
  info := (texts .info).getLast?
  hostname := (texts .hostname).getLast?
  os := (texts .os).getLast?
  deviceType := (texts .deviceType).getLast?
  cpe := texts .cpe
  soft := f.soft

variable {groups : Nat → Option Bytes} {fields : VersionInfo} {f : Finger}

theorem Field.put_showing (field : Field) (value : String) (f : Finger)
    (texts : Field → List String) : field.put value (f.showing texts) =
      f.showing fun other => if field = other then texts other ++ [value] else texts other := by
  cases field <;> simp [put, Finger.showing]

namespace VersionInfo

theorem fill_concat (fields : VersionInfo) (field : Field) (template : Template) (f : Finger) :
    fill groups (fields ++ [(field, template)]) f =
      if (template.render groups).isEmpty then fill groups fields f
      else field.put (String.ofList (template.render groups)) (fill groups fields f) := by
  rw [fill, List.foldl_append]
  rfl

theorem fill_eq_showing (hBlank : f.showing (fun _ => []) = f) (fields : VersionInfo) :
    fields.fill groups f =
      f.showing (shown (fields.map fun entry => (entry.1, entry.2.render groups))) := by
  -- the last field of the line puts in one value at most, and only into its own place
  induction fields using List.reverseRecOn with
  | nil => exact hBlank.symm
  | append_singleton fields entry ih =>
    obtain ⟨field, template⟩ := entry
    have hShown := shown_concat (fields.map fun entry => (entry.1, entry.2.render groups)) field
    rw [fill_concat, List.map_append, ih]
    split
    · rename_i hEmpty
      congr 1
      funext other
      rw [List.map_singleton, hShown, if_neg]
      exact fun h => h.2 (List.isEmpty_iff.mp hEmpty)
    · rename_i hText
      rw [Field.put_showing]
      congr 1
      funext other
      rw [List.map_singleton, hShown]
      have hNonempty : template.render groups ≠ [] := by simpa using hText
      simp only [hNonempty, ne_eq, not_false_eq_true, and_true]

end VersionInfo

namespace Rule

variable {line : Text} {rule : Rule} {reply : Bytes} {captures : Pattern.Captures}

/-- The finger of a match, by what the templates of the rule come to. -/
theorem finger?_of_captures (probe : String) (hRule : compile line = .ok rule)
    (hMatch : rule.pattern.captures? reply = some captures) :
    (∃ rendered, rule.fields.Renders captures.group? rendered ∧
      (∀ rendered', rule.fields.Renders captures.group? rendered' → rendered' = rendered) ∧
      (∀ field, "" ∉ VersionInfo.shown rendered field) ∧
      rule.finger? probe reply = some {
        probe := probe
        service := rule.service
        soft := decide (rule.kind = .soft)
        product := (VersionInfo.shown rendered .product).getLast?
        version := (VersionInfo.shown rendered .version).getLast?
        info := (VersionInfo.shown rendered .info).getLast?
        hostname := (VersionInfo.shown rendered .hostname).getLast?
        os := (VersionInfo.shown rendered .os).getLast?
        deviceType := (VersionInfo.shown rendered .deviceType).getLast?
        cpe := VersionInfo.shown rendered .cpe }) ∧
    ∀ e n, Pattern.expr? rule.pattern.text rule.pattern.flags = some e → n ≠ 0 → n ∉ e.groups →
      captures.group? n = none := by
  constructor
  · refine ⟨_, VersionInfo.renders_iff.mpr rfl, fun _ h => (VersionInfo.renders_iff.mp h).symm,
      VersionInfo.not_mem_shown _, ?_⟩
    rw [finger?, hMatch, Option.map_some, VersionInfo.fill_eq_showing rfl]
    rfl
  · intro e n hExpr hn hNone
    obtain ⟨_, _, _, _, hCompiled, _⟩ := exists_isComposed_of_compile hRule
    rw [← (parts_of_compile? hCompiled).1] at hCompiled
    exact Pattern.group?_eq_none hExpr hCompiled hMatch hn hNone

/-- The second group takes no part in the match, and there is no ninth. -/
theorem finger?_of_captures_without_group :
    let line := "softmatch x m|a(b)(c)?| p/$1/ p/$2/ v/$I(1,\">\")$9/ cpe:/$1/ cpe:/$2/".toList
    let found : Finger :=
      { probe := "P", service := "x", product := some "b", version := some "98", cpe := ["b"],
        soft := true }
    ∃ rule captures rendered, compile line = .ok rule ∧
      rule.pattern.captures? [0x61, 0x62] = some captures ∧
      rule.fields.Renders captures.group? rendered ∧
      rule.finger? "P" [0x61, 0x62] = some found := by
  intro line found
  have hFound : (compile line).toOption.bind (fun rule => rule.finger? "P" [0x61, 0x62]) =
      some found := by decide +kernel
  cases hRule : compile line with
  | error fault =>
    rw [hRule] at hFound
    cases hFound
  | ok rule =>
    rw [hRule] at hFound
    obtain ⟨captures, hMatch, _⟩ := Option.map_eq_some_iff.mp hFound
    obtain ⟨⟨rendered, hRendered, _⟩, _⟩ := finger?_of_captures "P" hRule hMatch
    exact ⟨rule, captures, rendered, rfl, hMatch, hRendered, hFound⟩

end Rule
end ServiceProbe
