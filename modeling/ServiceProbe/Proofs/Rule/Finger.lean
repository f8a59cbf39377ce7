import ServiceProbe.Rule

/-! # Fingers of rules

A rule has a finger for exactly the replies that its pattern matches. The finger names the probe that
the rule was applied for, the service of the rule and its kind, whatever its fields come to. -/

namespace ServiceProbe
set_option autoImplicit false

theorem VersionInfo.fill_heading {groups : Nat → Option Bytes} (fields : VersionInfo) (f : Finger) :
    (fields.fill groups f).probe = f.probe ∧ (fields.fill groups f).service = f.service ∧
      (fields.fill groups f).soft = f.soft := by
  induction fields generalizing f with
  | nil => exact ⟨rfl, rfl, rfl⟩
  | cons entry fields ih =>
    obtain ⟨field, template⟩ := entry
    have hStep : fill groups ((field, template) :: fields) f = fill groups fields
        (if (template.render groups).isEmpty then f
          else field.put (String.ofList (template.render groups)) f) := rfl
    rw [hStep]
    split
    · exact ih f
    · obtain ⟨hProbe, hService, hSoft⟩ := ih (field.put (String.ofList (template.render groups)) f)
      rw [hProbe, hService, hSoft]
      cases field <;> exact ⟨rfl, rfl, rfl⟩

namespace Rule

variable {rule : Rule} {probe : String} {reply : Bytes} {f : Finger}

theorem heading_of_finger? (h : rule.finger? probe reply = some f) :
    f.probe = probe ∧ f.service = rule.service ∧ f.soft = (rule.kind == .soft) := by
  obtain ⟨captures, _, rfl⟩ := Option.map_eq_some_iff.mp h
  exact VersionInfo.fill_heading rule.fields (rule.blankFinger probe)

theorem isSome_finger? (rule : Rule) (probe : String) (reply : Bytes) :
    (rule.finger? probe reply).isSome = rule.isMatch reply :=
  Option.isSome_map

theorem finger?_eq_none_iff : rule.finger? probe reply = none ↔ rule.isMatch reply = false := by
  rw [← isSome_finger? rule probe reply, Option.isSome_eq_false_iff, Option.isNone_iff_eq_none]

end Rule
end ServiceProbe
