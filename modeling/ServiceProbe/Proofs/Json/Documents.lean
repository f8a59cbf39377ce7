import ServiceProbe.Document
import ServiceProbe.Proofs.Json.Structures
import ServiceProbe.Proofs.Text.Parts

/-! # Documents read back

What is written for a value is read as a document in normal form that stands for that value. For a
structure this is put together from its members; what is not written has to stand for the same value
as what is filled in for it. -/

namespace ServiceProbe
set_option autoImplicit false

theorem Duration.ofNanos?_toNanos (d : Duration) : ofNanos? d.toNanos = some d := by
  obtain ⟨secs, nanos, hNanos⟩ := d
  have hSecs := secs.toNat_lt
  have hWhole : (secs.toNat * 1000000000 + nanos) / 1000000000 = secs.toNat := by omega
  have hPart : (secs.toNat * 1000000000 + nanos) % 1000000000 = nanos := by omega
  simp only [ofNanos?, toNanos, hWhole, hPart]
  rw [if_pos (by simpa [UInt64.size] using hSecs)]
  simp [Fin.ofNat, Nat.mod_eq_of_lt hNanos]

namespace Document

open Form

variable {α β : Type} {form : Form} {of? : Json → Option β} {j : Json} {a : α} {b : β}

/-- What is printed for a document is read as one that stands for the value. -/
def Carries (form : Form) (of? : Json → Option β) (j : Json) (b : β) : Prop :=
  ∃ value, form.Takes j value ∧ of? value = some b

/-- Whatever a document writes is read back, and what was read from a text is read again from what is
then written, which is written again in the same way. -/
structure ReadsBack (d : Document α) : Prop where
  written : ∀ a, d.read (d.text a) = .ok a
  accepted : ∀ t a, d.read t = .ok a →
    ∃ b, d.read (d.text a) = .ok b ∧ b = a ∧ d.text b = d.text a

theorem readsBack_of_carries {d : Document α} (h : ∀ a, Carries d.form d.ofJson? (d.toJson a) a) :
    d.ReadsBack := by
  have hWritten : ∀ a, d.read (d.text a) = .ok a := by
    intro a
    obtain ⟨value, hTakes, hValue⟩ := h a
    have hForm : d.form (d.text a) = .ok (value, []) := by
      simpa [text] using hTakes [] nofun
    simp only [read, readAll, hForm, bind, Except.bind, List.all_nil, if_true, pure, Except.pure,
      hValue]
  exact ⟨hWritten, fun _ a _ => ⟨a, hWritten a, rfl, rfl⟩⟩

/-! ## Members -/

theorem carries_string (s : String) : Carries .string stringOf? (.string s) s :=
  ⟨_, takes_string s, rfl⟩

theorem carries_natural {limit n : Nat} (h : n ≤ limit) (hLimit : limit < UInt64.size) :
    Carries (.natural limit) naturalOf? (.natural n) n :=
  ⟨_, takes_natural h hLimit, rfl⟩

theorem carries_option {f : α → Json} {g : α → β} (h : ∀ a, Carries form of? (f a) (g a))
    (hSolid : ∀ a, (f a).IsSolid) (hNull : of? .null = none) (o : Option α) :
    Carries (.option form) (optionOf? of?) (.option f o) (o.map g) := by
  cases o with
  | none => exact ⟨.null, takes_option_null form, rfl⟩
  | some a =>
    obtain ⟨value, hTakes, hValue⟩ := h a
    refine ⟨value, takes_option hTakes (hSolid a), ?_⟩
    cases value with
    | null => rw [hNull] at hValue; cases hValue
    | _ => simp only [optionOf?, hValue, Option.map_some]

theorem carries_text (o : Option String) :
    Carries (.option .string) (optionOf? stringOf?) (.option .string o) o := by
  have h := carries_option (g := id) carries_string (fun _ => trivial) rfl o
  rwa [Option.map_id] at h

theorem takes_strings (values : List String) :
    Takes (.list .string) (Json.strings values) (Json.strings values) := by
  refine takes_list ?_ ?_
  · rw [List.forall₂_map_left_iff, List.forall₂_map_right_iff, List.forall₂_same]
    exact fun s _ => takes_string s
  · intro item hItem
    obtain ⟨s, -, rfl⟩ := List.mem_map.mp hItem
    trivial

theorem listOf?_strings (values : List String) :
    listOf? stringOf? (Json.strings values) = some values := by
  rw [Json.strings, listOf?, mapM_eq_some_iff, List.forall₂_map_left_iff, List.forall₂_same]
  exact fun _ _ => rfl

/-! ## Structures -/

theorem carries_duration (d : Duration) :
    Carries duration.form duration.ofJson? (duration.toJson d) d := by
  have hSecs : d.secs.toNat < UInt64.size := d.secs.toNat_lt
  have hNanos : d.nanos.val < 1000000000 := d.nanos.isLt
  have hWhole : d.nanos.val / 1000000000 = 0 := Nat.div_eq_of_lt hNanos
  refine ⟨.object [("secs", .natural d.secs.toNat), ("nanos", .natural d.nanos.val)],
    takes_struct (by decide : ["secs", "nanos"].Nodup)
      (.cons rfl (takes_natural (Nat.le_pred_of_lt hSecs) (by decide)) <|
        .cons rfl (takes_natural (Nat.le_trans hNanos.le (by decide)) (by decide)) .nil) ?_,
    Duration.ofNanos?_toNanos d⟩
  simp [arrange, Member.required, List.lookup_cons, hWhole, hSecs, Nat.mod_eq_of_lt hNanos]

theorem carries_target (t : Target) : Carries target.form target.ofJson? (target.toJson t) t := by
  have hPort : t.port.toNat ≤ 65535 := Nat.le_pred_of_lt t.port.toNat_lt
  refine ⟨target.toJson t, takes_struct (by decide : ["host", "port", "addr"].Nodup)
    (.cons rfl (takes_string t.host) <| .cons rfl (takes_natural hPort (by decide)) <|
      .cons rfl (takes_string t.address) .nil) ?_, ?_⟩
  · rfl
  · simp [target]

theorem carries_finger (f : Finger) : Carries finger.form finger.ofJson? (finger.toJson f) f := by
  obtain ⟨product, hProduct, hProductValue⟩ := carries_text f.product
  obtain ⟨version, hVersion, hVersionValue⟩ := carries_text f.version
  obtain ⟨info, hInfo, hInfoValue⟩ := carries_text f.info
  obtain ⟨hostname, hHostname, hHostnameValue⟩ := carries_text f.hostname
  obtain ⟨os, hOs, hOsValue⟩ := carries_text f.os
  obtain ⟨device, hDevice, hDeviceValue⟩ := carries_text f.deviceType
  refine ⟨.object [("probe", .string f.probe), ("service", .string f.service), ("product", product),
    ("version", version), ("info", info), ("hostname", hostname), ("os", os),
    ("device_type", device), ("cpe", Json.strings f.cpe), ("soft", .bool f.soft)], ?_, ?_⟩
  · by_cases hCpe : f.cpe = []
    -- What is filled in for the list that was left out is the empty list.
    · simp only [finger, hCpe, List.isEmpty_nil, if_true, List.nil_append, List.cons_append]
      refine takes_struct
        (by decide : ["probe", "service", "product", "version", "info", "hostname", "os",
          "device_type", "soft"].Nodup)
        (.cons rfl (takes_string _) <| .cons rfl (takes_string _) <| .cons rfl hProduct <|
          .cons rfl hVersion <| .cons rfl hInfo <| .cons rfl hHostname <| .cons rfl hOs <|
          .cons rfl hDevice <| .cons rfl (takes_bool _) .nil) ?_
      rfl
    · simp only [finger, List.isEmpty_iff, hCpe, if_false, List.nil_append, List.cons_append]
      refine takes_struct
        (by decide : ["probe", "service", "product", "version", "info", "hostname", "os",
          "device_type", "cpe", "soft"].Nodup)
        (.cons rfl (takes_string _) <| .cons rfl (takes_string _) <| .cons rfl hProduct <|
          .cons rfl hVersion <| .cons rfl hInfo <| .cons rfl hHostname <| .cons rfl hOs <|
          .cons rfl hDevice <| .cons rfl (takes_strings _) <| .cons rfl (takes_bool _) .nil) ?_
      rfl
  · simp [finger, hProductValue, hVersionValue, hInfoValue, hHostnameValue, hOsValue, hDeviceValue,
      listOf?_strings]

theorem carries_options (o : ScanOptions) :
    Carries options.form options.ofJson? (options.toJson o) o := by
  have hConcurrency : o.maxConcurrency.toNat ≤ UInt64.size - 1 :=
    Nat.le_pred_of_lt o.maxConcurrency.toNat_lt
  obtain ⟨rarity, hRarity, hRarityValue⟩ := carries_option
    (fun n : UInt8 => carries_natural (Nat.le_pred_of_lt n.toNat_lt) (by decide))
    (fun _ => trivial) rfl o.rarityThreshold
  obtain ⟨total, hTotal, hTotalValue⟩ := carries_duration o.totalWait
  obtain ⟨wrapped, hWrapped, hWrappedValue⟩ := carries_duration o.tcpWrapped
  obtain ⟨cap, hCap, hCapValue⟩ :=
    carries_option (g := id) carries_duration (fun _ => trivial) rfl o.maxWait
  obtain ⟨rate, hRate, hRateValue⟩ := carries_option
    (fun n : UInt32 => carries_natural (Nat.le_pred_of_lt n.toNat_lt) (by decide))
    (fun _ => trivial) rfl o.rateLimit
  refine ⟨.object [("rarity_threshold", rarity), ("honor_exclude", .bool o.honorExclude),
    ("total_wait", total), ("tcp_wrapped", wrapped), ("max_wait", cap),
    ("max_concurrency", .natural o.maxConcurrency.toNat), ("rate_limit", rate)],
    takes_struct (by decide : ["rarity_threshold", "honor_exclude", "total_wait", "tcp_wrapped",
      "max_wait", "max_concurrency", "rate_limit"].Nodup)
    (.cons rfl hRarity <| .cons rfl (takes_bool _) <| .cons rfl hTotal <| .cons rfl hWrapped <|
      .cons rfl hCap <| .cons rfl (takes_natural hConcurrency (by decide)) <|
      .cons rfl hRate .nil) ?_, ?_⟩
  · rfl
  · simp [options, hRarityValue, hTotalValue, hWrappedValue, hCapValue, hRateValue, Function.comp_def]

theorem carries_record (r : Record) : Carries record.form record.ofJson? (record.toJson r) r := by
  obtain ⟨t, hTarget, hTargetValue⟩ := carries_target r.target
  obtain ⟨f, hFinger, hFingerValue⟩ :=
    carries_option (g := id) carries_finger (fun _ => trivial) rfl r.finger
  obtain ⟨elapsed, hElapsed, hElapsedValue⟩ := carries_duration r.elapsed
  refine ⟨.object [("target", t), ("finger", f), ("elapsed", elapsed)],
    takes_struct (by decide : ["target", "finger", "elapsed"].Nodup)
      (.cons rfl hTarget <| .cons rfl hFinger <| .cons rfl hElapsed .nil) ?_, ?_⟩
  · rfl
  · simp [record, hTargetValue, hFingerValue, hElapsedValue]

/-- Fingers, targets, options and records are read back from what is written for them, and what any
text was read as is written and read again without a change. -/
theorem documents_read_back :
    finger.ReadsBack ∧ target.ReadsBack ∧ options.ReadsBack ∧ record.ReadsBack :=
  ⟨readsBack_of_carries carries_finger, readsBack_of_carries carries_target,
    readsBack_of_carries carries_options, readsBack_of_carries carries_record⟩

/-- Texts that are never written: members in another order, some of no known name, others left out,
structures as arrays, and full seconds among the nanoseconds. -/
theorem documents_read_back_of_foreign :
    (∃ f, finger.read
        "\x7b\"soft\":true,\"seen\":[null],\"service\":\"\\u00e9\",\"probe\":\"P\"\x7d".toList = .ok f ∧
      ∃ g, finger.read (finger.text f) = .ok g ∧ g = f ∧ finger.text g = finger.text f) ∧
    (∃ t, target.read "[\"h\", 80, \"h:80\"]".toList = .ok t ∧
      ∃ u, target.read (target.text t) = .ok u ∧ u = t ∧ target.text u = target.text t) ∧
    (∃ o, options.read "[3,false,[1,2000000000],[0,5],null,1,null]".toList = .ok o ∧
      ∃ p, options.read (options.text o) = .ok p ∧ p = o ∧ options.text p = options.text o) ∧
    (∃ r, record.read "\x7b\"elapsed\":[1,0],\"target\":[\"h\",80,\"h:80\"]\x7d".toList = .ok r ∧
      ∃ s, record.read (record.text r) = .ok s ∧ s = r ∧ record.text s = record.text r) := by
  obtain ⟨hFinger, hTarget, hOptions, hRecord⟩ := documents_read_back
  refine ⟨⟨⟨"P", "é", none, none, none, none, none, none, [], true⟩, ?_⟩, ⟨⟨"h", 80, "h:80"⟩, ?_⟩,
    ⟨⟨some 3, false, ⟨3, 0⟩, ⟨0, 5⟩, none, 1, none⟩, ?_⟩, ⟨⟨⟨"h", 80, "h:80"⟩, none, ⟨1, 0⟩⟩, ?_⟩⟩
  · exact (and_iff_left_of_imp (hFinger.accepted _ _)).mpr (by decide +kernel)
  · exact (and_iff_left_of_imp (hTarget.accepted _ _)).mpr (by decide +kernel)
  · exact (and_iff_left_of_imp (hOptions.accepted _ _)).mpr (by decide +kernel)
  · exact (and_iff_left_of_imp (hRecord.accepted _ _)).mpr (by decide +kernel)

end Document
end ServiceProbe
