import TemplateLint.Proofs.Basic
import TemplateLint.Settings.Basic

/-!
# How settings are built

A value is accepted for a setting no matter which other values come with it, and what is complained
about is what would be complained about if each value came alone. The settings that come out are
those of `BuiltFrom`: the encoding has the name that was given, the width is within its bounds, and
what is missing has its default. They come out again when they are built from their own values, and
no assignment changes them.
-/

namespace TemplateLint.Settings

open Json (Value)

/-! ### What a setting accepts -/

/-- An encoding is accepted exactly if it is a text that is not empty, has no NUL and names one. -/
theorem encodingOf_eq_ok_iff {v : Value} {name : Text} {encoding : Encoding} :
    encodingOf v = .ok (name, encoding) ↔
      v = .text name ∧ name ≠ [] ∧ '\x00' ∉ name ∧ Encoding.ofName? name = some encoding := by
  cases v with
  | text given =>
    simp only [encodingOf, List.isEmpty_iff, List.contains_iff_mem, Value.text.injEq]
    by_cases hempty : given = []
    · grind
    · by_cases hnull : '\x00' ∈ given
      · grind
      · cases h : Encoding.ofName? given with
        | none => grind
        | some found => grind
  | _ => simp [encodingOf]

/-- A context width is accepted exactly if it is a whole number from 10 to 1000. -/
theorem contextWidthOf_eq_ok_iff {v : Value} {width : Int} :
    contextWidthOf v = .ok width ↔ wholeNumberOf v = .ok width ∧ 10 ≤ width ∧ width ≤ 1000 := by
  rw [contextWidthOf]
  cases wholeNumberOf v with
  | error problem => simp
  | ok n =>
    have hleast : leastWidth = 10 := rfl
    have hgreatest : greatestWidth = 1000 := rfl
    simp only [Except.ok.injEq]
    by_cases hbelow : n < leastWidth
    · rw [if_pos hbelow]
      simp only [reduceCtorEq, false_iff]
      omega
    · rw [if_neg hbelow]
      by_cases habove : greatestWidth < n
      · rw [if_pos habove]
        simp only [reduceCtorEq, false_iff]
        omega
      · rw [if_neg habove, Except.ok.injEq]
        omega

/-- Items are all texts exactly if nothing else is found among them. -/
theorem textItems_eq_iff {n : Nat} {vs : List Value} {texts : List Text} :
    textItems n vs = (texts, []) ↔ vs = texts.map .text := by
  fun_induction textItems n vs generalizing texts with
  | case1 n => cases texts <;> simp
  | case2 n s vs found others h ih =>
    cases texts with
    | nil => simp
    | cons text texts => simp [← ih, h, and_assoc]
  | case3 n v vs hv found others h ih =>
    cases texts with
    | nil => simp
    | cons text texts => simp [show v ≠ .text text from hv text]

/-- Different tips make different values. -/
theorem list_text_injective :
    Function.Injective fun texts : List Text => Value.list (texts.map .text) := by
  have htext : Function.Injective Value.text := fun _ _ h => Value.text.inj h
  intro texts texts' h
  exact List.map_injective_iff.mpr htext (Value.list.inj h)

/-! ### Defaults -/

/-- The check of the encoding accepts the value that is given, or else the default. -/
theorem checkEncoding_eq_ok_iff {fields : List (Text × Value)} {found : Text × Encoding} :
    checkEncoding fields = .ok found ↔
      encodingOf ((fields.lookup encodingSetting).getD (.text ({} : Settings).encodingName)) =
        .ok found := by
  rw [checkEncoding]
  cases fields.lookup encodingSetting with
  | none =>
    have hdefault : encodingOf (.text ({} : Settings).encodingName) =
        .ok (({} : Settings).encodingName, ({} : Settings).encoding) := by rfl
    simp only [Option.getD_none, hdefault, Except.ok.injEq]
  | some v => rw [Option.getD_some, mapError_eq_ok_iff]

/-- The check of the context width accepts the value that is given, or else the default. -/
theorem checkContextWidth_eq_ok_iff {fields : List (Text × Value)} {width : Int} :
    checkContextWidth fields = .ok width ↔
      contextWidthOf
        ((fields.lookup contextWidthSetting).getD (.int ({} : Settings).contextWidth)) =
          .ok width := by
  rw [checkContextWidth]
  cases fields.lookup contextWidthSetting with
  | none =>
    have hdefault : contextWidthOf (.int ({} : Settings).contextWidth) =
        .ok ({} : Settings).contextWidth := by rfl
    simp only [Option.getD_none, hdefault, Except.ok.injEq]
  | some v => rw [Option.getD_some, mapError_eq_ok_iff]

/-- The check of the tips accepts the value that is given, or else the default. -/
theorem checkTips_eq_ok_iff {fields : List (Text × Value)} {tips : List Text} :
    checkTips fields = .ok tips ↔
      (fields.lookup tipsSetting).getD (.list (({} : Settings).tips.map .text)) =
        .list (tips.map .text) := by
  rw [checkTips]
  cases fields.lookup tipsSetting with
  | none =>
    simp only [Option.getD_none, Except.ok.injEq, list_text_injective.eq_iff]
  | some v =>
    rw [Option.getD_some]
    cases v with
    | list vs =>
      rw [Value.list.injEq, ← textItems_eq_iff (n := 0)]
      rcases hitems : textItems 0 vs with ⟨texts, others⟩
      cases others with
      | nil => simp [hitems]
      | cons other others => simp [hitems]
    | _ => simp

/-! ### Values together and alone -/

/-- The value with one name alone, if there is one. -/
def alone (fields : List (Text × Value)) (name : Text) : List (Text × Value) :=
  match fields.lookup name with
  | none => []
  | some v => [(name, v)]

/-- A value that is given alone is found under its own name only. -/
theorem lookup_alone (fields : List (Text × Value)) (name other : Text) :
    (alone fields name).lookup other = if other = name then fields.lookup name else none := by
  unfold alone
  split
  · next h => simp [h]
  · next v h =>
    by_cases hname : other = name
    · simp [h, hname]
    · simp [hname, List.lookup_cons, beq_false_of_ne hname]

/-- A check that reads one setting, accepts its default, and does not refuse without a complaint. -/
structure Reads {α : Type} (setting : Text)
    (check : List (Text × Value) → Except (List Complaint) α) : Prop where
  congr {fields fields' : List (Text × Value)} :
    fields.lookup setting = fields'.lookup setting → check fields = check fields'
  accepts_default : ∃ a, check [] = .ok a
  complains (fields : List (Text × Value)) : check fields ≠ .error []

namespace Reads

variable {α : Type} {setting : Text} {check : List (Text × Value) → Except (List Complaint) α}

/-- A check accepts exactly if it has no complaint. -/
theorem exists_eq_ok_iff (h : Reads setting check) {fields : List (Text × Value)} :
    (∃ a, check fields = .ok a) ↔ complaintsOf (check fields) = [] := by
  have hcomplains := h.complains fields
  cases hcheck : check fields with
  | ok a => simp [complaintsOf]
  | error complaints =>
    rw [hcheck] at hcomplains
    simpa [complaintsOf] using hcomplains

/-- A value alone is complained about by the check that reads it, as it is among other values. -/
theorem complaintsOf_alone (h : Reads setting check) (fields : List (Text × Value)) (name : Text) :
    complaintsOf (check (alone fields name)) =
      if setting = name then complaintsOf (check fields) else [] := by
  have hlookup := lookup_alone fields name setting
  split
  · next hname =>
    rw [if_pos hname, ← hname] at hlookup
    rw [← hname, h.congr hlookup]
  · next hname =>
    rw [if_neg hname] at hlookup
    have hmissing : check (alone fields name) = check [] := h.congr hlookup
    rw [hmissing, ← h.exists_eq_ok_iff]
    exact h.accepts_default

end Reads

/-- The check of the encoding reads that setting only. -/
theorem reads_checkEncoding : Reads encodingSetting checkEncoding where
  congr h := by rw [checkEncoding, checkEncoding, h]
  accepts_default := ⟨_, rfl⟩
  complains fields := by
    rw [checkEncoding]
    split
    · simp
    · next v _ => cases encodingOf v <;> simp [Except.mapError]

/-- The check of the context width reads that setting only. -/
theorem reads_checkContextWidth : Reads contextWidthSetting checkContextWidth where
  congr h := by rw [checkContextWidth, checkContextWidth, h]
  accepts_default := ⟨_, rfl⟩
  complains fields := by
    rw [checkContextWidth]
    split
    · simp
    · next v _ => cases contextWidthOf v <;> simp [Except.mapError]

/-- The check of the tips reads that setting only. -/
theorem reads_checkTips : Reads tipsSetting checkTips where
  congr h := by rw [checkTips, checkTips, h]
  accepts_default := ⟨_, rfl⟩
  complains fields := by
    rw [checkTips]
    split
    · simp
    · next vs _ =>
      rcases textItems 0 vs with ⟨texts, _ | ⟨other, others⟩⟩ <;> simp
    · simp

/-- Settings are built exactly if the three checks accept. -/
theorem build_eq_ok_iff_checks {fields : List (Text × Value)} {s : Settings} :
    build fields = .ok s ↔ checkEncoding fields = .ok (s.encodingName, s.encoding) ∧
      checkContextWidth fields = .ok s.contextWidth ∧ checkTips fields = .ok s.tips := by
  obtain ⟨name, encoding, width, tips⟩ := s
  rw [build]
  cases checkEncoding fields with
  | error complaints => simp
  | ok found =>
    cases checkContextWidth fields with
    | error complaints => simp
    | ok width =>
      cases checkTips fields with
      | error complaints => simp
      | ok tips => simp [Prod.ext_iff, and_assoc]

/-- The complaints about values are those about each of the three settings. -/
theorem complaintsOf_build (fields : List (Text × Value)) :
    complaintsOf (build fields) = complaintsOf (checkEncoding fields) ++
      complaintsOf (checkContextWidth fields) ++ complaintsOf (checkTips fields) := by
  rw [build]
  cases checkEncoding fields with
  | error complaints => rfl
  | ok found =>
    cases checkContextWidth fields with
    | error complaints => rfl
    | ok width => cases checkTips fields <;> rfl

/-- Settings come out exactly if there is nothing to complain about. -/
theorem exists_build_eq_ok_iff {fields : List (Text × Value)} :
    (∃ s, build fields = .ok s) ↔ complaintsOf (build fields) = [] := by
  constructor
  · rintro ⟨s, hs⟩
    rw [hs, complaintsOf]
  · rw [complaintsOf_build, List.append_eq_nil_iff, List.append_eq_nil_iff,
      ← reads_checkEncoding.exists_eq_ok_iff, ← reads_checkContextWidth.exists_eq_ok_iff,
      ← reads_checkTips.exists_eq_ok_iff]
    rintro ⟨⟨⟨⟨name, encoding⟩, hencoding⟩, width, hwidth⟩, tips, htips⟩
    exact ⟨⟨name, encoding, width, tips⟩, build_eq_ok_iff_checks.mpr ⟨hencoding, hwidth, htips⟩⟩

/-- The names of the three settings, in the order in which they are checked. -/
def settingNames : List Text := [encodingSetting, contextWidthSetting, tipsSetting]

/-- What is complained about is what is complained about in each value alone. -/
theorem complaintsOf_build_eq_flatMap (fields : List (Text × Value)) :
    complaintsOf (build fields) =
      settingNames.flatMap fun name => complaintsOf (build (alone fields name)) := by
  have hencoding : encodingSetting ≠ contextWidthSetting ∧ encodingSetting ≠ tipsSetting := by
    decide
  have hwidth : contextWidthSetting ≠ tipsSetting := by decide
  simp [settingNames, complaintsOf_build, reads_checkEncoding.complaintsOf_alone,
    reads_checkContextWidth.complaintsOf_alone, reads_checkTips.complaintsOf_alone, hencoding,
    hencoding.1.symm, hencoding.2.symm, hwidth, hwidth.symm]

/-- Values are accepted together exactly if each of them is accepted alone. -/
theorem exists_build_eq_ok_iff_alone {fields : List (Text × Value)} :
    (∃ s, build fields = .ok s) ↔
      ∀ name ∈ settingNames, ∀ v, fields.lookup name = some v → ∃ s, build [(name, v)] = .ok s := by
  rw [exists_build_eq_ok_iff, complaintsOf_build_eq_flatMap, List.flatMap_eq_nil_iff]
  simp only [← exists_build_eq_ok_iff]
  constructor
  · intro h name hname v hv
    simpa [alone, hv] using h name hname
  · intro h name hname
    rw [alone]
    cases hv : fields.lookup name with
    | none => exact ⟨{}, rfl⟩
    | some v => exact h name hname v hv

/-! ### The settings that come out -/

/-- The settings that named values stand for, a missing one being given by its default. -/
structure BuiltFrom (fields : List (Text × Value)) (s : Settings) : Prop where
  encoding_eq : (fields.lookup encodingSetting).getD (.text "utf-8".toList) = .text s.encodingName
  name_ne_nil : s.encodingName ≠ []
  null_not_mem : '\x00' ∉ s.encodingName
  ofName : Encoding.ofName? s.encodingName = some s.encoding
  width_eq : wholeNumberOf ((fields.lookup contextWidthSetting).getD (.int 81)) = .ok s.contextWidth
  least_le : 10 ≤ s.contextWidth
  le_greatest : s.contextWidth ≤ 1000
  tips_eq : (fields.lookup tipsSetting).getD (.list (({} : Settings).tips.map .text)) =
    .list (s.tips.map .text)

/-- Settings are built exactly if they are those that the values stand for. -/
theorem build_eq_ok_iff {fields : List (Text × Value)} {s : Settings} :
    build fields = .ok s ↔ BuiltFrom fields s := by
  rw [build_eq_ok_iff_checks, checkEncoding_eq_ok_iff, checkContextWidth_eq_ok_iff,
    checkTips_eq_ok_iff, encodingOf_eq_ok_iff, contextWidthOf_eq_ok_iff]
  constructor
  · rintro ⟨⟨hencoding, hne, hnull, hname⟩, ⟨hwidth, hleast, hgreatest⟩, htips⟩
    exact ⟨hencoding, hne, hnull, hname, hwidth, hleast, hgreatest, htips⟩
  · intro h
    exact ⟨⟨h.encoding_eq, h.name_ne_nil, h.null_not_mem, h.ofName⟩,
      ⟨h.width_eq, h.least_le, h.le_greatest⟩, h.tips_eq⟩

/-- Settings that were built are built again from their own values. -/
theorem build_toFields {fields : List (Text × Value)} {s : Settings} (h : build fields = .ok s) :
    build s.toFields = .ok s := by
  have hs := build_eq_ok_iff.mp h
  exact build_eq_ok_iff.mpr
    { hs with encoding_eq := rfl, width_eq := rfl, tips_eq := rfl }

/-! ### Assignments -/

/-- A name between double underscores. No setting has such a name, and what it stands for is up to
whatever holds the settings. -/
def IsReserved (name : Text) : Prop :=
  ∃ inner, inner ≠ [] ∧ name = "__".toList ++ inner ++ "__".toList

/-- The settings after an attempt to give a name a value; one that fails leaves them. -/
def afterAssign (s : Settings) (name : Text) (v : Value) : Settings :=
  match s.assign name v with
  | .ok s' => s'
  | .error _ => s

/-- An assignment changes no settings. -/
theorem afterAssign_eq (s : Settings) (name : Text) (v : Value) : s.afterAssign name v = s := by
  unfold afterAssign
  split
  · next s' h => exact eq_of_assign h
  · rfl

/-- Settings are built setting by setting. Values are accepted exactly if each of them is accepted
alone, and the complaints are those about each alone, in the order of the settings. The settings
that come out are those that the values stand for, and come out of their own values again. An
assignment fails for every name but those that start with an underscore, and changes nothing. -/
theorem build_fieldwise (fields : List (Text × Value)) :
    ((∃ s, build fields = .ok s) ↔
      ∀ name ∈ settingNames, ∀ v, fields.lookup name = some v → ∃ s, build [(name, v)] = .ok s) ∧
    (∀ complaints, build fields = .error complaints →
      complaints = settingNames.flatMap fun name => complaintsOf (build (alone fields name))) ∧
    ∀ s, build fields = .ok s →
      BuiltFrom fields s ∧ build s.toFields = .ok s ∧
      (∀ name v, name.head? ≠ some '_' →
        s.assign name v = .error ⟨.frozen, [.setting name], v⟩) ∧
      ∀ name v, ¬ IsReserved name → s.afterAssign name v = s := by
  refine ⟨exists_build_eq_ok_iff_alone, ?_, ?_⟩
  · intro complaints h
    rw [← complaintsOf_build_eq_flatMap, h, complaintsOf]
  · intro s h
    refine ⟨build_eq_ok_iff.mp h, build_toFields h, fun name v hname => if_neg hname, ?_⟩
    intro name v _
    exact afterAssign_eq s name v

/-- An encoding under another name and a width in a text with a sign, zeros and a fraction are
accepted; an empty name and a width with a fraction are complained about, one after the other. -/
theorem build_fieldwise_numeral :
    (build [(contextWidthSetting, .text " +0_81.00".toList),
          (encodingSetting, .text "Latin-1".toList)] =
        .ok { encodingName := "Latin-1".toList, encoding := .text (.plain (.single .latin1)) } ∧
      build (toFields
          { encodingName := "Latin-1".toList, encoding := .text (.plain (.single .latin1)) }) =
        .ok { encodingName := "Latin-1".toList, encoding := .text (.plain (.single .latin1)) }) ∧
    build [(contextWidthSetting, .decimal ⟨false, 55, -1⟩), (encodingSetting, .text [])] =
        .error [⟨.emptyText, [.setting encodingSetting], .text []⟩,
          ⟨.fraction, [.setting contextWidthSetting], .decimal ⟨false, 55, -1⟩⟩] ∧
      [⟨.emptyText, [.setting encodingSetting], .text []⟩,
          ⟨.fraction, [.setting contextWidthSetting], .decimal ⟨false, 55, -1⟩⟩] =
        settingNames.flatMap fun name => complaintsOf (build (alone
          [(contextWidthSetting, .decimal ⟨false, 55, -1⟩), (encodingSetting, .text [])]
          name)) := by
  have hok : build [(contextWidthSetting, .text " +0_81.00".toList),
        (encodingSetting, .text "Latin-1".toList)] =
      .ok { encodingName := "Latin-1".toList, encoding := .text (.plain (.single .latin1)) } := by
    rfl
  have herror : build [(contextWidthSetting, .decimal ⟨false, 55, -1⟩),
        (encodingSetting, .text [])] =
      .error [⟨.emptyText, [.setting encodingSetting], .text []⟩,
        ⟨.fraction, [.setting contextWidthSetting], .decimal ⟨false, 55, -1⟩⟩] := by
    rfl
  exact ⟨⟨hok, ((build_fieldwise _).2.2 _ hok).2.1⟩, herror, (build_fieldwise _).2.1 _ herror⟩

/-- An assignment to a name that starts with an underscore does not fail. -/
theorem not_forall_assign_fails :
    ¬ ∀ fields s name v, build fields = .ok s →
      ∃ complaint, s.assign name v = .error complaint := by
  intro h
  obtain ⟨complaint, hfails⟩ := h [(contextWidthSetting, .int 50), (tipsSetting, .list [])]
    { contextWidth := 50, tips := [] } "_tips".toList (.list [.text "z".toList]) rfl
  cases hfails

end TemplateLint.Settings
