import TemplateLint.Encoding.Name
import TemplateLint.Settings.Complaint
import TemplateLint.Settings.Numeral

/-!
# Settings

The settings of a scan are the encoding of the template, the number of context characters in a
report, and the tips at its end. They are built from named values: each of the three is checked on
its own, a missing one has its default, names that mean nothing are passed over, and the
complaints about all three are collected. Built settings never change.
-/

namespace TemplateLint

/-- The settings of a scan. -/
structure Settings where
  /-- the name of the encoding as it was given -/
  encodingName : Text := "utf-8".toList
  /-- the encoding that the name stands for -/
  encoding : Encoding := .text (.plain .utf8)
  /-- the number of context characters shown for a violation -/
  contextWidth : Int := 81
  /-- what a report with violations ends with -/
  tips : List Text :=
    ["The backend converts JSON keys from camelCase to snake_case.".toList,
     "Your ERB templates must use snake_case to match the transformed data.".toList,
     "Compare with an existing form mapping template for correct patterns.".toList]
deriving Repr, DecidableEq

namespace Settings

open Json (Value)

/-- The least context width. -/
def leastWidth : Int := 10

/-- The greatest context width. -/
def greatestWidth : Int := 1000

/-- The encoding that a value names. -/
def encodingOf : Value → Except Problem (Text × Encoding)
  | .text name =>
    if name.isEmpty then .error .emptyText
    else if name.contains '\x00' then .error .nullInName
    else match Encoding.ofName? name with
      | some encoding => .ok (name, encoding)
      | none => .error (.unknownEncoding name)
  | _ => .error .notText

/-- The problem of a text that spells no integer. -/
def problemOf : Numeral.Misreading → Problem
  | .malformed => .notNumeral
  | .tooLong => .tooLarge

/-- The bound below which the magnitude of a decimal has to stay, two to the power of 63. -/
def decimalBound : Nat := 0x8000000000000000

/-- The integer that a value stands for. -/
def wholeNumberOf : Value → Except Problem Int
  | .int n => .ok n
  | .bool b => .ok (if b then 1 else 0)
  | .decimal d =>
    match Binary64.ofDecimal? d with
    | none => .error .notFinite
    | some x =>
      match x.toNat? with
      | none => .error .fraction
      | some n =>
        if decimalBound ≤ n then .error .tooLarge
        else .ok (if d.negative then -(n : Int) else n)
  | .text s => (Numeral.read s).mapError problemOf
  | _ => .error .notInteger

/-- The context width that a value stands for. -/
def contextWidthOf (v : Value) : Except Problem Int :=
  match wholeNumberOf v with
  | .error problem => .error problem
  | .ok n =>
    if n < leastWidth then .error (.below leastWidth)
    else if greatestWidth < n then .error (.above greatestWidth)
    else .ok n

/-- The texts among items, and the items that are no texts with their places. -/
def textItems : Nat → List Value → List Text × List (Nat × Value)
  | _, [] => ([], [])
  | n, .text s :: vs => let (texts, others) := textItems (n + 1) vs; (s :: texts, others)
  | n, v :: vs => let (texts, others) := textItems (n + 1) vs; (texts, (n, v) :: others)

/-- The name under which an encoding is given. -/
def encodingSetting : Text := "encoding".toList

/-- The name under which a context width is given. -/
def contextWidthSetting : Text := "context_width".toList

/-- The name under which tips are given. -/
def tipsSetting : Text := "tips".toList

/-- The encoding among named values, or its default. -/
def checkEncoding (fields : List (Text × Value)) : Except (List Complaint) (Text × Encoding) :=
  match fields.lookup encodingSetting with
  | none => .ok (({} : Settings).encodingName, ({} : Settings).encoding)
  | some v => (encodingOf v).mapError fun p => [⟨p, [.setting encodingSetting], v⟩]

/-- The context width among named values, or its default. -/
def checkContextWidth (fields : List (Text × Value)) : Except (List Complaint) Int :=
  match fields.lookup contextWidthSetting with
  | none => .ok ({} : Settings).contextWidth
  | some v => (contextWidthOf v).mapError fun p => [⟨p, [.setting contextWidthSetting], v⟩]

/-- The tips among named values, or their default. -/
def checkTips (fields : List (Text × Value)) : Except (List Complaint) (List Text) :=
  match fields.lookup tipsSetting with
  | none => .ok ({} : Settings).tips
  | some (.list vs) =>
    match textItems 0 vs with
    | (texts, []) => .ok texts
    | (_, others) =>
      .error (others.map fun (n, v) => ⟨.notText, [.setting tipsSetting, .index n], v⟩)
  | some v => .error [⟨.notList, [.setting tipsSetting], v⟩]

/-- The complaints of a check. -/
def complaintsOf {α : Type} : Except (List Complaint) α → List Complaint
  | .ok _ => []
  | .error complaints => complaints

/-- Settings built from named values, or everything that is wrong with the values. -/
def build (fields : List (Text × Value)) : Except (List Complaint) Settings :=
  match checkEncoding fields, checkContextWidth fields, checkTips fields with
  | .ok (name, encoding), .ok width, .ok tips => .ok ⟨name, encoding, width, tips⟩
  | encoding, width, tips =>
    .error (complaintsOf encoding ++ complaintsOf width ++ complaintsOf tips)

/-- The named values of settings. -/
def toFields (s : Settings) : List (Text × Value) :=
  [(encodingSetting, .text s.encodingName), (contextWidthSetting, .int s.contextWidth),
   (tipsSetting, .list (s.tips.map .text))]

/-- Settings after a name is given a value. No setting takes another value; a name that starts with
an underscore belongs to no setting, and its value is let pass without effect. -/
def assign (s : Settings) (name : Text) (v : Value) : Except Complaint Settings :=
  if name.head? = some '_' then .ok s else .error ⟨.frozen, [.setting name], v⟩

/-- Whatever is assigned, settings that come out are the settings that went in. -/
theorem eq_of_assign {s s' : Settings} {name : Text} {v : Value} (h : s.assign name v = .ok s') :
    s' = s := by
  unfold assign at h
  split at h
  · exact (Except.ok.inj h).symm
  · nomatch h

end Settings

end TemplateLint
