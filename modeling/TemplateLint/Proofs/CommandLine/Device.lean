import TemplateLint.CommandLine.Run
import TemplateLint.Proofs.Style.Strip

/-!
# What a device takes

A device takes a text exactly if it can encode all its characters, and what it says of another one
is ASCII, so it can say that. Since every device takes ASCII, neither colours nor their removal
decide whether it takes a document, only the texts in the document do (`takes_present_iff`).
-/

namespace TemplateLint

open CommandLine (present sheetOf)

namespace Device

variable (device : Device)

/-- The device can encode all characters of a text. -/
def Takes (s : Text) : Prop := ∀ c ∈ s, device.encodes c = true

/-- The device takes all texts of a document. -/
def CanShow (d : Document) : Prop := ∀ line ∈ d, ∀ f ∈ line, device.Takes f.text

/-! ### Texts -/

/-- Every device takes a text in ASCII. -/
theorem takes_of_isAscii {s : Text} (h : s.isAscii = true) : device.Takes s :=
  fun c hc => device.encodes_of_ascii c (Text.isAscii_iff.mp h c hc)

/-- A device takes a text exactly if it takes both parts of it. -/
theorem takes_append_iff {s t : Text} : device.Takes (s ++ t) ↔ device.Takes s ∧ device.Takes t :=
  List.forall_mem_append

/-- ASCII in front of a text does not decide whether a device takes it. -/
theorem takes_append_iff_of_isAscii {s t : Text} (h : s.isAscii = true) :
    device.Takes (s ++ t) ↔ device.Takes t := by
  rw [takes_append_iff, and_iff_right (device.takes_of_isAscii h)]

/-- A device takes a text exactly if it takes the parts that it is put together from. -/
theorem takes_flatMap_iff {α : Type} {f : α → Text} {as : List α} :
    device.Takes (as.flatMap f) ↔ ∀ a ∈ as, device.Takes (f a) :=
  List.forall_mem_flatMap

/-- Only characters beyond ASCII decide whether a device takes a text. -/
theorem takes_beyondAscii_iff {s : Text} : device.Takes s.beyondAscii ↔ device.Takes s := by
  constructor
  · intro h c hc
    by_cases hascii : c.toNat < 0x80
    · exact device.encodes_of_ascii c hascii
    · exact h c (Text.mem_beyondAscii_iff.mpr ⟨hc, Nat.le_of_not_lt hascii⟩)
  · intro h c hc
    exact h c (Text.mem_beyondAscii_iff.mp hc).1

/-- A device takes both or none of two texts with the same characters beyond ASCII. -/
theorem takes_iff_of_mem_iff {s t : Text} (h : ∀ c : Char, 0x80 ≤ c.toNat → (c ∈ s ↔ c ∈ t)) :
    device.Takes s ↔ device.Takes t := by
  rw [← device.takes_beyondAscii_iff (s := s), ← device.takes_beyondAscii_iff (s := t)]
  simp only [Takes, Text.mem_beyondAscii_iff]
  constructor
  · rintro hs c ⟨hc, hbeyond⟩
    exact hs c ⟨(h c hbeyond).mpr hc, hbeyond⟩
  · rintro ht c ⟨hc, hbeyond⟩
    exact ht c ⟨(h c hbeyond).mp hc, hbeyond⟩

/-- The device in UTF-8 takes every text. -/
theorem takes_utf8 (s : Text) : utf8.Takes s := fun _ _ => rfl

/-! ### Writing -/

/-- The check on writing asks whether the device takes the text. -/
theorem all_encodes_iff {s : Text} : s.all device.encodes = true ↔ device.Takes s :=
  List.all_eq_true

/-- Writing a text leaves it as it is if the device takes it. -/
theorem write_of_takes {s : Text} (h : device.Takes s) : device.write s = .ok s :=
  if_pos (device.all_encodes_iff.mpr h)

/-- Writing a text fails with a complaint if the device does not take it. -/
theorem write_of_not_takes {s : Text} (h : ¬ device.Takes s) :
    device.write s = .error (device.complaint s) :=
  if_neg (mt device.all_encodes_iff.mp h)

/-- A text that is taken is shown as it is. -/
theorem shown_of_takes {s : Text} (h : device.Takes s) : device.shown s = s :=
  if_pos (device.all_encodes_iff.mpr h)

/-- Of a text that is not taken nothing is shown. -/
theorem shown_of_not_takes {s : Text} (h : ¬ device.Takes s) : device.shown s = [] :=
  if_neg (mt device.all_encodes_iff.mp h)

/-- A complaint is about characters that are refused, and there is one if the text is refused. -/
theorem stretch_spec {s : Text} :
    (∀ c ∈ device.stretch s, device.encodes c = false) ∧
      (device.stretch s = [] → device.Takes s) := by
  have hrefused : ∀ c ∈ (s.dropWhile device.encodes).takeWhile fun c => !device.encodes c,
      device.encodes c = false := by
    intro c hc
    simpa using List.mem_takeWhile_imp hc
  constructor
  · intro c hc
    unfold stretch at hc
    split at hc
    · exact hrefused c hc
    · exact hrefused c (List.mem_of_mem_take hc)
  · intro hnone
    have hempty : ((s.dropWhile device.encodes).takeWhile fun c => !device.encodes c) = [] := by
      unfold stretch at hnone
      split at hnone
      · exact hnone
      · simpa using hnone
    have hrest : s.dropWhile device.encodes = [] := by
      cases hdrop : s.dropWhile device.encodes with
      | nil => rfl
      | cons c rest =>
        have hc : device.encodes c = false := by
          have hhead := List.head?_dropWhile_not device.encodes s
          rw [hdrop] at hhead
          simpa using hhead
        rw [hdrop, List.takeWhile_cons_of_pos (by rw [hc]; rfl)] at hempty
        cases hempty
    intro c hc
    exact List.dropWhile_eq_nil_iff.mp hrest c hc

/-- A complaint is ASCII. -/
theorem isAscii_complaint (s : Text) : (device.complaint s).isAscii = true := by
  have hsubject : (device.subject s).isAscii = true := by
    unfold subject
    split
    · simp [Text.isAscii_escapeCode, Text.isAscii_ofNat]
    · simp [Text.isAscii_ofNat]
  simp [complaint, hsubject, device.isAscii_codec, device.isAscii_reason]

/-! ### Documents -/

private theorem takes_flatMap_beyondAscii_iff {d : Document} :
    device.Takes (d.flatMap fun line => line.flatMap fun f => f.text.beyondAscii) ↔
      device.CanShow d := by
  simp only [takes_flatMap_iff, takes_beyondAscii_iff, CanShow]

/-- Whatever the colours, a device takes what is presented of a document exactly if it takes all
texts of the document. -/
theorem takes_present_iff {inv : CommandLine.Invocation} {terminal : Bool} {d : Document} :
    device.Takes (present inv terminal d) ↔ device.CanShow d := by
  have hlineFeed : Text.beyondAscii ['\n'] = [] := by decide
  have htext : Text.beyondAscii (d.render (sheetOf inv) ++ ['\n']) =
      d.flatMap fun line => line.flatMap fun f => f.text.beyondAscii := by
    rw [Text.beyondAscii_append, hlineFeed, List.append_nil, Document.beyondAscii_render]
  have hpresent : (present inv terminal d).beyondAscii =
      d.flatMap fun line => line.flatMap fun f => f.text.beyondAscii := by
    unfold present
    split
    · exact htext
    · rw [Style.beyondAscii_strip, htext]
  rw [← takes_beyondAscii_iff, hpresent, takes_flatMap_beyondAscii_iff]

/-- A device shows a document exactly if it takes its first line and shows the others. -/
theorem canShow_cons_iff {line : List Fragment} {d : Document} :
    device.CanShow (line :: d) ↔ (∀ f ∈ line, device.Takes f.text) ∧ device.CanShow d :=
  List.forall_mem_cons

/-- The device in UTF-8 shows every document. -/
theorem canShow_utf8 (d : Document) : utf8.CanShow d := fun _ _ f _ => takes_utf8 f.text

end Device

namespace CommandLine

/-- What is presented of a document is never nothing. -/
theorem present_ne_nil (inv : Invocation) (terminal : Bool) (d : Document) :
    present inv terminal d ≠ [] := by
  unfold present
  split
  · exact List.append_ne_nil_of_right_ne_nil _ (List.cons_ne_nil _ _)
  · exact Style.strip_ne_nil (List.mem_append_right _ List.mem_cons_self)

/-! ### The last word of a run -/

section
variable (device : Device) (exitCode : Nat) {text : Text} (diagnostics : Text)

/-- A run whose last word is taken has it on standard output. -/
theorem saying_of_takes (h : device.Takes text) :
    Outcome.saying device exitCode text diagnostics =
      { exitCode, standardOutput := text, standardError := diagnostics } := by
  rw [Outcome.saying, device.write_of_takes h]

/-- A run whose last word is refused breaks down. -/
theorem saying_of_not_takes (h : ¬ device.Takes text) :
    Outcome.saying device exitCode text diagnostics =
      { exitCode := 1, standardError := diagnostics,
        breakdown := some (device.complaint text) } := by
  rw [Outcome.saying, device.write_of_not_takes h]

/-- Standard output has what the device shows of the last word. -/
theorem standardOutput_saying :
    (Outcome.saying device exitCode text diagnostics).standardOutput = device.shown text := by
  by_cases h : device.Takes text
  · rw [saying_of_takes device exitCode diagnostics h, device.shown_of_takes h]
  · rw [saying_of_not_takes device exitCode diagnostics h, device.shown_of_not_takes h]

/-- What is on standard error stays there, whatever becomes of the last word. -/
theorem standardError_saying :
    (Outcome.saying device exitCode text diagnostics).standardError = diagnostics := by
  by_cases h : device.Takes text
  · rw [saying_of_takes device exitCode diagnostics h]
  · rw [saying_of_not_takes device exitCode diagnostics h]

/-- A run breaks down exactly if its last word is refused. -/
theorem breakdown_saying_eq_none_iff :
    (Outcome.saying device exitCode text diagnostics).breakdown = none ↔ device.Takes text := by
  by_cases h : device.Takes text
  · simp [saying_of_takes device exitCode diagnostics h, h]
  · simp [saying_of_not_takes device exitCode diagnostics h, h]

end

/-! ### Messages and notices -/

/-- The notice of the version is ASCII. -/
theorem isAscii_versionNotice : versionNotice.isAscii = true := by decide

/-- The help is ASCII. -/
theorem isAscii_helpNotice : helpNotice.isAscii = true := by decide +kernel

section
variable (device : Device)

/-- A device shows an error exactly if it takes the message. -/
theorem canShow_errorDocument_iff {message : Text} :
    device.CanShow (errorDocument message) ↔ device.Takes message := by
  simp only [Device.CanShow, errorDocument, List.mem_singleton, forall_eq]
  exact device.takes_append_iff_of_isAscii (by decide)

/-- A device shows an unexpected error exactly if it takes the message. -/
theorem canShow_surpriseDocument_iff {message : Text} :
    device.CanShow (surpriseDocument message) ↔ device.Takes message := by
  have hhint : device.Takes (Fragment.literal "Run with --verbose for details.").text :=
    device.takes_of_isAscii (by decide)
  simp only [Device.CanShow, surpriseDocument, List.mem_cons, List.not_mem_nil, or_false,
    forall_eq_or_imp, forall_eq, and_iff_left hhint]
  exact device.takes_append_iff_of_isAscii (by decide)

/-- Every device shows that a scan was interrupted. -/
theorem canShow_interruption : device.CanShow (performStop [] .interrupted).document := by
  have hnotice : device.Takes "Operation cancelled by user".toList :=
    device.takes_of_isAscii (by decide)
  simpa [performStop, Device.CanShow, Fragment.literal] using hnotice

/-- Every device shows how the program is used. -/
theorem canShow_usage : device.CanShow (usage programName) := by
  have hascii : (usage programName).all (·.all (·.text.isAscii)) = true := by decide
  intro line hline f hf
  exact device.takes_of_isAscii (List.all_eq_true.mp (List.all_eq_true.mp hascii line hline) f hf)

end

end CommandLine

end TemplateLint
