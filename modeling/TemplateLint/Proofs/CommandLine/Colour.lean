import TemplateLint.Proofs.CommandLine.ExitCode
import TemplateLint.Proofs.Style.Strip

/-!
# Colours of the output

The output of a call is plain for one of two reasons: colours are forbidden and the plain sheet
shows its document, or nothing is said about colours, the output is no terminal, and what the
coloured sheet shows is stripped. Both give the same text, which is also what stripping leaves of
the coloured output, as long as the document holds no escape character of its own. A report that
the device refuses is left aside, for the complaint about it says where in the output the refused
characters stand, and escape sequences move them.
-/

namespace TemplateLint.CommandLine

/-- The line that a sheet shows of a document is stripped to the plain one. -/
theorem strip_render_append_lineFeed (sheet : Sheet) {d : Document}
    (h : escape ∉ d.render .plain) :
    Style.strip (d.render sheet ++ ['\n']) = d.render .plain ++ ['\n'] := by
  have hend : Style.StripsTo ['\n'] ['\n'] := Style.stripsTo_self (by decide)
  exact ((Document.stripsTo_render sheet h).append hend).strip_eq

/-- Where the wish of a call and the kind of its output come to colours, the coloured sheet shows
the document as it is. -/
theorem present_of_getD_eq_true {inv : Invocation} {terminal : Bool}
    (hcolour : inv.colour.getD terminal = true) (d : Document) :
    present inv terminal d = d.render .coloured ++ ['\n'] := by
  have hsheet : sheetOf inv = .coloured := by
    apply if_neg
    intro hforbidden
    rw [hforbidden] at hcolour
    cases hcolour
  rw [present, hsheet, if_pos hcolour]

/-- Where they come to no colours, the output is plain, whichever sheet the call uses. -/
theorem present_of_getD_eq_false {inv : Invocation} {terminal : Bool}
    (hcolour : inv.colour.getD terminal = false) {d : Document} (h : escape ∉ d.render .plain) :
    present inv terminal d = d.render .plain ++ ['\n'] := by
  rw [present, hcolour, if_neg Bool.false_ne_true]
  exact strip_render_append_lineFeed _ h

/-- The output that shows a document in the colours that are forced is stripped to the plain one. -/
theorem strip_shown_present (device : Device) (inv : Invocation) (terminal : Bool) {d : Document}
    (h : escape ∉ d.render .plain) :
    Style.strip (device.shown (present { inv with colour := some true } terminal d)) =
      device.shown (d.render .plain ++ ['\n']) := by
  have hplain : present { inv with colour := some false } terminal d = d.render .plain ++ ['\n'] :=
    present_of_getD_eq_false rfl h
  rw [← hplain]
  by_cases hshow : device.CanShow d
  · rw [device.shown_of_takes (device.takes_present_iff.mpr hshow),
      device.shown_of_takes (device.takes_present_iff.mpr hshow), present_of_getD_eq_true rfl,
      hplain]
    exact strip_render_append_lineFeed .coloured h
  · rw [device.shown_of_not_takes (mt device.takes_present_iff.mp hshow),
      device.shown_of_not_takes (mt device.takes_present_iff.mp hshow), Style.strip_nil]

/-- Colours are no part of what a call leads to if the device takes its report. -/
theorem perform_colour {device : Device} {scan : Scanner} {inv : Invocation}
    (h : Fits device scan inv) (colour : Option Bool) (terminal : Bool) :
    perform device terminal scan { inv with colour := colour } =
      perform device false scan inv := by
  apply perform_congr
  · rfl
  · rfl
  · intro file settings r hfile hsettings hr
    have hfits : ∀ document, report inv settings file r = .ok document →
        device.CanShow document :=
      fun document hdocument => h file settings r document hfile hsettings hr hdocument
    rw [tryReport_eq_report false hfits]
    exact tryReport_eq_report terminal hfits

/-- On a terminal, saying nothing about colours is forcing them. -/
theorem present_terminal (inv : Invocation) (terminal : Bool) (d : Document) :
    present { inv with colour := none } true d =
      present { inv with colour := some true } terminal d :=
  (present_of_getD_eq_true rfl d).trans (present_of_getD_eq_true rfl d).symm

/-- So it leads to the same, also if the device refuses the report. -/
theorem perform_terminal (device : Device) (scan : Scanner) (inv : Invocation) (terminal : Bool) :
    perform device true scan { inv with colour := none } =
      perform device terminal scan { inv with colour := some true } := by
  apply perform_congr
  · rfl
  · rfl
  · intro file settings r hfile hsettings hr
    simp only [tryReport, present_terminal inv terminal]
    rfl

/-- If the device takes the report of a call and the plain text of the call holds no escape
character, the call prints that text where colours are forbidden and where nothing is said about
them and the output is no terminal, and it prints a text that is stripped to it where they are
forced; or none of them is printed. On a terminal, saying nothing is the same as forcing them. The
detailed report, an error and the usage are stripped from their coloured to their plain form. -/
theorem standardOutput_colours_agree (device : Device) (scan : Scanner) (inv : Invocation)
    (log : Log Stream) :
    let output := fun (colour : Option Bool) (terminal : Bool) =>
      (runInvocation device scan terminal { inv with colour := colour } log).1.standardOutput
    let plain := (perform device false scan inv).document.render .plain
    (Fits device scan inv → escape ∉ plain → ∀ terminal,
      output (some false) terminal = device.shown (plain ++ ['\n']) ∧
      output none false = output (some false) terminal ∧
      Style.strip (output (some true) terminal) = output (some false) terminal) ∧
    (∀ terminal, output none true = output (some true) terminal) ∧
    (∀ settings r file, escape ∉ (Report.detailed settings r file).render .plain →
      Style.strip ((Report.detailed settings r file).render .coloured) =
        (Report.detailed settings r file).render .plain) ∧
    (∀ message, escape ∉ message →
      Style.strip (Fragment.render .coloured (.error message)) =
        Fragment.render .plain (.error message)) ∧
    (∀ name, escape ∉ (usage name).render .plain →
      Style.strip ((usage name).render .coloured) = (usage name).render .plain) := by
  intro output plain
  refine ⟨?_, ?_, ?_, ?_, ?_⟩
  · intro hfits hplain terminal
    have houtput : ∀ colour terminal, output colour terminal =
        device.shown (present { inv with colour := colour } terminal
          (perform device false scan inv).document) := by
      intro colour terminal
      rw [← perform_colour hfits colour terminal]
      exact runInvocation_standardOutput log
    have hforbidden : output (some false) terminal = device.shown (plain ++ ['\n']) := by
      rw [houtput, present_of_getD_eq_false rfl hplain]
    refine ⟨hforbidden, ?_, ?_⟩
    · rw [hforbidden, houtput, present_of_getD_eq_false rfl hplain]
    · rw [hforbidden, houtput]
      exact strip_shown_present device inv terminal hplain
  · intro terminal
    simp only [output, runInvocation_standardOutput, perform_terminal device scan inv terminal,
      present_terminal inv terminal]
  · intro settings r file h
    exact Document.strip_render .coloured h
  · intro message h
    rw [Fragment.render_plain]
    exact (Fragment.stripsTo_render .coloured h).strip_eq
  · intro name h
    exact Document.strip_render .coloured h

/-- A path and a context that look like the rest of an escape sequence, next to real ones. -/
theorem standardOutput_colours_agree_brackets :
    let scan := Scanner.ofFileSystem fun _ => .present
      (.regular [0x78, 0x5B, 0x27, 0x33, 0x31, 0x6D, 0x42, 0x27, 0x5D, 0x5B, 0x30, 0x6D]) true
    let inv : Invocation := { paths := ["[31m.erb".toList] }
    escape ∉ (perform .utf8 false scan inv).document.render .plain ∧
    (runInvocation .utf8 scan false inv {}).1.standardOutput =
      (runInvocation .utf8 scan true { inv with colour := some false } {}).1.standardOutput ∧
    Style.strip
        (runInvocation .utf8 scan true { inv with colour := some true } {}).1.standardOutput =
      (runInvocation .utf8 scan true { inv with colour := some false } {}).1.standardOutput := by
  intro scan inv
  have hfits : Fits .utf8 scan inv := fun _ _ _ document _ _ _ _ => Device.canShow_utf8 document
  have hplain : escape ∉ (perform .utf8 false scan inv).document.render .plain := by
    decide +kernel
  obtain ⟨-, hforbidden, hforced⟩ :=
    (standardOutput_colours_agree .utf8 scan inv {}).1 hfits hplain true
  exact ⟨hplain, hforbidden, hforced⟩

end TemplateLint.CommandLine
