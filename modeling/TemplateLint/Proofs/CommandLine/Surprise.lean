import TemplateLint.Proofs.CommandLine.ExitCode
import TemplateLint.Proofs.Scan.Outcome

/-!
# Unexpected errors

A call that cannot scan its file shows the failure as an error, or as an unexpected one. It does the
latter exactly when the scan escapes its contract; settings that are accepted do not prevent this.
-/

namespace TemplateLint.CommandLine

/-- A call whose scan fails shows the failure, as an error only if it is expected. -/
theorem document_of_failure (device : Device) (terminal : Bool) {fs : FileSystem}
    {inv : Invocation} {settings : Settings} {path : Path} {failure : Failure}
    (hscans : Scans inv settings path) (h : scanFile fs settings path = .error failure) :
    (perform device terminal (.ofFileSystem fs) inv).document =
      if failure.isExpected then errorDocument failure.message
      else surpriseDocument failure.message := by
  obtain ⟨file, hfile, hsettings, rfl⟩ := scans_iff.mp hscans
  have houtcome : (Scanner.ofFileSystem fs settings (Path.ofText file)).outcome =
      .error (.failed failure) := by
    rw [Scanner.ofFileSystem, h]
    rfl
  rw [perform_of_stop device terminal hfile hsettings houtcome, performStop]
  split
  · rfl
  · rfl

/-- In an encoding that has a name here, a scan ends with a result or with one of the failures that
it is meant to have unless it escapes this contract, and a call shows its failure as an unexpected
error if and only if it does, on every device that takes the message. -/
theorem scanFile_keeps_contract_iff (fs : FileSystem) (settings : Settings) (path : Path) :
    (Keeps path (scanFile fs settings path) ↔ ¬ Escapes fs settings path) ∧
    ∀ device inv terminal log failure, Scans inv settings path →
      scanFile fs settings path = .error failure →
      (¬ Escapes fs settings path →
        (runInvocation device (.ofFileSystem fs) terminal inv log).1.standardOutput =
          device.shown (present inv terminal (errorDocument failure.message))) ∧
      (Escapes fs settings path →
        (runInvocation device (.ofFileSystem fs) terminal inv log).1.standardOutput =
          device.shown (present inv terminal (surpriseDocument failure.message))) := by
  refine ⟨keeps_scanFile_iff fs settings path, ?_⟩
  intro device inv terminal log failure hscans h
  rw [runInvocation_standardOutput, document_of_failure device terminal hscans h,
    ← isExpected_eq_false_iff_escapes h]
  cases failure.isExpected with
  | true => simp
  | false => simp

/-- A file in UTF-16 without a byte order mark is an unexpected error. -/
theorem scanFile_keeps_contract_iff_unmarked :
    let fs : FileSystem := fun _ => .present (.regular [0x61, 0x00]) true
    let inv : Invocation := { paths := ["a.erb".toList], encoding := "utf-16".toList }
    (runInvocation .utf8 (.ofFileSystem fs) false inv {}).1.standardOutput =
      present inv false
        (surpriseDocument "UTF-16 stream does not start with BOM".toList) := by
  intro fs inv
  have hscans : Scans inv (settingsIn inv (.text (.marked .utf16))) (Path.ofText "a.erb".toList) :=
    ⟨_, _, rfl, ⟨by decide, by decide, by decide, by decide, by decide⟩, rfl, rfl⟩
  have hunmarked : Encoding.Wide.IsUnmarked .utf16 [0x61, 0x00] :=
    ⟨by decide, by decide, ⟨['a'], []⟩, by cbv, List.cons_ne_nil _ _⟩
  have hscan : scanFile fs (settingsIn inv (.text (.marked .utf16))) (Path.ofText "a.erb".toList) =
      .error (.unmarked .utf16) := by
    rw [scanFile_regular _ rfl rfl, Encoding.Codec.decode_eq_unmarked_iff.mpr ⟨rfl, hunmarked⟩]
    rfl
  have hshown := ((scanFile_keeps_contract_iff _ _ _).2 .utf8 inv false {} _ hscans hscan).2
    (.inr ⟨_, rfl, .inr (.inr ⟨_, rfl, hunmarked⟩)⟩)
  rwa [Device.shown_of_takes _ (Device.takes_utf8 _)] at hshown

/-- The encoding `hex` is accepted, and no file can be scanned in it. -/
theorem not_keeps_hex :
    ∃ settings, settingsOf { paths := ["a.erb".toList], encoding := "hex".toList } = .ok settings ∧
      scanFile (fun _ => .present (.regular [0x78]) true) settings (Path.ofText "a.erb".toList) =
        .error (.notTextEncoding "hex".toList) ∧
      ¬ Keeps (Path.ofText "a.erb".toList)
        (scanFile (fun _ => .present (.regular [0x78]) true) settings
          (Path.ofText "a.erb".toList)) := by
  refine ⟨{ encodingName := "hex".toList, encoding := .transform }, by rfl, rfl, ?_⟩
  rintro (h | h | ⟨cause, h⟩)
  · cases h
  · cases h
  · cases h

end TemplateLint.CommandLine
