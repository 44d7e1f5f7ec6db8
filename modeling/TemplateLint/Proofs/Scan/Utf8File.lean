import TemplateLint.Proofs.Encoding.Utf8
import TemplateLint.Proofs.Scan.Outcome
import TemplateLint.Proofs.Text.Line

/-!
# Scanning a file in UTF-8

A file that is there and may be read is scanned with the default settings exactly when its bytes
are well-formed UTF-8 as a whole, however the chunks in which it is read cut its characters and
lines. The result is that of its text, decoded at once and cut after every line feed. Bytes that
are malformed anywhere, also behind any number of well-formed ones, leave no result.
-/

namespace TemplateLint

open Encoding (Codec)
open Encoding.Utf8 (WellFormed encodeChar wellFormed_iff_exists_encode)

/-- A file that holds a text in UTF-8 is scanned line by line. -/
theorem scanFile_encode_utf8 {fs : FileSystem} {settings : Settings} {path : Path} {text : Text}
    (hsettings : settings.encoding = .text (.plain .utf8))
    (hfs : fs path = .present (.regular (text.flatMap encodeChar)) true) :
    scanFile fs settings path = .ok (scanLines text.lines) := by
  rw [scanFile_regular settings hfs hsettings, Codec.decode_utf8_eq_ok_iff.mpr rfl]

/-- A scan with the default settings succeeds exactly on well-formed UTF-8; then it is the scan of
the text decoded at once and cut after every line feed and nowhere else, and otherwise it fails to
read the file because of malformed bytes. -/
theorem scanFile_default_utf8 (fs : FileSystem) (path : Path) (bytes : List UInt8)
    (hfs : fs path = .present (.regular bytes) true) :
    ((∃ r, scanFile fs {} path = .ok r) ↔ WellFormed bytes) ∧
    (WellFormed bytes → ∃ text ls,
      (Codec.plain .utf8).decodeWhole bytes = .ok text ∧ text.flatMap encodeChar = bytes ∧
      text.IsCut ls ∧ scanFile fs {} path = .ok (scanLines ls) ∧
      (scanLines ls).lines =
        text.count '\n' + if text ≠ [] ∧ text.getLast? ≠ some '\n' then 1 else 0) ∧
    (¬ WellFormed bytes → ∃ place,
      scanFile fs {} path = .error (.readFailed path (.malformed .utf8 place))) := by
  have hscan := scanFile_regular {} hfs rfl
  rw [wellFormed_iff_exists_encode]
  cases hd : (Codec.plain .utf8).decode bytes with
  | error fault =>
    rw [hd] at hscan
    have hnone : ¬ ∃ text : Text, text.flatMap encodeChar = bytes := by
      rintro ⟨text, ht⟩
      have hok := Codec.decode_utf8_eq_ok_iff.mpr ht
      rw [hd] at hok
      cases hok
    obtain ⟨place, rfl⟩ := Codec.fault_of_decodeChunks_plain hd
    refine ⟨⟨?_, fun h => absurd h hnone⟩, fun h => absurd h hnone, fun _ => ⟨place, hscan⟩⟩
    rintro ⟨r, hr⟩
    rw [hscan] at hr
    cases hr
  | ok text =>
    rw [hd] at hscan
    have ht := Codec.decode_utf8_eq_ok_iff.mp hd
    have hwhole := Codec.decodeWhole_utf8_eq_ok_iff.mpr ht
    have hcut : text.IsCut text.lines := Text.isCut_iff.mpr rfl
    have hlines : (scanLines text.lines).lines =
        text.count '\n' + if text ≠ [] ∧ text.getLast? ≠ some '\n' then 1 else 0 := by
      rw [scanLines, Text.length_lines]
      split <;> rfl
    refine ⟨⟨fun _ => ⟨text, ht⟩, fun _ => ⟨_, hscan⟩⟩, ?_, fun h => absurd ⟨text, ht⟩ h⟩
    intro _
    exact ⟨text, text.lines, hwhole, ht, hcut, hscan, hlines⟩

/-- A character that begins with the last byte of a chunk is read as if the file came at once. -/
theorem scanFile_default_utf8_across_chunks :
    ∃ r, scanFile (fun _ => .present (.regular (List.replicate 8191 0x61 ++ [0xC3, 0xA9])) true) {}
      (Path.ofText "form.erb".toList) = .ok r := by
  refine (scanFile_default_utf8 _ _ (List.replicate 8191 0x61 ++ [0xC3, 0xA9]) rfl).1.mpr ?_
  rw [wellFormed_iff_exists_encode]
  refine ⟨List.replicate 8191 'a' ++ ['é'], ?_⟩
  have ha : encodeChar 'a' = [0x61] := by decide
  have he : encodeChar 'é' = [0xC3, 0xA9] := by decide
  rw [List.flatMap_append, List.flatMap_replicate, ha, List.flatten_replicate_singleton,
    List.flatMap_singleton, he]

end TemplateLint
