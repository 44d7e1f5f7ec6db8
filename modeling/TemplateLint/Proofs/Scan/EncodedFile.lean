import TemplateLint.Proofs.Encoding.RoundTrip
import TemplateLint.Proofs.Scan.Outcome
import TemplateLint.Proofs.Settings.Build
import TemplateLint.Proofs.Text.Line

/-!
# Scanning a text in any encoding

A scan finds the same in a text whatever text encoding its file is in, as long as the encoding can
represent the text and the settings name it: what the file is decoded to is the text itself.
-/

namespace TemplateLint

open Encoding (Codec)

/-- The text encodings under their names. -/
def textEncodings : List (String × Codec) :=
  [("utf-8", .plain .utf8), ("utf-8-sig", .signed),
   ("utf-16", .marked .utf16), ("utf-16-le", .plain (.wide .utf16 .little)),
   ("utf-16-be", .plain (.wide .utf16 .big)),
   ("utf-32", .marked .utf32), ("utf-32-le", .plain (.wide .utf32 .little)),
   ("utf-32-be", .plain (.wide .utf32 .big)),
   ("latin-1", .plain (.single .latin1)), ("ascii", .plain (.single .ascii)),
   ("cp1252", .plain (.single .windows1252)), ("iso8859-15", .plain (.single .latin9))]

/-- Settings in which nothing but an encoding of a known name is given. -/
theorem Settings.build_encoding {name : Text} {encoding : Encoding} (hne : name ≠ [])
    (hnull : '\x00' ∉ name) (h : Encoding.ofName? name = some encoding) :
    Settings.build [(Settings.encodingSetting, .text name)] =
      .ok { encodingName := name, encoding := encoding } := by
  have hleast : 10 ≤ ({} : Settings).contextWidth := by decide
  have hgreatest : ({} : Settings).contextWidth ≤ 1000 := by decide
  exact Settings.build_eq_ok_iff.mpr ⟨rfl, hne, hnull, h, rfl, hleast, hgreatest, rfl⟩

private theorem ofName?_textEncodings :
    ∀ e ∈ textEncodings, e.1.toList ≠ [] ∧ '\x00' ∉ e.1.toList ∧
      Encoding.ofName? e.1.toList = some (.text e.2) := by
  decide +kernel

/-- The settings that name a text encoding. -/
theorem build_textEncodings {e : String × Codec} (h : e ∈ textEncodings) :
    ∃ settings, Settings.build [(Settings.encodingSetting, .text e.1.toList)] = .ok settings ∧
      settings.encoding = .text e.2 := by
  obtain ⟨hne, hnull, hname⟩ := ofName?_textEncodings e h
  exact ⟨_, Settings.build_encoding hne hnull hname, rfl⟩

/-- A path to a file that holds a text in an encoding, and settings that name the encoding. -/
structure Stores (e : String × Codec) (text : Text) (fs : FileSystem) (settings : Settings)
    (path : Path) : Prop where
  settings_eq : Settings.build [(Settings.encodingSetting, .text e.1.toList)] = .ok settings
  file_eq : ∃ bytes, e.2.encode? text = some bytes ∧ fs path = .present (.regular bytes) true

/-- A stored text is scanned line by line. -/
theorem Stores.scanFile_eq {e : String × Codec} {text : Text} {fs : FileSystem}
    {settings : Settings} {path : Path} (h : Stores e text fs settings path)
    (he : e ∈ textEncodings) : scanFile fs settings path = .ok (scanLines text.lines) := by
  obtain ⟨bytes, hbytes, hfs⟩ := h.file_eq
  obtain ⟨found, hfound, hcodec⟩ := build_textEncodings he
  have hsame : found = settings := Except.ok.inj (hfound.symm.trans h.settings_eq)
  rw [hsame] at hcodec
  rw [scanFile_regular settings hfs hcodec, Encoding.Codec.decode_of_encode? hbytes]

/-- Every text encoding has settings that name it, and bytes for every text that it can represent.
A file of these bytes is scanned, under these settings, as the text cut after every line feed and
nowhere else. So any two encodings that can represent a text give the same result. -/
theorem scanFile_independent_of_encoding (text : Text) :
    (∀ e ∈ textEncodings, e.2.Represents text →
      (∃ settings, Settings.build [(Settings.encodingSetting, .text e.1.toList)] = .ok settings) ∧
        ∃ bytes, e.2.encode? text = some bytes) ∧
    (∃ ls, text.IsCut ls ∧ ∀ e ∈ textEncodings, ∀ fs settings path,
      Stores e text fs settings path → scanFile fs settings path = .ok (scanLines ls)) ∧
    (∀ e ∈ textEncodings, ∀ e' ∈ textEncodings, ∀ fs settings path fs' settings' path',
      Stores e text fs settings path → Stores e' text fs' settings' path' →
        scanFile fs settings path = scanFile fs' settings' path') := by
  refine ⟨?_, ⟨text.lines, Text.isCut_iff.mpr rfl, ?_⟩, ?_⟩
  · intro e he hrepresents
    obtain ⟨settings, hsettings, -⟩ := build_textEncodings he
    exact ⟨⟨settings, hsettings⟩, Encoding.Codec.exists_encode?_iff.mpr hrepresents⟩
  · intro e he fs settings path h
    exact h.scanFile_eq he
  · intro e he e' he' fs settings path fs' settings' path' h h'
    rw [h.scanFile_eq he, h'.scanFile_eq he']

/-- Behind the mark and 4094 letters, a surrogate pair is cut in two by the end of a chunk. -/
theorem scanFile_independent_of_encoding_cut_pair :
    let text : Text := List.replicate 4094 'a' ++ [Char.ofNat 0x1D11E]
    ∃ settings bytes,
      Stores ("utf-16", .marked .utf16) text (fun _ => .present (.regular bytes) true) settings
        (Path.ofText "form.erb".toList) ∧
      scanFile (fun _ => .present (.regular bytes) true) settings
        (Path.ofText "form.erb".toList) = .ok (scanLines [text]) := by
  intro text
  have he : ("utf-16", Codec.marked .utf16) ∈ textEncodings := by decide
  obtain ⟨hstored, ⟨ls, hcut, hscan⟩, -⟩ := scanFile_independent_of_encoding text
  obtain ⟨⟨settings, hsettings⟩, bytes, hbytes⟩ := hstored _ he fun c _ => trivial
  have hstores : Stores ("utf-16", .marked .utf16) text
      (fun _ => .present (.regular bytes) true) settings (Path.ofText "form.erb".toList) :=
    ⟨hsettings, bytes, hbytes, rfl⟩
  have hne : text ≠ [] := List.append_ne_nil_of_right_ne_nil _ (List.cons_ne_nil _ _)
  have hline : '\n' ∉ text := by
    rw [List.mem_append, List.mem_replicate, List.mem_singleton]
    decide
  have hls : ls = [text] := by
    rw [Text.isCut_iff.mp hcut, Text.lines_of_not_mem hline, if_neg hne]
  refine ⟨settings, bytes, hstores, ?_⟩
  rw [hscan _ he _ _ _ hstores, hls]

end TemplateLint
