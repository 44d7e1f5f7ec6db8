import TemplateLint.Proofs.Text.Ascii
import TemplateLint.Style.Sheet
import TemplateLint.Style.Strip

/-!
# Stripping what a sheet shows

Stripping reads a text from left to right, so what it leaves of a piece could depend on what stands
behind the piece. For the pieces that a sheet writes it does not (`StripsTo`): a text without the
escape character stays, and an escape sequence leaves nothing. Pieces that are stripped one by one
are stripped together, so a document that holds no escape character of its own is stripped to its
plain text, whatever the sheet (`Document.strip_render`). Whatever a document holds, neither a sheet
nor stripping adds or takes away a character beyond ASCII.
-/

namespace TemplateLint

namespace Style

/-! ### The front of a text -/

/-- There is nothing to strip of nothing. -/
theorem strip_nil : strip [] = [] := by
  rw [strip]

/-- A character that starts no control sequence stays. -/
theorem strip_cons_of_none {c : Char} {s : Text} (h : afterSequence? (c :: s) = none) :
    strip (c :: s) = c :: strip s := by
  rw [strip]
  split
  · rfl
  · next rest hfound =>
    rw [h] at hfound
    cases hfound

/-- A control sequence at the front is passed over. -/
theorem strip_of_some {s rest : Text} (h : afterSequence? s = some rest) :
    strip s = strip rest := by
  cases s with
  | nil => cases h
  | cons c s =>
    rw [strip]
    split
    · next hfound =>
      rw [h] at hfound
      cases hfound
    · next rest' hfound =>
      rw [h] at hfound
      rw [Option.some.inj hfound]

/-- Only the escape character starts a control sequence. -/
theorem afterSequence?_of_ne {c : Char} (h : c ≠ escape) (s : Text) :
    afterSequence? (c :: s) = none := by
  rw [afterSequence?.eq_def]
  split
  · next e t heq =>
    cases heq
    rw [if_neg h]
  · rfl

private theorem isParameter_of_mem_ofNat {n : Nat} {c : Char} (h : c ∈ Text.ofNat n) :
    isParameter c = true := by
  have hrange := Text.toNat_of_mem_ofNat h
  have hlast : c.toNat ≤ 0x3F := by omega
  simpa [isParameter, Char.le_def, UInt32.le_iff_toNat_le] using And.intro hrange.1 hlast

/-- Numerals and the semicolons between them are parameters. -/
theorem isParameter_of_mem_parameters {codes : List Nat} {c : Char}
    (h : c ∈ [';'].intercalate (codes.map Text.ofNat)) : isParameter c = true := by
  induction codes with
  | nil => cases h
  | cons n codes ih =>
    cases codes with
    | nil =>
      rw [List.map_singleton, List.intercalate_singleton] at h
      exact isParameter_of_mem_ofNat h
    | cons m codes =>
      rw [List.map_cons, List.map_cons, List.intercalate_cons_cons, List.mem_append,
        List.mem_append] at h
      rcases h with (h | h) | h
      · exact isParameter_of_mem_ofNat h
      · rw [List.mem_singleton.mp h]
        decide
      · exact ih h

/-- An escape sequence is read to its end and no further, whatever letters follow it. -/
theorem afterSequence?_escapeSequence (codes : List Nat) (s : Text) :
    afterSequence? (escapeSequence codes ++ s) = some s := by
  have hparameters : ([';'].intercalate (codes.map Text.ofNat) ++ 'm' :: s).dropWhile isParameter =
      'm' :: s := by
    rw [List.dropWhile_append_of_pos fun _ hc => isParameter_of_mem_parameters hc]
    exact List.dropWhile_cons_of_neg (by decide)
  have hintermediate : ('m' :: s).dropWhile isIntermediate = 'm' :: s :=
    List.dropWhile_cons_of_neg (by decide)
  have hfinal : isFinal 'm' = true := by decide
  simp only [escapeSequence, List.cons_append, List.append_assoc, List.nil_append, afterSequence?,
    if_true, hparameters, hintermediate, hfinal]

/-! ### What stripping cannot take away -/

/-- A character that a control sequence can hold: the escape character, or one of the characters
U+0020 to U+007E. -/
def IsControl (c : Char) : Prop := c = escape ∨ 0x20 ≤ c.toNat ∧ c.toNat ≤ 0x7E

private theorem isControl_of_isParameter {c : Char} (h : isParameter c = true) : IsControl c := by
  have hrange : 0x30 ≤ c.toNat ∧ c.toNat ≤ 0x3F := by
    simpa [isParameter, Char.le_def, UInt32.le_iff_toNat_le] using h
  exact .inr (by omega)

private theorem isControl_of_isIntermediate {c : Char} (h : isIntermediate c = true) :
    IsControl c := by
  have hrange : 0x20 ≤ c.toNat ∧ c.toNat ≤ 0x2F := by
    simpa [isIntermediate, Char.le_def, UInt32.le_iff_toNat_le] using h
  exact .inr (by omega)

private theorem isControl_of_isFinal {c : Char} (h : isFinal c = true) : IsControl c := by
  have hrange : 0x40 ≤ c.toNat ∧ c.toNat ≤ 0x7E := by
    simpa [isFinal, Char.le_def, UInt32.le_iff_toNat_le] using h
  exact .inr (by omega)

/-- A control sequence is made of characters that it can hold. -/
theorem exists_append_of_afterSequence? {s rest : Text} (h : afterSequence? s = some rest) :
    ∃ front, s = front ++ rest ∧ ∀ c ∈ front, IsControl c := by
  unfold afterSequence? at h
  split at h
  · next e s =>
    split at h
    · next he =>
      split at h
      · next c rest' hd =>
        split at h
        · next hfinal =>
          obtain rfl := Option.some.inj h
          have hs : s = s.takeWhile isParameter ++
              ((s.dropWhile isParameter).takeWhile isIntermediate ++ c :: rest') := by
            rw [← hd, List.takeWhile_append_dropWhile, List.takeWhile_append_dropWhile]
          refine ⟨e :: '[' :: (s.takeWhile isParameter ++
            ((s.dropWhile isParameter).takeWhile isIntermediate ++ [c])), ?_, ?_⟩
          · simp only [List.cons_append, List.append_assoc, List.nil_append, ← hs]
          · intro d hd
            simp only [List.mem_cons, List.mem_append, List.not_mem_nil, or_false] at hd
            rcases hd with rfl | rfl | hd | hd | rfl
            · exact .inl he
            · exact .inr (by decide)
            · exact isControl_of_isParameter (List.mem_takeWhile_imp hd)
            · exact isControl_of_isIntermediate (List.mem_takeWhile_imp hd)
            · exact isControl_of_isFinal hfinal
        · cases h
      · cases h
    · cases h
  · cases h

/-- Stripping leaves the characters of a class alone that no control sequence can hold. -/
theorem filter_strip {p : Char → Bool} (hp : ∀ c, IsControl c → p c = false) (s : Text) :
    (strip s).filter p = s.filter p := by
  fun_induction strip s with
  | case1 => rfl
  | case2 c t hnone ih =>
    rw [List.filter_cons, List.filter_cons, ih]
  | case3 c t rest hsome ih =>
    obtain ⟨front, hfront, hcontrol⟩ := exists_append_of_afterSequence? hsome
    have hnil : front.filter p = [] := by
      rw [List.filter_eq_nil_iff]
      intro d hd
      rw [hp d (hcontrol d hd)]
      exact Bool.false_ne_true
    rw [ih, hfront, List.filter_append, hnil, List.nil_append]

/-- Nothing beyond ASCII belongs to an escape sequence. -/
theorem beyondAscii_strip (s : Text) : (strip s).beyondAscii = s.beyondAscii := by
  apply filter_strip
  rintro c (rfl | hrange)
  · decide
  · rw [decide_eq_false_iff_not]
    omega

/-- A text with a line feed is never stripped to nothing. -/
theorem strip_ne_nil {s : Text} (h : '\n' ∈ s) : strip s ≠ [] := by
  have hkept : (strip s).filter (· = '\n') = s.filter (· = '\n') := by
    apply filter_strip
    rintro c (rfl | hrange)
    · decide
    · rw [decide_eq_false_iff_not]
      rintro rfl
      exact absurd hrange (by decide)
  intro hnil
  rw [hnil] at hkept
  have hmem : '\n' ∈ s.filter (· = '\n') := by simp [h]
  rw [← hkept] at hmem
  cases hmem

/-! ### Pieces of a text -/

/-- A text that leaves another one when it is stripped, whatever follows it. -/
def StripsTo (s t : Text) : Prop := ∀ rest, strip (s ++ rest) = t ++ strip rest

namespace StripsTo

/-- Nothing leaves nothing. -/
theorem nil : StripsTo [] [] := fun _ => rfl

/-- Pieces are stripped one by one. -/
theorem append {s s' t t' : Text} (h : StripsTo s t) (h' : StripsTo s' t') :
    StripsTo (s ++ s') (t ++ t') := by
  intro rest
  rw [List.append_assoc, h, h', List.append_assoc]

/-- A text with nothing behind it is stripped to what it leaves. -/
theorem strip_eq {s t : Text} (h : StripsTo s t) : strip s = t := by
  have hend := h []
  rwa [strip_nil, List.append_nil, List.append_nil] at hend

end StripsTo

/-- A text without the escape character stays. -/
theorem stripsTo_self {s : Text} (h : escape ∉ s) : StripsTo s s := by
  intro rest
  induction s with
  | nil => rfl
  | cons c s ih =>
    rw [List.mem_cons, not_or] at h
    rw [List.cons_append, strip_cons_of_none (afterSequence?_of_ne (Ne.symm h.1) _), ih h.2,
      List.cons_append]

/-- A text without the escape character has no control sequence to strip. -/
theorem strip_eq_self {s : Text} (h : escape ∉ s) : strip s = s := (stripsTo_self h).strip_eq

/-- An escape sequence leaves nothing. -/
theorem stripsTo_escapeSequence (codes : List Nat) : StripsTo (escapeSequence codes) [] := by
  intro rest
  exact strip_of_some (afterSequence?_escapeSequence codes rest)

private theorem stripsTo_attributes (attributes : List Attribute) :
    StripsTo (attributes.flatMap fun a => escapeSequence a.codes) [] := by
  induction attributes with
  | nil => exact .nil
  | cons a attributes ih => exact (stripsTo_escapeSequence a.codes).append ih

/-- A text in a style is stripped to the text, whatever the style sets. -/
theorem stripsTo_apply (style : Style) {s : Text} (h : escape ∉ s) :
    StripsTo (style.apply s) s := by
  have hreset : StripsTo (if style.resets then escapeSequence [0] else []) [] := by
    split
    · exact stripsTo_escapeSequence [0]
    · exact .nil
  have hstyled := ((stripsTo_attributes style.attributes).append (stripsTo_self h)).append hreset
  rwa [List.nil_append, List.append_nil] at hstyled

end Style

open Style (StripsTo)

/-! ### Documents -/

/-- The plain sheet leaves a fragment as it is. -/
theorem Fragment.render_plain (f : Fragment) : f.render .plain = f.text := by
  unfold Fragment.render
  cases f.label with
  | none => rfl
  | some label => rfl

/-- Whatever sheet shows it, a fragment is stripped to its text. -/
theorem Fragment.stripsTo_render (sheet : Sheet) {f : Fragment} (h : escape ∉ f.text) :
    StripsTo (f.render sheet) f.text := by
  unfold Fragment.render
  cases f.label with
  | none => exact Style.stripsTo_self h
  | some label =>
    simp only [Sheet.paint]
    cases sheet label with
    | none => exact Style.stripsTo_self h
    | some style => exact style.stripsTo_apply h

namespace Document

/-- A line as a sheet shows it is stripped to its plain text. -/
theorem stripsTo_line (sheet : Sheet) {line : List Fragment} (h : ∀ f ∈ line, escape ∉ f.text) :
    StripsTo (line.flatMap (Fragment.render sheet)) (line.flatMap (Fragment.render .plain)) := by
  induction line with
  | nil => exact .nil
  | cons f line ih =>
    rw [List.flatMap_cons, List.flatMap_cons, Fragment.render_plain]
    apply StripsTo.append
    · exact Fragment.stripsTo_render sheet (h f List.mem_cons_self)
    · exact ih fun g hg => h g (List.mem_cons_of_mem f hg)

private theorem stripsTo_render_of_forall (sheet : Sheet) {d : Document}
    (h : ∀ line ∈ d, ∀ f ∈ line, escape ∉ f.text) :
    StripsTo (d.render sheet) (d.render .plain) := by
  -- A line feed stands between two lines only, so the last line is a case of its own.
  unfold render Text.unlines
  induction d with
  | nil => exact .nil
  | cons line d ih =>
    have hline := stripsTo_line sheet (h line List.mem_cons_self)
    cases d with
    | nil =>
      simp only [List.map_cons, List.map_nil, List.intercalate_singleton]
      exact hline
    | cons next d =>
      simp only [List.map_cons, List.intercalate_cons_cons] at ih ⊢
      have hend : StripsTo ['\n'] ['\n'] := Style.stripsTo_self (by decide)
      exact (hline.append hend).append (ih fun l hl => h l (List.mem_cons_of_mem line hl))

private theorem mem_unlines {lines : List Text} {line : Text} {c : Char} (hline : line ∈ lines)
    (hc : c ∈ line) : c ∈ Text.unlines lines := by
  unfold Text.unlines
  induction lines with
  | nil => cases hline
  | cons first lines ih =>
    cases lines with
    | nil =>
      rw [List.mem_singleton.mp hline] at hc
      rwa [List.intercalate_singleton]
    | cons next lines =>
      rw [List.intercalate_cons_cons, List.mem_append, List.mem_append]
      rcases List.mem_cons.mp hline with rfl | hline
      · exact .inl (.inl hc)
      · exact .inr (ih hline)

/-- The plain text of a document holds the texts of its fragments. -/
theorem mem_render_plain {d : Document} {line : List Fragment} {f : Fragment} {c : Char}
    (hline : line ∈ d) (hf : f ∈ line) (hc : c ∈ f.text) : c ∈ d.render .plain := by
  apply mem_unlines (List.mem_map_of_mem hline)
  apply List.mem_flatMap.mpr
  exact ⟨f, hf, by rwa [Fragment.render_plain]⟩

/-- What a sheet shows of a document without the escape character is stripped to its plain text. -/
theorem stripsTo_render (sheet : Sheet) {d : Document} (h : escape ∉ d.render .plain) :
    StripsTo (d.render sheet) (d.render .plain) := by
  apply stripsTo_render_of_forall
  intro line hline f hf hmem
  exact h (mem_render_plain hline hf hmem)

/-- A document without the escape character is stripped to its plain text, whatever the sheet. -/
theorem strip_render (sheet : Sheet) {d : Document} (h : escape ∉ d.render .plain) :
    Style.strip (d.render sheet) = d.render .plain :=
  (stripsTo_render sheet h).strip_eq

end Document

/-! ### Characters beyond ASCII -/

private theorem isAscii_escapeSequence (codes : List Nat) :
    (escapeSequence codes).isAscii = true := by
  have hmarks : escape.toNat < 0x80 ∧ '['.toNat < 0x80 ∧ 'm'.toNat < 0x80 := by decide
  have hparameters : Text.isAscii ([';'].intercalate (codes.map Text.ofNat)) = true := by
    rw [Text.isAscii_iff]
    intro c hc
    rcases Style.isControl_of_isParameter (Style.isParameter_of_mem_parameters hc) with rfl | hrange
    · decide
    · omega
  simp [escapeSequence, hmarks, hparameters]

/-- A style adds nothing beyond ASCII. -/
theorem Style.beyondAscii_apply (style : Style) (s : Text) :
    (style.apply s).beyondAscii = s.beyondAscii := by
  have hsequence : ∀ codes, (escapeSequence codes).beyondAscii = [] := fun codes =>
    Text.beyondAscii_eq_nil_iff.mpr (isAscii_escapeSequence codes)
  have hreset : Text.beyondAscii (if style.resets then escapeSequence [0] else []) = [] := by
    split
    · exact hsequence [0]
    · rfl
  rw [Style.apply, Text.beyondAscii_append, Text.beyondAscii_append, Text.beyondAscii_flatMap,
    hreset]
  simp [hsequence]

/-- A sheet adds nothing beyond ASCII to a fragment. -/
theorem Fragment.beyondAscii_render (sheet : Sheet) (f : Fragment) :
    (f.render sheet).beyondAscii = f.text.beyondAscii := by
  unfold Fragment.render
  cases f.label with
  | none => rfl
  | some label =>
    simp only [Sheet.paint]
    cases sheet label with
    | none => rfl
    | some style => exact style.beyondAscii_apply f.text

/-- What a sheet shows of a document has the characters beyond ASCII of its fragments. -/
theorem Document.beyondAscii_render (sheet : Sheet) (d : Document) :
    (d.render sheet).beyondAscii =
      d.flatMap fun line => line.flatMap fun f => f.text.beyondAscii := by
  rw [Document.render, Text.beyondAscii_unlines, List.flatMap_map]
  simp only [Text.beyondAscii_flatMap, Fragment.beyondAscii_render]

end TemplateLint
