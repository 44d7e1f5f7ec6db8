import TemplateLint.File.Path
import TemplateLint.Proofs.Basic

/-!
# The normal spelling of a path

The parts of a path that is read off a text are names without a slash, none of them empty or a
single point (`IsNormal`). Such a path is read back from its spelling, whatever its root. So a text
and the normal spelling of its path stand for the same path, and the normal spelling is its own.
-/

namespace TemplateLint

namespace Text

/-- The pieces of a text between the occurrences of a character are those of the library. -/
theorem splitOnChar_eq_splitOn (separator : Char) (s : Text) :
    s.splitOnChar separator = s.splitOn separator := by
  rw [List.splitOn_eq_splitOnP]
  fun_induction splitOnChar separator s with
  | case1 => rfl
  | case2 s ih => simp [List.splitOnP_cons_eq_if_modifyHead, ih]
  | case3 c s hc hs ih => exact absurd (ih.symm.trans hs) (List.splitOnP_ne_nil _ s)
  | case4 c s hc piece pieces hs ih =>
    rw [hs] at ih
    simp [List.splitOnP_cons_eq_if_modifyHead, hc, ← ih]

/-- No piece holds the character that the text is split at. -/
theorem not_mem_of_mem_splitOnChar {separator : Char} {s piece : Text}
    (h : piece ∈ s.splitOnChar separator) : separator ∉ piece := by
  fun_induction splitOnChar separator s generalizing piece with
  | case1 =>
    rw [List.mem_singleton.mp h]
    exact List.not_mem_nil
  | case2 s ih =>
    rcases List.mem_cons.mp h with rfl | h
    · exact List.not_mem_nil
    · exact ih h
  | case3 c s hc hs ih =>
    rw [List.mem_singleton.mp h, List.mem_singleton]
    exact Ne.symm hc
  | case4 c s hc first pieces hs ih =>
    rw [hs] at ih
    rcases List.mem_cons.mp h with rfl | h
    · exact List.not_mem_cons_of_ne_of_not_mem (Ne.symm hc) (ih List.mem_cons_self)
    · exact ih (List.mem_cons_of_mem first h)

/-- Any other character stands in the text if it stands in one of the pieces. -/
theorem mem_iff_exists_mem_splitOnChar {separator c : Char} (hc : c ≠ separator) (s : Text) :
    c ∈ s ↔ ∃ piece ∈ s.splitOnChar separator, c ∈ piece := by
  fun_induction splitOnChar separator s with
  | case1 => simp
  | case2 s ih => simp [hc, ih]
  | case3 d s hd hs ih => simp_all
  | case4 d s hd first pieces hs ih =>
    rw [hs] at ih
    simp only [List.mem_cons, ih, exists_eq_or_imp, or_assoc]

end Text

namespace Path

/-- A path whose parts are names: they hold no slash, and none is empty or a single point. -/
structure IsNormal (p : Path) : Prop where
  isPart : ∀ part ∈ p.parts, Path.isPart part = true
  slash_not_mem : ∀ part ∈ p.parts, '/' ∉ part

/-- A part names something unless it is empty or a single point. -/
theorem isPart_iff {part : Text} : isPart part = true ↔ part ≠ [] ∧ part ≠ ['.'] := by
  simp [isPart]

/-- A path that is read off a text has names for its parts. -/
theorem isNormal_ofText (s : Text) : (ofText s).IsNormal where
  isPart _ h := (List.mem_filter.mp h).2
  slash_not_mem _ h := Text.not_mem_of_mem_splitOnChar (List.mem_filter.mp h).1

/-- A path with parts is spelled as its root and the parts between slashes. -/
theorem toText_of_ne_nil {root : Root} {parts : List Text} (h : parts ≠ []) :
    toText ⟨root, parts⟩ = root.text ++ ['/'].intercalate parts := by
  obtain ⟨first, rest, rfl⟩ := List.exists_cons_of_ne_nil h
  cases root with
  | relative => rfl
  | slash => rfl
  | doubleSlash => rfl

/-- The slashes of a root are told from a text behind them that does not start with a slash. -/
theorem root_ofText_append (root : Root) {c : Char} (hc : c ≠ '/') (s : Text) :
    (ofText (root.text ++ c :: s)).root = root := by
  cases root with
  | relative => simp [ofText, Root.text, hc, rootOf]
  | slash => simp [ofText, Root.text, hc, rootOf]
  | doubleSlash => simp [ofText, Root.text, hc, rootOf]

/-- The slashes of a root add no parts. -/
theorem parts_ofText_append (root : Root) (s : Text) :
    (ofText (root.text ++ s)).parts = (ofText s).parts := by
  cases root with
  | relative => rfl
  | slash => simp [ofText, Root.text, Text.splitOnChar, isPart]
  | doubleSlash => simp [ofText, Root.text, Text.splitOnChar, isPart]

/-- Names that are joined by slashes are read back as parts. -/
theorem parts_ofText_intercalate {parts : List Text} (hne : parts ≠ [])
    (hpart : ∀ part ∈ parts, isPart part = true) (hslash : ∀ part ∈ parts, '/' ∉ part) :
    (ofText (['/'].intercalate parts)).parts = parts := by
  have hsplit : Text.splitOnChar '/' (['/'].intercalate parts) = parts := by
    rw [Text.splitOnChar_eq_splitOn, List.splitOn_intercalate '/' hslash hne]
  rw [ofText, hsplit, List.filter_eq_self.mpr hpart]

/-- A path with names for its parts is read back from its spelling. -/
theorem ofText_toText {p : Path} (h : p.IsNormal) : ofText p.toText = p := by
  obtain ⟨root, parts⟩ := p
  by_cases hne : parts = []
  · -- Without parts there are three spellings: a point, a slash and two slashes.
    subst hne
    cases root with
    | relative => rfl
    | slash => rfl
    | doubleSlash => rfl
  · have hparts : (ofText (toText ⟨root, parts⟩)).parts = parts := by
      rw [toText_of_ne_nil hne, parts_ofText_append,
        parts_ofText_intercalate hne h.isPart h.slash_not_mem]
    have hroot : (ofText (toText ⟨root, parts⟩)).root = root := by
      obtain ⟨first, rest, rfl⟩ := List.exists_cons_of_ne_nil hne
      -- The first name starts with a character, which is no slash.
      have hfirst := (isPart_iff.mp (h.isPart first List.mem_cons_self)).1
      obtain ⟨c, name, rfl⟩ := List.exists_cons_of_ne_nil hfirst
      have hc : '/' ≠ c := List.ne_of_not_mem_cons (h.slash_not_mem _ List.mem_cons_self)
      obtain ⟨s, hs⟩ : ∃ s, ['/'].intercalate ((c :: name) :: rest) = c :: s := by
        cases rest with
        | nil => exact ⟨name, List.intercalate_singleton⟩
        | cons next rest =>
          rw [List.intercalate_cons_cons]
          exact ⟨_, rfl⟩
      rw [toText_of_ne_nil hne, hs, root_ofText_append root (Ne.symm hc)]
    calc ofText (toText ⟨root, parts⟩)
        = ⟨(ofText (toText ⟨root, parts⟩)).root, (ofText (toText ⟨root, parts⟩)).parts⟩ := rfl
      _ = ⟨root, parts⟩ := by rw [hroot, hparts]

/-- A text and the normal spelling of its path stand for the same path. -/
theorem ofText_toText_ofText (s : Text) : ofText (ofText s).toText = ofText s :=
  ofText_toText (isNormal_ofText s)

example : (ofText "//a/.//b/../".toList).toText = "//a/b/..".toList := by decide
example : (ofText "///./".toList).toText = "/".toList := by decide
example : (ofText "".toList).toText = ".".toList := by decide

/-- A character that is neither a slash nor a point stands in a text exactly if it stands in one of
the parts of its path. -/
theorem mem_iff_exists_mem_parts {c : Char} (hslash : c ≠ '/') (hpoint : c ≠ '.') (s : Text) :
    c ∈ s ↔ ∃ part ∈ (ofText s).parts, c ∈ part := by
  rw [Text.mem_iff_exists_mem_splitOnChar hslash]
  constructor
  · rintro ⟨part, hpart, hc⟩
    refine ⟨part, List.mem_filter.mpr ⟨hpart, isPart_iff.mpr ⟨?_, ?_⟩⟩, hc⟩
    · rintro rfl
      cases hc
    · rintro rfl
      exact hpoint (List.mem_singleton.mp hc)
  · rintro ⟨part, hpart, hc⟩
    exact ⟨part, (List.mem_filter.mp hpart).1, hc⟩

/-- The normal spelling holds the same characters, slashes and points apart. -/
theorem mem_toText_ofText_iff {c : Char} (hslash : c ≠ '/') (hpoint : c ≠ '.') (s : Text) :
    c ∈ (ofText s).toText ↔ c ∈ s := by
  rw [mem_iff_exists_mem_parts hslash hpoint, mem_iff_exists_mem_parts hslash hpoint,
    ofText_toText_ofText]

end Path

end TemplateLint
