import TemplateLint.Proofs.Encoding.Stretch

/-!
# Byte order marks and signatures

The only codecs that can miss something at the front of a file are those with a byte order mark. A
file lacks its mark exactly when it starts with neither form of it and the first chunk, read as
little-endian, holds a character and nothing malformed (`IsUnmarked`). A file without a mark that is
too short for a character, or malformed in its first chunk, is malformed like any other.
-/

namespace TemplateLint.Encoding

namespace Wide

/-- A file without a byte order mark whose first chunk reads as little-endian text. -/
def IsUnmarked (w : Wide) (bytes : List UInt8) : Prop :=
  ¬ w.mark .little <+: bytes ∧ ¬ w.mark .big <+: bytes ∧
    ∃ d, decodeFrom (w.front .little) false 0 (bytes.take 8192) = .ok d ∧ d.text ≠ []

/-- A byte order mark takes up to four bytes. -/
theorem length_mark_le (w : Wide) (order : ByteOrder) : (w.mark order).length ≤ 4 := by
  cases w <;> cases order <;> decide

private theorem length_le_of_front16_cut {order : ByteOrder} {b : UInt8} {bs : List UInt8}
    {more : Nat} {reason : Reason} (h : front16 order b bs = .cut more reason) : bs.length < 3 := by
  rcases bs with _ | ⟨b', _ | ⟨c, _ | ⟨c', rest⟩⟩⟩
  · simp
  · simp
  · simp
  · simp only [front16] at h
    split at h
    · cases h
    · split at h
      · cases h
      · split at h <;> cases h

private theorem length_le_of_front32_cut {order : ByteOrder} {b : UInt8} {bs : List UInt8}
    {more : Nat} {reason : Reason} (h : front32 order b bs = .cut more reason) : bs.length < 3 := by
  rcases bs with _ | ⟨c, _ | ⟨d, _ | ⟨e, rest⟩⟩⟩
  · simp
  · simp
  · simp
  · simp only [front32] at h
    split at h
    · cases h
    · split at h <;> cases h

/-- Only fewer than four bytes can be cut short. -/
theorem length_lt_of_front_cut {w : Wide} {order : ByteOrder} {b : UInt8} {bs : List UInt8}
    {more : Nat} {reason : Reason} (h : w.front order b bs = .cut more reason) :
    (b :: bs).length < 4 := by
  rw [List.length_cons]
  apply Nat.succ_lt_succ
  cases w with
  | utf16 => exact length_le_of_front16_cut h
  | utf32 => exact length_le_of_front32_cut h

end Wide

/-- A stretch in a wide form that gives no character is left over, and too short for one. -/
theorem Wide.held_of_text_eq_nil {w : Wide} {order : ByteOrder} {last : Bool} {position : Nat}
    {bytes : List UInt8} {d : Decoded}
    (h : decodeFrom (w.front order) last position bytes = .ok d) (ht : d.text = []) :
    d.held = bytes ∧ bytes.length < 4 := by
  cases bytes with
  | nil =>
    rw [decodeFrom_nil] at h
    obtain rfl := Except.ok.inj h
    exact ⟨rfl, Nat.zero_lt_succ _⟩
  | cons b bs =>
    cases hf : w.front order b bs with
    | char c more =>
      rw [decodeFrom_char hf] at h
      obtain ⟨e, -, rfl⟩ := map_eq_ok_iff.mp h
      cases ht
    | bad more reason =>
      rw [decodeFrom_bad hf] at h
      cases h
    | cut more reason =>
      rw [decodeFrom_cut hf] at h
      cases last with
      | true => cases h
      | false =>
        obtain rfl := Except.ok.inj h
        exact ⟨rfl, length_lt_of_front_cut hf⟩

/-! ### One stretch -/

private theorem not_mark_little_of_mark_big {w : Wide} {bytes : List UInt8}
    (h : w.mark .big <+: bytes) : ¬ w.mark .little <+: bytes := by
  intro hlittle
  have hlength : (w.mark .little).length = (w.mark .big).length := by cases w <;> rfl
  have hprefix := List.prefix_of_prefix_length_le hlittle h (Nat.le_of_eq hlength)
  have heq := hprefix.eq_of_length hlength
  cases w <;> exact absurd heq (by decide)

/-- A stretch behind a mark is decoded in the byte order of the mark. -/
theorem markedStep_of_mark {w : Wide} {order : ByteOrder} {bytes : List UInt8} (last : Bool)
    (h : w.mark order <+: bytes) :
    markedStep w last bytes =
      (Form.wide w order).step last (w.mark order).length (bytes.drop (w.mark order).length) := by
  cases order with
  | little => rw [markedStep, if_pos (List.isPrefixOf_iff_prefix.mpr h)]
  | big =>
    rw [markedStep, if_neg (mt List.isPrefixOf_iff_prefix.mp (not_mark_little_of_mark_big h)),
      if_pos (List.isPrefixOf_iff_prefix.mpr h)]

/-- A stretch without a mark is decoded as little-endian as long as it gives no character. -/
theorem markedStep_of_not_mark {w : Wide} {bytes : List UInt8} (last : Bool)
    (hlittle : ¬ w.mark .little <+: bytes) (hbig : ¬ w.mark .big <+: bytes) :
    markedStep w last bytes =
      match decodeFrom (w.front .little) last 0 bytes with
      | .error m => .error (.malformed (.wide w .little) m)
      | .ok d => if d.text = [] then .ok ⟨[], d.held, .marked w⟩ else .error (.unmarked w) := by
  rw [markedStep, if_neg (mt List.isPrefixOf_iff_prefix.mp hlittle),
    if_neg (mt List.isPrefixOf_iff_prefix.mp hbig), Form.step]
  cases hd : decodeFrom (w.front .little) last 0 bytes with
  | error m => rw [Form.front, hd]
  | ok d =>
    obtain ⟨text, held⟩ := d
    rw [Form.front, hd]
    cases text with
    | nil => rfl
    | cons c text => rfl

/-- A stretch lacks its mark exactly when it starts with none and gives characters without one. -/
theorem markedStep_eq_unmarked_iff {w v : Wide} {last : Bool} {bytes : List UInt8} :
    markedStep w last bytes = .error (.unmarked v) ↔
      v = w ∧ ¬ w.mark .little <+: bytes ∧ ¬ w.mark .big <+: bytes ∧
        ∃ d, decodeFrom (w.front .little) last 0 bytes = .ok d ∧ d.text ≠ [] := by
  have hform : ∀ {order position other}, (Form.wide w order).step last position other ≠
      .error (.unmarked v) := by
    intro order position other h
    obtain ⟨m, -, hm⟩ := Form.step_eq_error_iff.mp h
    cases hm
  by_cases hlittle : w.mark .little <+: bytes
  · simp [markedStep_of_mark last hlittle, hform, hlittle]
  · by_cases hbig : w.mark .big <+: bytes
    · simp [markedStep_of_mark last hbig, hform, hbig]
    · rw [markedStep_of_not_mark last hlittle hbig]
      cases decodeFrom (w.front .little) last 0 bytes with
      | error m => simp
      | ok d =>
        by_cases ht : d.text = []
        · simp [ht]
        · simp [ht, hlittle, hbig, eq_comm]

/-- A stretch that leaves the mark to be read gives no character and is too short for one. -/
theorem codec_of_markedStep_eq_ok {w : Wide} {last : Bool} {bytes : List UInt8} {s : Step}
    (h : markedStep w last bytes = .ok s) :
    (∃ f, s.codec = .plain f) ∨ s = ⟨[], bytes, .marked w⟩ ∧ bytes.length < 4 := by
  have hform : ∀ {order position other},
      (Form.wide w order).step last position other = .ok s → ∃ f, s.codec = .plain f := by
    intro order position other h
    obtain ⟨d, -, rfl⟩ := Form.step_eq_ok_iff.mp h
    exact ⟨_, rfl⟩
  by_cases hlittle : w.mark .little <+: bytes
  · exact .inl (hform (markedStep_of_mark last hlittle ▸ h))
  · by_cases hbig : w.mark .big <+: bytes
    · exact .inl (hform (markedStep_of_mark last hbig ▸ h))
    · right
      rw [markedStep_of_not_mark last hlittle hbig] at h
      cases hd : decodeFrom (w.front .little) last 0 bytes with
      | error m =>
        rw [hd] at h
        cases h
      | ok d =>
        rw [hd] at h
        dsimp only at h
        split at h
        · next ht =>
          obtain rfl := Except.ok.inj h
          obtain ⟨hheld, hlt⟩ := Wide.held_of_text_eq_nil hd ht
          exact ⟨by rw [hheld], hlt⟩
        · cases h

/-! ### Whole files -/

/-- The first chunk of a file is its first 8192 bytes. -/
theorem chunksOf_cons (b : UInt8) (bs : List UInt8) :
    chunksOf 8191 (b :: bs) =
      (b :: bs).take 8192 :: chunksOf 8191 ((b :: bs).drop 8192) := by
  rw [chunksOf]
  rfl

private theorem mark_prefix_take_iff {w : Wide} {order : ByteOrder} {bytes : List UInt8} :
    w.mark order <+: bytes.take 8192 ↔ w.mark order <+: bytes := by
  have hle := w.length_mark_le order
  rw [List.prefix_take_iff]
  exact ⟨And.left, fun h => ⟨h, by omega⟩⟩

private theorem isUnmarked_iff_markedStep {w v : Wide} {bytes : List UInt8} :
    markedStep w false (bytes.take 8192) = .error (.unmarked v) ↔ v = w ∧ w.IsUnmarked bytes := by
  rw [markedStep_eq_unmarked_iff, mark_prefix_take_iff, mark_prefix_take_iff, Wide.IsUnmarked]

namespace Codec

private theorem step_signed_cases (last : Bool) (bytes : List UInt8) :
    Codec.signed.step last bytes = .ok ⟨[], bytes, .signed⟩ ∨
      ∃ rest, Codec.signed.step last bytes = Form.utf8.step last 0 rest := by
  rw [step, signedStep]
  split
  · exact .inl rfl
  · split
    · exact .inr ⟨_, rfl⟩
    · exact .inr ⟨_, rfl⟩

/-- A file that cannot be decoded behind an optional signature is malformed. -/
theorem fault_of_decodeChunks_signed {held : List UInt8} {chunks : List (List UInt8)}
    {fault : Fault} (h : Codec.signed.decodeChunks held chunks = .error fault) :
    ∃ place, fault = .malformed .utf8 place := by
  induction chunks generalizing held with
  | nil =>
    rw [decodeChunks, map_eq_error_iff] at h
    rcases step_signed_cases true held with hs | ⟨rest, hs⟩
    · rw [hs] at h
      cases h
    · rw [hs] at h
      obtain ⟨m, -, hm⟩ := Form.step_eq_error_iff.mp h
      exact ⟨m, hm⟩
  | cons chunk chunks ih =>
    rw [decodeChunks] at h
    rcases step_signed_cases false (held ++ chunk) with hs | ⟨rest, hs⟩
    · rw [hs] at h
      exact ih (map_eq_error_iff.mp h)
    · rw [hs] at h
      split at h
      · next hf =>
        obtain rfl := Except.error.inj h
        obtain ⟨m, -, hm⟩ := Form.step_eq_error_iff.mp hf
        exact ⟨m, hm⟩
      · next s hf =>
        obtain ⟨d, -, rfl⟩ := Form.step_eq_ok_iff.mp hf
        exact fault_of_decodeChunks_plain (map_eq_error_iff.mp h)

/-- A file that needs a byte order mark is refused for lack of it exactly when it is unmarked. -/
theorem decode_marked_eq_unmarked_iff {w v : Wide} {bytes : List UInt8} :
    (Codec.marked w).decode bytes = .error (.unmarked v) ↔ v = w ∧ w.IsUnmarked bytes := by
  rw [decode]
  cases bytes with
  | nil =>
    rw [chunksOf, decodeChunks, map_eq_error_iff, step, markedStep_eq_unmarked_iff, Wide.IsUnmarked,
      List.take_nil, decodeFrom_nil, decodeFrom_nil]
  | cons b bs =>
    rw [chunksOf_cons, decodeChunks, List.nil_append, step, ← isUnmarked_iff_markedStep]
    cases hstep : markedStep w false ((b :: bs).take 8192) with
    | error fault => simp only [Except.error.injEq]
    | ok s =>
      simp only [map_eq_error_iff, reduceCtorEq, iff_false]
      intro h
      rcases codec_of_markedStep_eq_ok hstep with ⟨f, hf⟩ | ⟨rfl, hlt⟩
      · rw [hf] at h
        obtain ⟨place, hplace⟩ := fault_of_decodeChunks_plain h
        cases hplace
      · -- The file ends with its first chunk, and its last stretch is that chunk again.
        have hend : (b :: bs).drop 8192 = [] := by
          rw [List.length_take] at hlt
          apply List.drop_eq_nil_of_le
          omega
        rw [hend, chunksOf, decodeChunks, map_eq_error_iff, step, markedStep_eq_unmarked_iff] at h
        obtain ⟨hv, hlittle, hbig, d, hd, ht⟩ := h
        have hfalse := markedStep_eq_unmarked_iff.mpr
          ⟨hv, hlittle, hbig, d, decodeFrom_of_last hd, ht⟩
        rw [hstep] at hfalse
        cases hfalse

/-- Only a codec with a byte order mark refuses a file for lack of it. -/
theorem decode_eq_unmarked_iff {codec : Codec} {v : Wide} {bytes : List UInt8} :
    codec.decode bytes = .error (.unmarked v) ↔ codec = .marked v ∧ v.IsUnmarked bytes := by
  cases codec with
  | plain f =>
    simp only [reduceCtorEq, false_and, iff_false]
    intro h
    obtain ⟨place, hplace⟩ := fault_of_decodeChunks_plain h
    cases hplace
  | signed =>
    simp only [reduceCtorEq, false_and, iff_false]
    intro h
    obtain ⟨place, hplace⟩ := fault_of_decodeChunks_signed h
    cases hplace
  | marked w =>
    rw [decode_marked_eq_unmarked_iff, Codec.marked.injEq]
    constructor
    · rintro ⟨rfl, h⟩
      exact ⟨rfl, h⟩
    · rintro ⟨rfl, h⟩
      exact ⟨rfl, h⟩

end Codec

end TemplateLint.Encoding
