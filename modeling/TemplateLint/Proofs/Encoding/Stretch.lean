import TemplateLint.Encoding.Codec
import TemplateLint.Proofs.Basic

/-!
# Decoding in stretches

How a file is cut into stretches does not decide what it decodes to. The condition on a form is
that what it sees at the front stays what it is when further bytes follow, unless the bytes were
cut short (`IsSteady`). Then a stretch that leaves some bytes over, followed by other bytes, is the
text of the stretch followed by what the bytes left over and the others decode to. Over all
stretches of a file this gives the text that the file decodes to at once. Only the positions in an
error depend on the stretches.
-/

namespace TemplateLint.Encoding

/-- A form that judges a complete character, or bytes that are no character, without regard to
the bytes behind them. -/
structure IsSteady (front : UInt8 → List UInt8 → Front) : Prop where
  /-- a character is made of bytes that are there -/
  fits : ∀ {b bs c more}, front b bs = .char c more → more ≤ bs.length
  char_append : ∀ {b bs c more} (ext : List UInt8), front b bs = .char c more →
    front b (bs ++ ext) = .char c more
  bad_append : ∀ {b bs more reason} (ext : List UInt8), front b bs = .bad more reason →
    front b (bs ++ ext) = .bad more reason

/-- What was decoded behind a text that stands before it. -/
def Decoded.after (text : Text) (d : Decoded) : Decoded := { d with text := text ++ d.text }

section
variable {front : UInt8 → List UInt8 → Front}

/-- Nothing decodes to nothing. -/
theorem decodeFrom_nil (last : Bool) (position : Nat) :
    decodeFrom front last position [] = .ok ⟨[], []⟩ := by
  rw [decodeFrom]

/-- A stretch that starts with a character is decoded to that character and what follows it. -/
theorem decodeFrom_char {last : Bool} {position : Nat} {b : UInt8} {bs : List UInt8} {c : Char}
    {more : Nat} (h : front b bs = .char c more) :
    decodeFrom front last position (b :: bs) =
      (decodeFrom front last (position + more + 1) (bs.drop more)).map (Decoded.cons c) := by
  rw [decodeFrom, h]

/-- A stretch that starts with bytes that are no character is refused. -/
theorem decodeFrom_bad {last : Bool} {position : Nat} {b : UInt8} {bs : List UInt8} {more : Nat}
    {reason : Reason} (h : front b bs = .bad more reason) :
    decodeFrom front last position (b :: bs) = .error ⟨position, b, more + 1, reason⟩ := by
  rw [decodeFrom, h]

/-- Bytes that are cut short are refused by the last stretch, and left over by any other. -/
theorem decodeFrom_cut {last : Bool} {position : Nat} {b : UInt8} {bs : List UInt8} {more : Nat}
    {reason : Reason} (h : front b bs = .cut more reason) :
    decodeFrom front last position (b :: bs) =
      if last then .error ⟨position, b, more + 1, reason⟩ else .ok ⟨[], b :: bs⟩ := by
  rw [decodeFrom, h]

/-- The position of a stretch does not decide what it decodes to. -/
theorem decodeFrom_ok_position {last : Bool} {position other : Nat} {bytes : List UInt8}
    {d : Decoded} (h : decodeFrom front last position bytes = .ok d) :
    decodeFrom front last other bytes = .ok d := by
  fun_induction decodeFrom front last position bytes generalizing other d with
  | case1 position =>
    rw [decodeFrom_nil]
    exact h
  | case2 position b bs c more hf ih =>
    obtain ⟨e, he, rfl⟩ := map_eq_ok_iff.mp h
    rw [decodeFrom_char hf, ih he]
    rfl
  | case3 position b bs more reason hf => cases h
  | case4 position b bs more reason hf hl => cases h
  | case5 position b bs more reason hf hl =>
    rw [decodeFrom_cut hf, if_neg hl]
    exact h

/-- The last stretch leaves nothing over. -/
theorem held_of_decodeFrom_last {position : Nat} {bytes : List UInt8} {d : Decoded}
    (h : decodeFrom front true position bytes = .ok d) : d.held = [] := by
  fun_induction decodeFrom front true position bytes generalizing d with
  | case1 position => exact (Except.ok.inj h) ▸ rfl
  | case2 position b bs c more hf ih =>
    obtain ⟨e, he, rfl⟩ := map_eq_ok_iff.mp h
    have hh : e.held = [] := ih he
    exact hh
  | case3 position b bs more reason hf => cases h
  | case4 position b bs more reason hf hl => cases h
  | case5 position b bs more reason hf hl => exact absurd rfl hl

/-- What is complete as the last stretch is complete as any other. -/
theorem decodeFrom_of_last {position : Nat} {bytes : List UInt8} {d : Decoded}
    (h : decodeFrom front true position bytes = .ok d) :
    decodeFrom front false position bytes = .ok d := by
  fun_induction decodeFrom front true position bytes generalizing d with
  | case1 position =>
    rw [decodeFrom_nil]
    exact h
  | case2 position b bs c more hf ih =>
    obtain ⟨e, he, rfl⟩ := map_eq_ok_iff.mp h
    rw [decodeFrom_char hf, ih he]
    rfl
  | case3 position b bs more reason hf => cases h
  | case4 position b bs more reason hf hl => cases h
  | case5 position b bs more reason hf hl => exact absurd rfl hl

/-- A stretch and the bytes after it decode to the text of the stretch, followed by what the bytes
left over and the bytes after them decode to. -/
theorem decodeFrom_append (hs : IsSteady front) {last : Bool} {position : Nat} (other : Nat)
    {bytes ext : List UInt8} {d e : Decoded} (h : decodeFrom front false position bytes = .ok d) :
    decodeFrom front last position (bytes ++ ext) = .ok e ↔
      ∃ f, decodeFrom front last other (d.held ++ ext) = .ok f ∧ e = f.after d.text := by
  fun_induction decodeFrom front false position bytes generalizing d e with
  | case1 position =>
    obtain rfl := Except.ok.inj h
    constructor
    · intro he
      exact ⟨e, decodeFrom_ok_position he, rfl⟩
    · rintro ⟨f, hf, rfl⟩
      exact decodeFrom_ok_position hf
  | case2 position b bs c more hf ih =>
    obtain ⟨d, hd, rfl⟩ := map_eq_ok_iff.mp h
    rw [List.cons_append, decodeFrom_char (hs.char_append ext hf),
      List.drop_append_of_le_length (hs.fits hf), map_eq_ok_iff]
    constructor
    · rintro ⟨g, hg, rfl⟩
      obtain ⟨f, hf, rfl⟩ := (ih hd).mp hg
      exact ⟨f, hf, rfl⟩
    · rintro ⟨f, hf, rfl⟩
      exact ⟨f.after d.text, (ih hd).mpr ⟨f, hf, rfl⟩, rfl⟩
  | case3 position b bs more reason hf => cases h
  | case4 position b bs more reason hf hl => exact absurd hl Bool.false_ne_true
  | case5 position b bs more reason hf hl =>
    obtain rfl := Except.ok.inj h
    constructor
    · intro he
      exact ⟨e, decodeFrom_ok_position he, rfl⟩
    · rintro ⟨f, hf, rfl⟩
      exact decodeFrom_ok_position hf

/-- A stretch that is refused before the end of a file is refused with whatever follows it. -/
theorem decodeFrom_append_of_error (hs : IsSteady front) {last : Bool} {position other : Nat}
    {bytes : List UInt8} (ext : List UInt8) {m : Malformed}
    (h : decodeFrom front false position bytes = .error m) (d : Decoded) :
    decodeFrom front last other (bytes ++ ext) ≠ .ok d := by
  fun_induction decodeFrom front false position bytes generalizing other d with
  | case1 position => cases h
  | case2 position b bs c more hf ih =>
    rw [List.cons_append, decodeFrom_char (hs.char_append ext hf),
      List.drop_append_of_le_length (hs.fits hf)]
    intro he
    obtain ⟨e, he, -⟩ := map_eq_ok_iff.mp he
    exact ih (map_eq_error_iff.mp h) e he
  | case3 position b bs more reason hf =>
    rw [List.cons_append, decodeFrom_bad (hs.bad_append ext hf)]
    intro he
    cases he
  | case4 position b bs more reason hf hl => exact absurd hl Bool.false_ne_true
  | case5 position b bs more reason hf hl => cases h

end

/-- Chunks hold the bytes of the file in their order. -/
theorem flatten_chunksOf (size : Nat) (bytes : List UInt8) :
    (chunksOf size bytes).flatten = bytes := by
  fun_induction chunksOf size bytes with
  | case1 => rfl
  | case2 b bs ih => rw [List.flatten_cons, ih, List.cons_append, List.take_append_drop]

/-- A stretch decoded in a form leaves the form in place. -/
theorem Form.step_eq_ok_iff {f : Form} {last : Bool} {position : Nat} {bytes : List UInt8}
    {s : Step} :
    f.step last position bytes = .ok s ↔
      ∃ d, decodeFrom f.front last position bytes = .ok d ∧ s = ⟨d.text, d.held, .plain f⟩ := by
  unfold step
  cases decodeFrom f.front last position bytes with
  | error m => simp
  | ok d => simp [eq_comm]

/-- The one fault of a form is that bytes are malformed in it. -/
theorem Form.step_eq_error_iff {f : Form} {last : Bool} {position : Nat} {bytes : List UInt8}
    {fault : Fault} :
    f.step last position bytes = .error fault ↔
      ∃ m, decodeFrom f.front last position bytes = .error m ∧ fault = .malformed f m := by
  unfold step
  cases decodeFrom f.front last position bytes with
  | error m => simp [eq_comm]
  | ok d => simp

namespace Codec

/-- At once, a file is decoded to what its form decodes its bytes to as a last stretch. -/
theorem decodeWhole_plain_eq_ok_iff {f : Form} {bytes : List UInt8} {text : Text} :
    (Codec.plain f).decodeWhole bytes = .ok text ↔
      decodeFrom f.front true 0 bytes = .ok ⟨text, []⟩ := by
  rw [decodeWhole, map_eq_ok_iff]
  constructor
  · rintro ⟨s, hs, rfl⟩
    obtain ⟨d, hd, rfl⟩ := Form.step_eq_ok_iff.mp hs
    have hh := held_of_decodeFrom_last hd
    rw [hd, ← hh]
  · intro h
    exact ⟨⟨text, [], .plain f⟩, Form.step_eq_ok_iff.mpr ⟨_, h, rfl⟩, rfl⟩

/-- However the bytes behind those held back are cut into chunks, they decode to what they decode
to at once. -/
theorem decodeChunks_plain_eq_ok_iff {f : Form} (hs : IsSteady f.front) {held : List UInt8}
    {chunks : List (List UInt8)} {text : Text} :
    (Codec.plain f).decodeChunks held chunks = .ok text ↔
      (Codec.plain f).decodeWhole (held ++ chunks.flatten) = .ok text := by
  induction chunks generalizing held text with
  | nil => rw [decodeChunks, List.flatten_nil, List.append_nil, decodeWhole]
  | cons chunk chunks ih =>
    rw [decodeChunks, List.flatten_cons, ← List.append_assoc, decodeWhole_plain_eq_ok_iff]
    cases hd : decodeFrom f.front false 0 (held ++ chunk) with
    | error m =>
      have hstep : (Codec.plain f).step false (held ++ chunk) = .error (.malformed f m) :=
        Form.step_eq_error_iff.mpr ⟨m, hd, rfl⟩
      rw [hstep]
      constructor
      · intro h
        cases h
      · intro h
        exact absurd h (decodeFrom_append_of_error hs _ hd _)
    | ok d =>
      have hstep : (Codec.plain f).step false (held ++ chunk) = .ok ⟨d.text, d.held, .plain f⟩ :=
        Form.step_eq_ok_iff.mpr ⟨d, hd, rfl⟩
      rw [hstep, decodeFrom_append hs 0 hd]
      simp only [map_eq_ok_iff, ih, decodeWhole_plain_eq_ok_iff]
      constructor
      · rintro ⟨rest, hr, rfl⟩
        exact ⟨⟨rest, []⟩, hr, rfl⟩
      · rintro ⟨e, he, hte⟩
        obtain ⟨rfl, hheld⟩ := Decoded.mk.inj hte
        exact ⟨e.text, by rw [he, hheld], rfl⟩

/-- A file read in chunks decodes to what it decodes to at once. -/
theorem decode_plain_eq_ok_iff {f : Form} (hs : IsSteady f.front) {bytes : List UInt8}
    {text : Text} :
    (Codec.plain f).decode bytes = .ok text ↔ (Codec.plain f).decodeWhole bytes = .ok text := by
  rw [decode, decodeChunks_plain_eq_ok_iff hs, flatten_chunksOf, List.nil_append]

/-- A file that a form cannot decode is malformed in that form. -/
theorem fault_of_decodeChunks_plain {f : Form} {held : List UInt8} {chunks : List (List UInt8)}
    {fault : Fault} (h : (Codec.plain f).decodeChunks held chunks = .error fault) :
    ∃ place, fault = .malformed f place := by
  induction chunks generalizing held with
  | nil =>
    obtain ⟨m, -, hm⟩ := Form.step_eq_error_iff.mp (map_eq_error_iff.mp h)
    exact ⟨m, hm⟩
  | cons chunk chunks ih =>
    rw [decodeChunks] at h
    split at h
    · next fault' hf =>
      obtain ⟨m, -, hm⟩ := Form.step_eq_error_iff.mp hf
      exact ⟨m, (Except.error.inj h).symm.trans hm⟩
    · next s hf =>
      obtain ⟨d, hd, rfl⟩ := Form.step_eq_ok_iff.mp hf
      exact ih (map_eq_error_iff.mp h)

end Codec

end TemplateLint.Encoding
