import TemplateLint.Proofs.Encoding.Mark
import TemplateLint.Proofs.Encoding.Utf8

/-!
# Decoding what was encoded

Every form reads a character that it has written back, whatever bytes follow, and goes on behind it
(`Form.front_encodeChar?`). It is also steady, so a text that was encoded in a form is decoded to
that text however the chunks cut its characters. A signature or a byte order mark at the front of
the first chunk is taken off and changes nothing else (`Codec.decode_of_encode?`).
-/

namespace TemplateLint.Encoding

/-! ### Units of two and four bytes -/

namespace Wide

private theorem value_lowBytes (width n : Nat) :
    (lowBytes width n).foldr (fun b m => m * 0x100 + b.toNat) 0 = n % 0x100 ^ width := by
  induction width generalizing n with
  | zero => simp [lowBytes, Nat.mod_one]
  | succ width ih =>
    rw [lowBytes, List.foldr_cons, ih, Nat.pow_succ', Nat.mod_mul, UInt8.toNat_ofNat']
    omega

/-- The bytes of a unit spell its number in either order. -/
theorem unitValue_unitBytes (order : ByteOrder) (width n : Nat) :
    unitValue order (unitBytes order width n) = n % 0x100 ^ width := by
  cases order with
  | little => exact value_lowBytes width n
  | big =>
    unfold unitValue unitBytes
    rw [List.foldl_reverse]
    exact value_lowBytes width n

private theorem exists_unitBytes_two (order : ByteOrder) {n : Nat} (h : n < 0x10000) :
    ∃ b b', unitBytes order 2 n = [b, b'] ∧ unitValue order [b, b'] = n := by
  obtain ⟨b, b', hb⟩ : ∃ b b', unitBytes order 2 n = [b, b'] := by
    cases order with
    | little => exact ⟨_, _, rfl⟩
    | big => exact ⟨_, _, rfl⟩
  refine ⟨b, b', hb, ?_⟩
  rw [← hb, unitValue_unitBytes]
  omega

private theorem exists_unitBytes_four (order : ByteOrder) {n : Nat} (h : n < 0x110000) :
    ∃ b c d e, unitBytes order 4 n = [b, c, d, e] ∧ unitValue order [b, c, d, e] = n := by
  obtain ⟨b, c, d, e, hb⟩ : ∃ b c d e, unitBytes order 4 n = [b, c, d, e] := by
    cases order with
    | little => exact ⟨_, _, _, _, rfl⟩
    | big => exact ⟨_, _, _, _, rfl⟩
  refine ⟨b, c, d, e, hb, ?_⟩
  rw [← hb, unitValue_unitBytes]
  omega

private theorem front16_encodeChar (order : ByteOrder) (c : Char) :
    ∃ b bs, utf16.encodeChar order c = b :: bs ∧
      ∀ ext, front16 order b (bs ++ ext) = .char c bs.length := by
  have hc : c.toNat < 0xD800 ∨ 0xDFFF < c.toNat ∧ c.toNat < 0x110000 := c.valid
  rw [encodeChar]
  by_cases hlt : c.toNat < 0x10000
  · obtain ⟨b, b', hb, hunit⟩ := exists_unitBytes_two order hlt
    rw [if_pos hlt]
    refine ⟨b, [b'], hb, fun ext => ?_⟩
    simp only [List.singleton_append, front16, hunit]
    rw [if_pos (by omega), Char.ofNat_toNat]
    rfl
  · obtain ⟨b, b', hb, hhigh⟩ :=
      exists_unitBytes_two order (n := 0xD800 + (c.toNat - 0x10000) / 0x400) (by omega)
    obtain ⟨d, d', hd, hlow⟩ :=
      exists_unitBytes_two order (n := 0xDC00 + (c.toNat - 0x10000) % 0x400) (by omega)
    rw [if_neg hlt, hb, hd]
    refine ⟨b, [b', d, d'], rfl, fun ext => ?_⟩
    simp only [List.cons_append, List.nil_append, front16, hhigh, hlow]
    rw [if_neg (by omega), if_neg (by omega), if_pos (by omega)]
    rw [surrogates_spell (Nat.le_of_not_lt hlt), Char.ofNat_toNat]
    rfl

private theorem front32_encodeChar (order : ByteOrder) (c : Char) :
    ∃ b bs, utf32.encodeChar order c = b :: bs ∧
      ∀ ext, front32 order b (bs ++ ext) = .char c bs.length := by
  have hc : c.toNat < 0xD800 ∨ 0xDFFF < c.toNat ∧ c.toNat < 0x110000 := c.valid
  obtain ⟨b, d, e, f, hb, hunit⟩ := exists_unitBytes_four order (n := c.toNat) (by omega)
  refine ⟨b, [d, e, f], hb, fun ext => ?_⟩
  simp only [List.cons_append, List.nil_append, front32, hunit]
  rw [if_neg (by omega), if_neg (by omega), Char.ofNat_toNat]
  rfl

/-- A wide form reads a character back that it has written. -/
theorem front_encodeChar (w : Wide) (order : ByteOrder) (c : Char) :
    ∃ b bs, w.encodeChar order c = b :: bs ∧
      ∀ ext, w.front order b (bs ++ ext) = .char c bs.length := by
  cases w with
  | utf16 => exact front16_encodeChar order c
  | utf32 => exact front32_encodeChar order c

-- Only a high surrogate is judged by the bytes behind its unit, and then by two of them.
private theorem front16_append {order : ByteOrder} {b : UInt8} {bs : List UInt8}
    (h : ∀ more reason, front16 order b bs ≠ .cut more reason) (ext : List UInt8) :
    front16 order b (bs ++ ext) = front16 order b bs := by
  rcases bs with _ | ⟨b', bs⟩
  · exact absurd rfl (h _ _)
  · rw [List.cons_append]
    simp only [front16] at h ⊢
    split
    · rfl
    · next hunit =>
      split
      · rfl
      · next hlow =>
        rcases bs with _ | ⟨c, _ | ⟨c', rest⟩⟩
        · simp [hunit, hlow] at h
        · simp [hunit, hlow] at h
        · rfl

private theorem front32_append {order : ByteOrder} {b : UInt8} {bs : List UInt8}
    (h : ∀ more reason, front32 order b bs ≠ .cut more reason) (ext : List UInt8) :
    front32 order b (bs ++ ext) = front32 order b bs := by
  rcases bs with _ | ⟨c, _ | ⟨d, _ | ⟨e, rest⟩⟩⟩
  · exact absurd rfl (h _ _)
  · exact absurd rfl (h _ _)
  · exact absurd rfl (h _ _)
  · rfl

private theorem front_append {w : Wide} {order : ByteOrder} {b : UInt8} {bs : List UInt8}
    (h : ∀ more reason, w.front order b bs ≠ .cut more reason) (ext : List UInt8) :
    w.front order b (bs ++ ext) = w.front order b bs := by
  cases w with
  | utf16 => exact front16_append h ext
  | utf32 => exact front32_append h ext

private theorem le_length_of_front16 {order : ByteOrder} {b : UInt8} {bs : List UInt8} {c : Char}
    {more : Nat} (h : front16 order b bs = .char c more) : more ≤ bs.length := by
  rcases bs with _ | ⟨b', bs⟩
  · cases h
  · simp only [front16] at h
    split at h
    · obtain ⟨-, rfl⟩ := Front.char.inj h
      simp
    · split at h
      · cases h
      · split at h
        · split at h
          · obtain ⟨-, rfl⟩ := Front.char.inj h
            simp
          · cases h
        · cases h

private theorem le_length_of_front32 {order : ByteOrder} {b : UInt8} {bs : List UInt8} {c : Char}
    {more : Nat} (h : front32 order b bs = .char c more) : more ≤ bs.length := by
  unfold front32 at h
  split at h
  · dsimp only at h
    split at h
    · cases h
    · split at h
      · cases h
      · obtain ⟨-, rfl⟩ := Front.char.inj h
        simp
  · cases h

/-- The wide forms are steady. -/
theorem isSteady_front (w : Wide) (order : ByteOrder) : IsSteady (w.front order) where
  fits h := by
    cases w with
    | utf16 => exact le_length_of_front16 h
    | utf32 => exact le_length_of_front32 h
  char_append ext h := by
    rw [front_append (by simp [h]), h]
  bad_append ext h := by
    rw [front_append (by simp [h]), h]

end Wide

/-! ### Bytes of single-byte encodings -/

namespace SingleByte

/-- A single-byte encoding is steady, since it looks at one byte at a time. -/
theorem isSteady_front (s : SingleByte) : IsSteady s.front where
  fits h := by
    unfold front at h
    split at h
    · obtain ⟨-, rfl⟩ := Front.char.inj h
      exact Nat.zero_le _
    · cases h
  char_append _ h := h
  bad_append _ h := h

/-- A single-byte encoding writes a character exactly if a byte stands for it. -/
theorem encodeChar?_eq_none_iff {s : SingleByte} {c : Char} :
    s.encodeChar? c = none ↔ ∀ n < 0x100, s.codePoint? n ≠ some c.toNat := by
  simp [encodeChar?]

/-- A single-byte encoding reads a character back that it has written. -/
theorem front_encodeChar? {s : SingleByte} {c : Char} {bytes : List UInt8}
    (h : s.encodeChar? c = some bytes) :
    ∃ b, bytes = [b] ∧ ∀ ext, s.front b ext = .char c 0 := by
  obtain ⟨n, hfind, rfl⟩ := Option.map_eq_some_iff.mp h
  have hlt : n < 0x100 := List.mem_range.mp (List.mem_of_find?_eq_some hfind)
  have hcode : s.codePoint? n = some c.toNat := by
    have hbeq := List.find?_some hfind
    exact beq_iff_eq.mp hbeq
  refine ⟨n.toUInt8, rfl, fun ext => ?_⟩
  have hn : n.toUInt8.toNat = n := by
    rw [UInt8.toNat_ofNat']
    omega
  rw [front, hn, hcode]
  simp only [Char.ofNat_toNat]

end SingleByte

/-! ### Forms -/

namespace Form

/-- Every form is steady. -/
theorem isSteady_front (f : Form) : IsSteady f.front := by
  cases f with
  | utf8 => exact Utf8.isSteady_front
  | wide w order => exact w.isSteady_front order
  | single s => exact s.isSteady_front

/-- A form reads a character back that it has written, whatever follows. -/
theorem front_encodeChar? {f : Form} {c : Char} {bytes : List UInt8}
    (h : f.encodeChar? c = some bytes) :
    ∃ b bs, bytes = b :: bs ∧ ∀ ext, f.front b (bs ++ ext) = .char c bs.length := by
  cases f with
  | utf8 =>
    obtain rfl := Option.some.inj h
    obtain ⟨b, bs, he, -⟩ := Utf8.exists_encodeChar_eq c
    exact ⟨b, bs, he, Utf8.front_encodeChar he⟩
  | wide w order =>
    obtain rfl := Option.some.inj h
    exact w.front_encodeChar order c
  | single s =>
    obtain ⟨b, rfl, hfront⟩ := SingleByte.front_encodeChar? h
    exact ⟨b, [], rfl, hfront⟩

/-- A text is encoded character by character. -/
theorem encode?_cons_eq_some_iff {f : Form} {c : Char} {s : Text} {bytes : List UInt8} :
    f.encode? (c :: s) = some bytes ↔
      ∃ front rest, f.encodeChar? c = some front ∧ f.encode? s = some rest ∧
        bytes = front ++ rest := by
  rw [encode?]
  cases f.encodeChar? c with
  | none => simp
  | some front =>
    cases f.encode? s with
    | none => simp
    | some rest => simp [eq_comm]

/-- At once, the bytes of a text are decoded to the text. -/
theorem decodeFrom_of_encode? {f : Form} {text : Text} {bytes : List UInt8}
    (h : f.encode? text = some bytes) (position : Nat) :
    decodeFrom f.front true position bytes = .ok ⟨text, []⟩ := by
  induction text generalizing bytes position with
  | nil =>
    obtain rfl := Option.some.inj h
    exact decodeFrom_nil true position
  | cons c text ih =>
    obtain ⟨front, rest, hfront, hrest, rfl⟩ := encode?_cons_eq_some_iff.mp h
    obtain ⟨b, bs, rfl, hread⟩ := front_encodeChar? hfront
    rw [List.cons_append, decodeFrom_char (hread rest), List.drop_left, ih hrest]
    rfl

/-- A character that a form can write. In a single-byte encoding a byte has to stand for it, in the
other forms there is nothing to ask for. -/
def Represents : Form → Char → Prop
  | .single s, c => ∃ n < 0x100, s.codePoint? n = some c.toNat
  | _, _ => True

private theorem exists_encodeChar?_iff {f : Form} {c : Char} :
    (∃ bytes, f.encodeChar? c = some bytes) ↔ f.Represents c := by
  cases f with
  | utf8 => exact iff_of_true ⟨_, rfl⟩ trivial
  | wide w order => exact iff_of_true ⟨_, rfl⟩ trivial
  | single s =>
    rw [← Option.isSome_iff_exists, Option.isSome_iff_ne_none, encodeChar?, Ne,
      SingleByte.encodeChar?_eq_none_iff]
    simp [Represents]

/-- A text can be encoded exactly when all its characters can be written. -/
theorem exists_encode?_iff {f : Form} {text : Text} :
    (∃ bytes, f.encode? text = some bytes) ↔ ∀ c ∈ text, f.Represents c := by
  induction text with
  | nil => exact iff_of_true ⟨[], rfl⟩ (by simp)
  | cons c text ih =>
    rw [List.forall_mem_cons, ← exists_encodeChar?_iff, ← ih]
    simp only [encode?_cons_eq_some_iff]
    constructor
    · rintro ⟨bytes, front, rest, hfront, hrest, -⟩
      exact ⟨⟨front, hfront⟩, rest, hrest⟩
    · rintro ⟨⟨front, hfront⟩, rest, hrest⟩
      exact ⟨front ++ rest, front, rest, hfront, hrest, rfl⟩

end Form

/-! ### Codecs -/

namespace Codec

/-- A codec that takes something off the front of the first chunk and leaves the rest to a form
decodes a file to what the form decodes the rest of the file to. -/
theorem decodeChunks_of_step {codec : Codec} {f : Form} {position : Nat}
    {chunk rest : List UInt8} {chunks : List (List UInt8)} {text : Text}
    (hstep : codec.step false chunk = f.step false position rest)
    (h : decodeFrom f.front true 0 (rest ++ chunks.flatten) = .ok ⟨text, []⟩) :
    codec.decodeChunks [] (chunk :: chunks) = .ok text := by
  have hplain : (Codec.plain f).decodeChunks [] (rest :: chunks) = .ok text := by
    rw [decodeChunks_plain_eq_ok_iff f.isSteady_front, decodeWhole_plain_eq_ok_iff]
    exact h
  rw [decodeChunks, List.nil_append] at hplain ⊢
  cases hd : decodeFrom f.front false 0 rest with
  | error m =>
    have hfail : (Codec.plain f).step false rest = .error (.malformed f m) :=
      Form.step_eq_error_iff.mpr ⟨m, hd, rfl⟩
    rw [hfail] at hplain
    cases hplain
  | ok d =>
    have hzero : (Codec.plain f).step false rest = .ok ⟨d.text, d.held, .plain f⟩ :=
      Form.step_eq_ok_iff.mpr ⟨d, hd, rfl⟩
    have hmoved : codec.step false chunk = .ok ⟨d.text, d.held, .plain f⟩ :=
      hstep.trans (Form.step_eq_ok_iff.mpr ⟨d, decodeFrom_ok_position hd, rfl⟩)
    rw [hzero] at hplain
    rw [hmoved]
    exact hplain

private theorem step_signed_of_signature {bytes : List UInt8} (h : signature <+: bytes) :
    Codec.signed.step false bytes = Form.utf8.step false 0 (bytes.drop signature.length) := by
  have hlength := h.length_le
  rw [step, signedStep, if_neg (by omega), if_pos (List.isPrefixOf_iff_prefix.mpr h)]

-- The first chunk is long enough for a signature or a mark, so the rest of the file is that of the
-- chunk and the other chunks.
private theorem decode_of_prefix {codec : Codec} {f : Form} {position : Nat}
    {front bytes : List UInt8} {text : Text} (hne : front ≠ []) (hlength : front.length ≤ 8192)
    (hstep : ∀ chunk, front <+: chunk →
      codec.step false chunk = f.step false position (chunk.drop front.length))
    (h : f.encode? text = some bytes) : codec.decode (front ++ bytes) = .ok text := by
  obtain ⟨b, bs, hcons⟩ := List.exists_cons_of_ne_nil (List.append_ne_nil_of_left_ne_nil hne bytes)
  have hfront : front <+: (front ++ bytes).take 8192 :=
    List.prefix_take_iff.mpr ⟨List.prefix_append front bytes, hlength⟩
  have hrest : ((front ++ bytes).take 8192).drop front.length ++ (front ++ bytes).drop 8192 =
      bytes := by
    rw [← List.drop_append_of_le_length hfront.length_le, List.take_append_drop, List.drop_left]
  rw [decode, hcons, chunksOf_cons, ← hcons]
  apply decodeChunks_of_step (hstep _ hfront)
  rw [flatten_chunksOf, hrest]
  exact Form.decodeFrom_of_encode? h 0

/-- A file that holds the encoding of a text is decoded to the text. -/
theorem decode_of_encode? {codec : Codec} {text : Text} {bytes : List UInt8}
    (h : codec.encode? text = some bytes) : codec.decode bytes = .ok text := by
  cases codec with
  | plain f =>
    rw [decode_plain_eq_ok_iff f.isSteady_front, decodeWhole_plain_eq_ok_iff]
    exact Form.decodeFrom_of_encode? h 0
  | signed =>
    obtain ⟨rest, hrest, rfl⟩ := Option.map_eq_some_iff.mp h
    exact decode_of_prefix (by decide) (by decide) (fun _ => step_signed_of_signature) hrest
  | marked w =>
    obtain ⟨rest, hrest, rfl⟩ := Option.map_eq_some_iff.mp h
    have hne : w.mark .little ≠ [] := by
      cases w <;> decide
    have hlength := w.length_mark_le .little
    exact decode_of_prefix hne (by omega) (fun _ => markedStep_of_mark false) hrest

/-- The form of the characters in a file behind the signature or the mark. -/
def form : Codec → Form
  | .plain f => f
  | .signed => .utf8
  | .marked w => .wide w .little

/-- A text that a codec can represent. -/
def Represents (codec : Codec) (text : Text) : Prop := ∀ c ∈ text, codec.form.Represents c

/-- A text can be encoded exactly when the codec can represent it. -/
theorem exists_encode?_iff {codec : Codec} {text : Text} :
    (∃ bytes, codec.encode? text = some bytes) ↔ codec.Represents text := by
  rw [Represents, ← Form.exists_encode?_iff]
  cases codec with
  | plain f => rfl
  | signed => simp [encode?, form]
  | marked w => simp [encode?, form]

end Codec

end TemplateLint.Encoding
