import Imageboard.Charset.Basic

/-! Decoding UTF-8 undoes encoding.

A character is encoded as a first byte and up to three more, each of which carries six of its bits.
Read in turn they bring out the character and nothing else (`runFrom_encodeChar`), so that
`decode_utf8Bytes` goes through a text character by character. -/
namespace Imageboard.Charset

/-- The UTF-8 bytes of a text. -/
def utf8Bytes (text : String) : List UInt8 := text.toUTF8.data.toList

theorem utf8Bytes_eq (text : String) :
    utf8Bytes text = text.toList.flatMap String.utf8EncodeChar := by
  unfold utf8Bytes String.toUTF8
  rw [← String.utf8Encode_toList, List.utf8Encode, List.data_toByteArray]

namespace Utf8

/-! ### The bytes behind the first

They are read from a sequence whose bits are the upper ones of a number `v`, and they carry the
lower ones. The bounds of a sequence only matter for the byte that comes next. -/

section
variable (v : Nat) {low high : UInt8}

theorem runFrom_one (hlow : low.toNat ≤ v % 64 + 128) (hhigh : v % 64 + 128 ≤ high.toNat) :
    utf8Decoder.runFrom (some ⟨v / 64, 1, low, high⟩) [UInt8.ofNat (v % 64 + 128)] =
      (none, [Char.ofNat v]) := by
  have hb : (UInt8.ofNat (v % 64 + 128)).toNat = v % 64 + 128 :=
    UInt8.toNat_ofNat_of_lt' (by show _ < 256; omega)
  have hbits : v / 64 * 64 + (v % 64 + 128 - 0x80) = v := by omega
  simp only [Decoder.runFrom, utf8Decoder, step, UInt8.le_iff_toNat_le, hb, hbits, hlow, hhigh,
    and_self, if_true, List.append_nil]

/-- A byte that is not the last adds its bits, and any byte may follow it. -/
theorem runFrom_more (missing : Nat) (hlow : low.toNat ≤ v % 64 + 128)
    (hhigh : v % 64 + 128 ≤ high.toNat) (rest : List UInt8) :
    utf8Decoder.runFrom (some ⟨v / 64, missing + 2, low, high⟩)
        (UInt8.ofNat (v % 64 + 128) :: rest) =
      utf8Decoder.runFrom (some ⟨v, missing + 1, 0x80, 0xbf⟩) rest := by
  have hb : (UInt8.ofNat (v % 64 + 128)).toNat = v % 64 + 128 :=
    UInt8.toNat_ofNat_of_lt' (by show _ < 256; omega)
  have hbits : v / 64 * 64 + (v % 64 + 128 - 0x80) = v := by omega
  have hmissing : missing + 2 ≠ 1 := by omega
  simp only [Decoder.runFrom, utf8Decoder, step, UInt8.le_iff_toNat_le, hb, hbits, hlow, hhigh,
    hmissing, and_self, if_true, if_false, List.nil_append, Nat.add_succ_sub_one]

theorem tail_bounds : (0x80 : UInt8).toNat ≤ v % 64 + 128 ∧ v % 64 + 128 ≤ (0xbf : UInt8).toNat := by
  show 128 ≤ v % 64 + 128 ∧ v % 64 + 128 ≤ 191
  omega

theorem runFrom_two (hlow : low.toNat ≤ v / 64 % 64 + 128) (hhigh : v / 64 % 64 + 128 ≤ high.toNat) :
    utf8Decoder.runFrom (some ⟨v / 4096, 2, low, high⟩)
        [UInt8.ofNat (v / 64 % 64 + 128), UInt8.ofNat (v % 64 + 128)] =
      (none, [Char.ofNat v]) := by
  rw [show v / 4096 = v / 64 / 64 by rw [Nat.div_div_eq_div_mul], runFrom_more _ 0 hlow hhigh,
    runFrom_one v (tail_bounds v).1 (tail_bounds v).2]

theorem runFrom_three (hlow : low.toNat ≤ v / 4096 % 64 + 128)
    (hhigh : v / 4096 % 64 + 128 ≤ high.toNat) :
    utf8Decoder.runFrom (some ⟨v / 262144, 3, low, high⟩)
        [UInt8.ofNat (v / 4096 % 64 + 128), UInt8.ofNat (v / 64 % 64 + 128),
          UInt8.ofNat (v % 64 + 128)] =
      (none, [Char.ofNat v]) := by
  rw [show v / 262144 = v / 4096 / 64 by rw [Nat.div_div_eq_div_mul], runFrom_more _ 1 hlow hhigh]
  exact runFrom_two v (tail_bounds _).1 (tail_bounds _).2

end

/-! ### The first byte -/

theorem runFrom_ascii {b : UInt8} (h : b.toNat < 0x80) :
    utf8Decoder.runFrom none [b] = (none, [Char.ofNat b.toNat]) := by
  have hascii : isAscii b = true := by simpa [isAscii, UInt8.lt_iff_toNat_lt] using h
  simp [Decoder.runFrom, utf8Decoder, step, begin, hascii, ascii]

/-- A first byte of several brings out nothing yet. -/
theorem runFrom_lead {b : UInt8} {q : Utf8Sequence} (h : lead? b = some q) (rest : List UInt8) :
    utf8Decoder.runFrom none (b :: rest) = utf8Decoder.runFrom (some q) rest := by
  have hascii : isAscii b = false := by
    have hlow : ¬ b < 0xc2 := by
      intro hlow
      rw [lead?, if_pos hlow] at h
      cases h
    simp only [UInt8.lt_iff_toNat_lt, UInt8.reduceToNat] at hlow
    simp only [isAscii, decide_eq_false_iff_not, UInt8.lt_iff_toNat_lt, UInt8.reduceToNat]
    omega
  simp [Decoder.runFrom, utf8Decoder, step, begin, hascii, h]

section
variable {v : Nat}

theorem lead?_two (hmin : 0x80 ≤ v) (hmax : v < 0x800) :
    lead? (UInt8.ofNat (v / 64 % 32 + 192)) = some ⟨v / 64, 1, 0x80, 0xbf⟩ := by
  have hb : (UInt8.ofNat (v / 64 % 32 + 192)).toNat = v / 64 + 192 := by
    rw [UInt8.toNat_ofNat_of_lt' (by show _ < 256; omega)]
    omega
  unfold lead?
  simp only [UInt8.lt_iff_toNat_lt, hb, UInt8.reduceToNat, Nat.add_sub_cancel]
  rw [if_neg (by omega), if_pos (by omega)]

/-- The bounds of the second byte leave out the numbers that fewer bytes write, and surrogates. -/
theorem lead?_three (hmin : 0x800 ≤ v) (hmax : v < 0x10000)
    (hsurrogate : v < 0xd800 ∨ 0xdfff < v) :
    ∃ low high, lead? (UInt8.ofNat (v / 4096 % 16 + 224)) = some ⟨v / 4096, 2, low, high⟩ ∧
      low.toNat ≤ v / 64 % 64 + 128 ∧ v / 64 % 64 + 128 ≤ high.toNat := by
  have hb : (UInt8.ofNat (v / 4096 % 16 + 224)).toNat = v / 4096 + 224 := by
    rw [UInt8.toNat_ofNat_of_lt' (by show _ < 256; omega)]
    omega
  have hbounds := tail_bounds (v / 64)
  unfold lead?
  simp only [UInt8.lt_iff_toNat_lt, ← UInt8.toNat_inj, hb, UInt8.reduceToNat, Nat.add_sub_cancel]
  rw [if_neg (by omega), if_neg (by omega)]
  split
  · have hbits : v / 4096 = 0 := by omega
    exact ⟨0xa0, 0xbf, by rw [hbits], by show 160 ≤ _; omega, hbounds.2⟩
  · split
    · have hbits : v / 4096 = 13 := by omega
      exact ⟨0x80, 0x9f, by rw [hbits], hbounds.1, by show _ ≤ 159; omega⟩
    · rw [if_pos (by omega)]
      exact ⟨0x80, 0xbf, rfl, hbounds⟩

/-- The bounds of the second byte leave out the numbers that three bytes write, and those that are
no characters. -/
theorem lead?_four (hmin : 0x10000 ≤ v) (hmax : v < 0x110000) :
    ∃ low high, lead? (UInt8.ofNat (v / 262144 % 8 + 240)) = some ⟨v / 262144, 3, low, high⟩ ∧
      low.toNat ≤ v / 4096 % 64 + 128 ∧ v / 4096 % 64 + 128 ≤ high.toNat := by
  have hb : (UInt8.ofNat (v / 262144 % 8 + 240)).toNat = v / 262144 + 240 := by
    rw [UInt8.toNat_ofNat_of_lt' (by show _ < 256; omega)]
    omega
  have hbounds := tail_bounds (v / 4096)
  unfold lead?
  simp only [UInt8.lt_iff_toNat_lt, ← UInt8.toNat_inj, hb, UInt8.reduceToNat, Nat.add_sub_cancel]
  rw [if_neg (by omega), if_neg (by omega), if_neg (by omega), if_neg (by omega),
    if_neg (by omega)]
  split
  · have hbits : v / 262144 = 0 := by omega
    exact ⟨0x90, 0xbf, by rw [hbits], by show 144 ≤ _; omega, hbounds.2⟩
  · split
    · exact ⟨0x80, 0xbf, rfl, hbounds⟩
    · have hbits : v / 262144 = 4 := by omega
      rw [if_pos (by omega)]
      exact ⟨0x80, 0x8f, by rw [hbits], hbounds.1, by show _ ≤ 143; omega⟩

end

/-- The bytes of a character bring out the character, and leave nothing begun. -/
theorem runFrom_encodeChar (c : Char) :
    utf8Decoder.runFrom none (String.utf8EncodeChar c) = (none, [c]) := by
  have hv : Char.ofNat c.val.toNat = c := Char.ofNat_toNat c
  unfold String.utf8EncodeChar
  generalize hn : c.val.toNat = v at hv
  have hvalid : v < 0xd800 ∨ 0xdfff < v ∧ v < 0x110000 := hn ▸ c.valid
  dsimp only
  split
  · have hb : (UInt8.ofNat v).toNat = v := UInt8.toNat_ofNat_of_lt' (by show _ < 256; omega)
    rw [runFrom_ascii (by omega), hb, hv]
  split
  · rw [runFrom_lead (lead?_two (by omega) (by omega)),
      runFrom_one v (tail_bounds v).1 (tail_bounds v).2, hv]
  split
  · obtain ⟨low, high, hlead, hlow, hhigh⟩ :=
      lead?_three (by omega : 0x800 ≤ v) (by omega) (by omega)
    rw [runFrom_lead hlead, runFrom_two v hlow hhigh, hv]
  · obtain ⟨low, high, hlead, hlow, hhigh⟩ := lead?_four (by omega : 0x10000 ≤ v) (by omega)
    rw [runFrom_lead hlead, runFrom_three v hlow hhigh, hv]

end Utf8

/-- What the bytes of some characters bring out comes before what the bytes behind them do. -/
theorem decode_encodeChars_append (s : List Char) (rest : List UInt8) :
    utf8Decoder.decode (s.flatMap String.utf8EncodeChar ++ rest) = s ++ utf8Decoder.decode rest := by
  induction s with
  | nil => rfl
  | cons c s ih =>
    have hfirst := Utf8.runFrom_encodeChar c
    unfold Decoder.decode at ih ⊢
    rw [List.flatMap_cons, List.append_assoc, Decoder.decodeFrom_append]
    rw [show utf8Decoder.start = none from rfl] at ih ⊢
    rw [hfirst, ih]
    rfl

/-- **Decoding undoes encoding**, whatever the text is. -/
theorem decode_utf8Bytes (text : String) :
    Charset.utf8.decode (utf8Bytes text) = text.toList := by
  have hdecode := decode_encodeChars_append text.toList []
  rw [List.append_nil, ← utf8Bytes_eq] at hdecode
  rw [decode, hdecode]
  exact List.append_nil _

end Imageboard.Charset
