import Imageboard.Charset.Basic

/-! What the charsets do to markup.

A page in a charset of several bytes may hold bytes that write nothing, and a lead may stand in front
of a tag. `decode_at_markup`: in every charset that builds on ASCII, the bytes that markup is made of
write their characters wherever they stand, and what follows them is read as if it began the page. So
no broken character hides a tag.

A decoder owes three facts for it, gathered in `Settles`. -/
namespace Imageboard

/-! ### Decoders -/

namespace Decoder
open Charset

/-- What a decoder owes so that the byte `b` writes its character wherever it stands. -/
structure Settles (d : Decoder σ) (Inv : σ → Prop) (b : UInt8) : Prop where
  initial : Inv d.start
  preserved : ∀ s c, Inv s → Inv (d.step s c).1
  /-- Whatever was begun before the byte is given up. -/
  settles : ∀ s, Inv s → ∃ text, d.step s b = (d.start, text ++ [ascii b])

variable {d : Decoder σ} {Inv : σ → Prop} {b : UInt8}

theorem Settles.runFrom (h : d.Settles Inv b) {s : σ} (hs : Inv s) (before : List UInt8) :
    Inv (d.runFrom s before).1 := by
  induction before generalizing s with
  | nil => exact hs
  | cons c before ih => exact ih (h.preserved s c hs)

/-- The text behind the byte does not depend on what stood before it. -/
theorem Settles.decode (h : d.Settles Inv b) (before : List UInt8) :
    ∃ text, ∀ rest, d.decode (before ++ b :: rest) = text ++ ascii b :: d.decode rest := by
  obtain ⟨text, hstep⟩ := h.settles _ (h.runFrom h.initial before)
  refine ⟨(d.runFrom d.start before).2 ++ text, fun rest => ?_⟩
  calc d.decode (before ++ b :: rest)
      = (d.runFrom d.start before).2 ++ d.decodeFrom (d.runFrom d.start before).1 (b :: rest) :=
        d.decodeFrom_append ..
    _ = (d.runFrom d.start before).2 ++ (text ++ [ascii b] ++ d.decode rest) := by
        rw [decodeFrom, hstep, Decoder.decode]
    _ = _ := by simp only [List.append_assoc, List.singleton_append]

end Decoder

/-! ### The bytes of markup -/

namespace Charset

/-- The bytes below the letters, but for the digits, of which gb18030 makes characters. -/
def isMarkup (b : UInt8) : Bool := b < 0x40 && !isBetween 0x30 0x39 b

section
variable {b : UInt8}

theorem lt_of_isMarkup (hb : isMarkup b = true) : b.toNat < 0x40 := by
  simp only [isMarkup, Bool.and_eq_true, decide_eq_true_eq, UInt8.lt_iff_toNat_lt] at hb
  exact hb.1

theorem isAscii_of_isMarkup (hb : isMarkup b = true) : isAscii b = true := by
  have hlt := lt_of_isMarkup hb
  simp only [isAscii, decide_eq_true_eq, UInt8.lt_iff_toNat_lt, UInt8.reduceToNat]
  omega

theorem isBetween_of_isMarkup (hb : isMarkup b = true) {low : UInt8} (hlow : 0x40 ≤ low.toNat)
    (high : UInt8) : isBetween low high b = false := by
  have hlt := lt_of_isMarkup hb
  simp only [isBetween, Bool.and_eq_false_iff, decide_eq_false_iff_not, UInt8.le_iff_toNat_le]
  omega

theorem isHigh_of_isMarkup (hb : isMarkup b = true) : isHigh b = false :=
  isBetween_of_isMarkup hb (by decide) _

theorem low_of_lead? {b : UInt8} {q : Utf8Sequence} (h : Utf8.lead? b = some q) :
    0x80 ≤ q.low.toNat := by
  unfold Utf8.lead? at h
  repeat' split at h
  all_goals simp only [Option.some.injEq, reduceCtorEq] at h
  all_goals subst h; dsimp only; decide

theorem low_of_begin (b : UInt8) : ∀ q ∈ (Utf8.begin b).1, 0x80 ≤ q.low.toNat := by
  unfold Utf8.begin
  split
  · exact fun q hq => by cases hq
  · split
    case h_1 q hlead => exact fun q' hq' => by cases hq'; exact low_of_lead? hlead
    case h_2 => exact fun q hq => by cases hq

theorem Utf8.settles (hb : isMarkup b = true) :
    utf8Decoder.Settles (fun state => ∀ q ∈ state, 0x80 ≤ q.low.toNat) b where
  initial := fun q hq => by cases hq
  preserved state c hstate := by
    cases state with
    | none => exact low_of_begin c
    | some q =>
      simp only [utf8Decoder, Utf8.step]
      split
      · split
        · exact fun q hq => by cases hq
        · intro q hq
          obtain rfl := Option.mem_some_iff.mp hq
          dsimp only
          decide
      · exact low_of_begin c
  settles state hstate := by
    have hbegin : Utf8.begin b = (none, [ascii b]) := if_pos (isAscii_of_isMarkup hb)
    cases state with
    | none => exact ⟨[], hbegin⟩
    | some q =>
      have hlow : ¬ (q.low ≤ b ∧ b ≤ q.high) := by
        have hlt := lt_of_isMarkup hb
        have hq : 0x80 ≤ q.low.toNat := hstate q rfl
        simp only [UInt8.le_iff_toNat_le]
        omega
      refine ⟨[replacementCharacter], ?_⟩
      simp only [utf8Decoder, Utf8.step, if_neg hlow, hbegin, List.singleton_append]

/-- Where the byte writes its character alone and ends no pair, a charset of pairs settles. -/
theorem PairCharset.settles {p : PairCharset} (hb : isMarkup b = true)
    (hsingle : p.single? b = some (ascii b)) (hpair : ∀ lead, p.pair lead b = []) :
    p.decoder.Settles (fun _ => True) b where
  initial := trivial
  preserved _ _ _ := trivial
  settles lead _ := by
    cases lead with
    | none => exact ⟨[], by simp only [PairCharset.decoder, PairCharset.step, hsingle]; rfl⟩
    | some lead =>
      refine ⟨[replacementCharacter], ?_⟩
      simp only [PairCharset.decoder, PairCharset.step, hpair, readPair, isAscii_of_isMarkup hb]
      rfl

theorem ascii?_of_isMarkup (hb : isMarkup b = true) : ascii? b = some (ascii b) :=
  if_pos (isAscii_of_isMarkup hb)

theorem ShiftJis.settles (hb : isMarkup b = true) :
    shiftJisPairs.decoder.Settles (fun _ => True) b := by
  refine PairCharset.settles hb (if_pos (by rw [isAscii_of_isMarkup hb, Bool.true_or])) fun lead => ?_
  have hindex : ShiftJis.index? lead b = none := by
    rw [ShiftJis.index?, isBetween_of_isMarkup hb (by decide), isBetween_of_isMarkup hb (by decide)]
    rfl
  show (ShiftJis.pair? lead b).toList = []
  rw [ShiftJis.pair?, hindex]
  rfl

theorem EucKr.settles (hb : isMarkup b = true) : eucKrPairs.decoder.Settles (fun _ => True) b := by
  refine PairCharset.settles hb (ascii?_of_isMarkup hb) fun lead => ?_
  have hcell : EucKr.cell? b = none := by
    simp (disch := decide) only [EucKr.cell?, isBetween_of_isMarkup hb, Bool.false_eq_true, if_false]
  show (EucKr.pair? lead b).toList = []
  rw [EucKr.pair?, isHigh_of_isMarkup hb, Bool.and_false, if_neg Bool.false_ne_true, hcell]
  rfl

theorem Big5.settles (hb : isMarkup b = true) : big5Pairs.decoder.Settles (fun _ => True) b := by
  refine PairCharset.settles hb (ascii?_of_isMarkup hb) fun lead => ?_
  have hlt := lt_of_isMarkup hb
  have hcell : Big5.cell? b = none := by
    rw [Big5.cell?, isBetween_of_isMarkup hb (by decide), isHigh_of_isMarkup hb]
    rfl
  show Big5.pair lead b = []
  unfold Big5.pair
  split
  case h_5 => rw [hcell]; rfl
  all_goals omega

theorem EucJp.pair?_of_isMarkup (hb : isMarkup b = true) (rows : List (Nat × String))
    (lead : UInt8) : EucJp.pair? rows lead b = none := by
  rw [EucJp.pair?, isHigh_of_isMarkup hb, Bool.and_false]
  rfl

theorem EucJp.settles (hb : isMarkup b = true) : eucJpDecoder.Settles (fun _ => True) b where
  initial := trivial
  preserved _ _ _ := trivial
  settles state _ := by
    cases state with
    | start => exact ⟨[], if_pos (isAscii_of_isMarkup hb)⟩
    | lead lead =>
      refine ⟨[replacementCharacter], ?_⟩
      simp (disch := decide) only [eucJpDecoder, EucJp.step, isHigh_of_isMarkup hb,
        isBetween_of_isMarkup hb, EucJp.pair?_of_isMarkup hb, readPair, isAscii_of_isMarkup hb,
        Bool.and_false]
      rfl
    | supplement lead =>
      refine ⟨[replacementCharacter], ?_⟩
      simp only [eucJpDecoder, EucJp.step, EucJp.pair?_of_isMarkup hb, readPair,
        isAscii_of_isMarkup hb]
      rfl

theorem Gb18030.begin_of_isMarkup (hb : isMarkup b = true) :
    Gb18030.begin b = (.start, [ascii b]) := if_pos (isAscii_of_isMarkup hb)

theorem Gb18030.isDigit_of_isMarkup (hb : isMarkup b = true) : Gb18030.isDigit b = false := by
  simp only [isMarkup, Bool.and_eq_true, Bool.not_eq_true'] at hb
  exact hb.2

theorem Gb18030.goOn_of_isMarkup (hb : isMarkup b = true) (lead : UInt8) :
    Gb18030.goOn lead b = (.start, [replacementCharacter, ascii b]) := by
  have hpair : Gb18030.pair? lead b = none := by
    simp (disch := decide) only [Gb18030.pair?, isHigh_of_isMarkup hb, isBetween_of_isMarkup hb,
      Bool.false_eq_true, if_false]
  simp only [Gb18030.goOn, Gb18030.isDigit_of_isMarkup hb, hpair, readPair, isAscii_of_isMarkup hb]
  rfl

/-- A digit that waits for two bytes more is read as a digit before the byte. -/
theorem Gb18030.settles (hb : isMarkup b = true) : gb18030Decoder.Settles (fun _ => True) b where
  initial := trivial
  preserved _ _ _ := trivial
  settles state _ := by
    have hlead : Gb18030.isLead b = false := isBetween_of_isMarkup hb (by decide) _
    cases state with
    | start => exact ⟨[], Gb18030.begin_of_isMarkup hb⟩
    | first lead => exact ⟨[replacementCharacter], Gb18030.goOn_of_isMarkup hb lead⟩
    | second lead digit =>
      refine ⟨[replacementCharacter, ascii digit], ?_⟩
      simp only [gb18030Decoder, Gb18030.step, hlead, Gb18030.begin_of_isMarkup hb]
      rfl
    | third lead digit third =>
      refine ⟨[replacementCharacter, ascii digit, replacementCharacter], ?_⟩
      simp only [gb18030Decoder, Gb18030.step, Gb18030.isDigit_of_isMarkup hb,
        Gb18030.goOn_of_isMarkup hb]
      rfl

theorem CodePage.character_of_isMarkup (hb : isMarkup b = true) (page : CodePage) :
    page.character b = ascii b := if_pos (by
  have hlt := lt_of_isMarkup hb
  simp only [UInt8.lt_iff_toNat_lt, UInt8.reduceToNat]
  omega)

theorem userDefinedCharacter_of_isMarkup (hb : isMarkup b = true) :
    userDefinedCharacter b = ascii b := if_pos (isAscii_of_isMarkup hb)

/-- A charset of one byte for each character settles where the byte writes itself. -/
theorem map_settles {character : UInt8 → Char} (h : character b = ascii b) (before : List UInt8) :
    ∃ text, ∀ rest : List UInt8,
      (before ++ b :: rest).map character = text ++ ascii b :: rest.map character :=
  ⟨before.map character, fun rest => by rw [List.map_append, List.map_cons, h]⟩

end

/-- Whether a charset writes ASCII characters as ASCII does. -/
def buildsOnAscii : Charset → Bool
  | .utf16 _ | .iso2022Jp | .replacement => false
  | _ => true

/-- **No byte of markup is lost**, and what follows one is read as if it began the page. -/
theorem decode_at_markup {charset : Charset} (h : charset.buildsOnAscii = true) {b : UInt8}
    (hb : isMarkup b = true) (before : List UInt8) :
    ∃ text, ∀ rest, charset.decode (before ++ b :: rest) = text ++ ascii b :: charset.decode rest := by
  cases charset with
  | utf8 => exact (Utf8.settles hb).decode before
  | codePage page => exact map_settles (CodePage.character_of_isMarkup hb page) before
  | shiftJis => exact (ShiftJis.settles hb).decode before
  | eucJp => exact (EucJp.settles hb).decode before
  | gbk | gb18030 => exact (Gb18030.settles hb).decode before
  | big5 => exact (Big5.settles hb).decode before
  | eucKr => exact (EucKr.settles hb).decode before
  | userDefined => exact map_settles (userDefinedCharacter_of_isMarkup hb) before
  | utf16 | iso2022Jp | replacement => cases h

/-- The lead in front of the tag writes nothing. -/
example : Charset.shiftJis.decode [0x81, 0x3c, 0x62, 0x3e] = ['\ufffd', '<', 'b', '>'] := by
  decide +kernel

end Charset
end Imageboard
