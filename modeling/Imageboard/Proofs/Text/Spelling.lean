import Imageboard.Text.Offset

/-! What stands between two byte offsets of a page.

`Spells page start stop text` says that the page has `text` from byte `start` to byte `stop`. The
rest of the module reads it in terms of the UTF-8 bytes of strings: both offsets are character
boundaries of the page, and the bytes between them are the bytes of the text. -/
namespace Imageboard.Text

/-- The page has `text` from byte `start` to byte `stop`. -/
def Spells (page : List Char) (start stop : Nat) (text : List Char) : Prop :=
  ∃ lead rest, page = lead ++ text ++ rest ∧ start = byteLength lead ∧
    stop = byteLength lead + byteLength text

theorem byteLength_eq_size (s : List Char) : byteLength s = s.utf8Encode.size := by
  induction s with
  | nil => rfl
  | cons c s ih =>
    rw [byteLength, ih, List.utf8Encode_cons, ByteArray.size_append, List.utf8Encode_singleton,
      List.size_toByteArray, String.length_utf8EncodeChar]

theorem byteLength_toList (s : String) : byteLength s.toList = s.utf8ByteSize := by
  rw [byteLength_eq_size, String.utf8Encode_toList, String.size_toByteArray]

theorem takeBytes_isPrefix (n : Nat) (s : List Char) : takeBytes n s <+: s := by
  induction s generalizing n with
  | nil => exact List.prefix_refl _
  | cons c s ih =>
    rw [takeBytes]
    split
    · exact (List.prefix_cons_inj c).mpr (ih _)
    · exact List.nil_prefix

/-- Of two beginnings of a text the longer one is the shorter one and what stands between their ends. -/
theorem between_of_append_eq {a b a' b' : List Char} (h : a ++ b = a' ++ b')
    (hle : byteLength a ≤ byteLength a') : ∃ middle, a' = a ++ middle ∧ b = middle ++ b' := by
  rcases List.append_eq_append_iff.mp h with hmiddle | ⟨excess, hexcess, hb'⟩
  · exact hmiddle
  · have hzero : excess = [] := by
      refine Decidable.byContradiction fun hne => ?_
      have hpos := byteLength_pos hne
      have hlen := congrArg byteLength hexcess
      rw [byteLength_append] at hlen
      omega
    subst hzero
    exact ⟨[], by rw [hexcess, List.append_nil, List.append_nil], hb'.symm⟩

/-- The last bytes are cut off only where a character begins. -/
theorem dropLastBytes?_eq_some {n : Nat} {s stem : List Char} :
    dropLastBytes? n s = some stem ↔ ∃ ending, s = stem ++ ending ∧ byteLength ending = n := by
  unfold dropLastBytes?
  dsimp only
  constructor
  · intro h
    split at h
    · rename_i hlength
      obtain rfl := Option.some.inj h
      obtain ⟨ending, hs⟩ := takeBytes_isPrefix (byteLength s - n) s
      refine ⟨ending, hs.symm, ?_⟩
      have hsum := congrArg byteLength hs
      rw [byteLength_append] at hsum
      omega
    · cases h
  · rintro ⟨ending, rfl, rfl⟩
    rw [byteLength_append, Nat.add_sub_cancel, takeBytes_append, if_pos rfl]

namespace Spells
variable {page text : List Char} {start stop : Nat}

theorem slice_eq (h : Spells page start stop text) : slice page start stop = text := by
  obtain ⟨lead, rest, rfl, rfl, rfl⟩ := h
  exact slice_middle lead text rest

theorem length_eq (h : Spells page start stop text) : start + byteLength text = stop := by
  obtain ⟨lead, rest, rfl, rfl, rfl⟩ := h
  rfl

theorem stop_le (h : Spells page start stop text) : stop ≤ byteLength page := by
  obtain ⟨lead, rest, rfl, rfl, rfl⟩ := h
  simp only [byteLength_append]
  omega

/-- The bytes between the offsets are those of the text. -/
theorem extract_eq {page : String} (h : Spells page.toList start stop text) :
    page.toByteArray.extract start stop = text.utf8Encode := by
  obtain ⟨lead, rest, hp, rfl, rfl⟩ := h
  rw [← String.utf8Encode_toList, hp, List.utf8Encode_append, List.utf8Encode_append,
    ByteArray.append_assoc, byteLength_eq_size, byteLength_eq_size]
  rw [show lead.utf8Encode.size = lead.utf8Encode.size + 0 from rfl, Nat.add_assoc,
    ByteArray.extract_append_size_add, Nat.zero_add, ByteArray.extract_append_eq_left rfl]

theorem isValid_start {page : String} (h : Spells page.toList start stop text) :
    (⟨start⟩ : String.Pos.Raw).IsValid page := by
  obtain ⟨lead, rest, hp, rfl, -⟩ := h
  refine String.Pos.Raw.isValid_iff_exists_append.mpr
    ⟨String.ofList lead, String.ofList (text ++ rest), ?_, ?_⟩
  · rw [← String.ofList_append, ← List.append_assoc, ← hp, String.ofList_toList]
  · rw [← String.toList_ofList (l := lead), byteLength_toList, String.toList_ofList]
    rfl

/-- The end of what stands somewhere is the start of nothing. -/
theorem nil_at_stop (h : Spells page start stop text) : Spells page stop stop [] := by
  obtain ⟨lead, rest, rfl, rfl, rfl⟩ := h
  exact ⟨lead ++ text, rest, by simp, by simp, by simp [byteLength]⟩

theorem isValid_stop {page : String} (h : Spells page.toList start stop text) :
    (⟨stop⟩ : String.Pos.Raw).IsValid page :=
  h.nil_at_stop.isValid_start

/-- Behind a place stands the rest of the page. -/
theorem behind (h : Spells page start stop text) :
    ∃ rest, Spells page stop (byteLength page) rest := by
  obtain ⟨lead, rest, rfl, rfl, rfl⟩ := h
  exact ⟨rest, lead ++ text, [], by rw [List.append_nil], (byteLength_append lead text).symm, by
    simp only [byteLength_append]⟩

/-- Between a place and one behind it stands a text. -/
theorem between {text' : List Char} {start' stop' : Nat} (h : Spells page start stop text)
    (h' : Spells page start' stop' text') (hle : stop ≤ start') :
    ∃ middle, Spells page stop start' middle := by
  obtain ⟨lead, rest, hp, rfl, rfl⟩ := h
  obtain ⟨lead', rest', hp', rfl, rfl⟩ := h'
  have hsplit : (lead ++ text) ++ rest = lead' ++ (text' ++ rest') := by
    rw [← hp, hp', List.append_assoc]
  obtain ⟨middle, hlead, hrest⟩ := between_of_append_eq hsplit (by rwa [byteLength_append])
  exact ⟨middle, lead ++ text, text' ++ rest', by rw [hp, hrest, ← List.append_assoc],
    (byteLength_append lead text).symm, by simp [hlead, Nat.add_assoc]⟩

end Spells

end Imageboard.Text
