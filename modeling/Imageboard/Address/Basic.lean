import Imageboard.Address.Reader

/-! Addresses that posts carry. Each reads back from its own text. -/
namespace Imageboard

structure Address where
  url : Url
  reads : Url.read none url.text = .ok url
  deriving DecidableEq

namespace Address

def text (a : Address) : String := a.url.text

def ofUrl? (url : Url) : Option Address :=
  match h : Url.read none url.text with
  | .ok read => if he : read = url then some ⟨url, by rw [h, he]⟩ else none
  | .error _ => none

def read? (text : String) : Option Address :=
  match Url.read none text with
  | .ok url => ofUrl? url
  | .error _ => none

theorem ofUrl?_url (a : Address) : ofUrl? a.url = some a := by
  unfold ofUrl?
  split
  · rename_i read h
    have he : read = a.url := Except.ok.inj (h.symm.trans a.reads)
    simp [he]
  · rename_i e h
    simp [a.reads] at h

/-- The text of an address is read as that address. -/
theorem read?_text (a : Address) : read? a.text = some a := by
  simp [read?, text, a.reads, ofUrl?_url]

end Address

end Imageboard
