import Imageboard.Address.Error
import Imageboard.Address.Label
import Imageboard.Address.PercentEncoding
import Imageboard.Address.Punycode
import Imageboard.Address.Spelling

/-! Domain names in their ASCII form: in small letters and the one spelling that letters with
marks have, with labels beyond ASCII in Punycode. -/
namespace Imageboard.Address

/-- Characters that no domain name holds. -/
def isForbidden (c : Char) : Bool :=
  if Punycode.isAscii c then isControl c || isOneOf " #/:<>?@[\\]^|%" c
  else isUnwritable c || Text.isInvisible c && !Text.isJoiner c

/-- The labels of a domain name, which dots separate. -/
def labels (s : List Char) : List (List Char) := Text.stretches (· == '.') s

/-- The text as domain names spell it. -/
def spelled (s : List Char) : List Char :=
  Text.composed ((s.filter fun c => !isIgnored c).flatMap spelling)

/-- Whether Punycode may write the label: only one that needs it, spelled as domain names
are. -/
def mayBeEncoded (label : List Char) : Bool :=
  !label.all Punycode.isAscii && spelled label == label && !label.any isForbidden &&
    isGoodLabel label

/-- What a label of a domain name says: in Punycode, the label that it encodes. -/
def meant? (label : List Char) : Option (List Char) :=
  match label with
  | 'x' :: 'n' :: '-' :: '-' :: s => (Punycode.decode? s).filter mayBeEncoded
  | _ => if label.all Punycode.isAscii || isGoodLabel label then some label else none

/-- The ASCII form of a label. -/
def asciiLabel (label : List Char) : List Char :=
  if label.all Punycode.isAscii then label else ['x', 'n', '-', '-'] ++ Punycode.encode label

/-- Whether the text is a domain name: no character is forbidden, before and after spelling,
and its labels mean something that is read in one way. -/
def isDomain (s : List Char) : Bool :=
  !(s.filter fun c => !isIgnored c).any isForbidden && !(spelled s).any isForbidden &&
    ((labels (spelled s)).mapM meant?).any keepDirections

/-- The ASCII form of a domain name that an address writes. -/
def asciiDomain (written : List Char) : Except AddressError (List Char) :=
  match (utf8? (percentDecode written)).filter isDomain with
  | some s => .ok (List.intercalate ['.'] ((labels (spelled s)).map asciiLabel))
  | none => .error .invalidDomainName

end Imageboard.Address
