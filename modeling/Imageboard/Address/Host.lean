import Imageboard.Address.Domain

/-! Hosts: domain names, IPv4 addresses in any of their spellings, and IPv6 addresses between
brackets. A host is kept as it is written out. -/
namespace Imageboard.Address

/-! ### IPv4 -/

/-- A part of an IPv4 address: decimal, octal after `0`, hexadecimal after `0x`. -/
def ipv4Part? : List Char → Option Nat
  | [] => none
  | ['0'] => some 0
  | '0' :: 'x' :: s => if s.isEmpty then some 0 else Numeral.digits? 16 s
  | '0' :: 'X' :: s => if s.isEmpty then some 0 else Numeral.digits? 16 s
  | '0' :: s => Numeral.digits? 8 s
  | s => Numeral.digits? 10 s

/-- The parts between the dots, without an empty one at the end. -/
def numberParts (domain : List Char) : List (List Char) :=
  let parts := labels domain
  if parts.length > 1 && parts.getLast? == some [] then parts.dropLast else parts

/-- A domain whose last part is a number has to be an IPv4 address. -/
def endsInNumber (domain : List Char) : Bool :=
  match (numberParts domain).getLast? with
  | some part => !part.isEmpty && part.all Char.isDigit || (ipv4Part? part).isSome
  | none => false

/-- The number that the parts of an IPv4 address make: each part but the last is a byte, and
the last takes the bytes that are left. -/
def ipv4Number? (parts : List Nat) : Option Nat :=
  if parts.length > 4 then none
  else
    match parts.getLast? with
    | none => none
    | some last =>
      let bytes := parts.dropLast
      let room := Nat.pow 256 (4 - bytes.length)
      if last < room && bytes.all (· < 256) then
        some (bytes.foldl (fun n b => n * 256 + b) 0 * room + last)
      else none

def ipv4Text (n : Nat) : List Char :=
  let part (i : Nat) : List Char := (toString (n / Nat.pow 256 i % 256)).toList
  part 3 ++ '.' :: part 2 ++ '.' :: part 1 ++ '.' :: part 0

def ipv4 (domain : List Char) : Except AddressError (List Char) :=
  let parts := numberParts domain
  match (parts.mapM ipv4Part?).bind ipv4Number? with
  | some n => .ok (ipv4Text n)
  | none => .error .invalidIPv4

/-! ### IPv6 -/

/-- A piece of one to four hexadecimal digits, and what follows it. -/
def ipv6Piece? (s : List Char) : Option (Nat × List Char) :=
  let digits := (s.take 4).takeWhile Numeral.isHexDigit
  (Numeral.digits? 16 digits).map (·, s.drop digits.length)

/-- A byte in decimal without needless zeros. -/
def decimalByte? (s : List Char) : Option Nat :=
  if s.length > 1 && s.head? == some '0' || !s.all Char.isDigit then none
  else (Numeral.digits? 10 s).filter (· < 256)

/-- The two last pieces written as an IPv4 address. -/
def ipv4Tail? (s : List Char) : Option (List Nat) :=
  match (labels s).mapM decimalByte? with
  | some [a, b, c, d] => some [a * 256 + b, c * 256 + d]
  | _ => none

/-- The pieces of one side of `::`, which colons separate; `allowed` is how many there may be.
Only pieces at the end of an address, where `last` holds, may be written as an IPv4 address. -/
def ipv6Pieces? (last : Bool) : (allowed : Nat) → List Char → Option (List Nat)
  | 0, _ => none
  | allowed + 1, s =>
    match ipv6Piece? s with
    | some (piece, []) => some [piece]
    | some (piece, ':' :: rest) => (ipv6Pieces? last allowed rest).map (piece :: ·)
    | some (_, '.' :: _) => if last && 1 ≤ allowed then ipv4Tail? s else none
    | _ => none

/-- The pieces on one side of `::`, where there may be none. -/
def ipv6Side? (last : Bool) (s : List Char) : Option (List Nat) :=
  if s.isEmpty then some [] else ipv6Pieces? last 8 s

/-- The texts before and after the first `::`. -/
def splitGap? : List Char → Option (List Char × List Char)
  | ':' :: ':' :: s => some ([], s)
  | c :: s => (splitGap? s).map fun (a, b) => (c :: a, b)
  | [] => none

/-- The eight pieces of an IPv6 address. -/
def ipv6Value? (s : List Char) : Option (List Nat) :=
  match splitGap? s with
  | some (left, right) => do
    let left ← ipv6Side? false left
    let right ← ipv6Side? true right
    if left.length + right.length < 8 then
      some (left ++ List.replicate (8 - left.length - right.length) 0 ++ right)
    else none
  | none => (ipv6Side? true s).filter (·.length = 8)

/-- The place and length of the longest run of zeros, the first among equals; a zero on its
own is no run. -/
def longestZeros : (pieces : List Nat) → (place : Nat) → Nat × Nat
  | [], place => (place, 1)
  | piece :: rest, place =>
    let here := ((piece :: rest).takeWhile (· == 0)).length
    let later := longestZeros rest (place + 1)
    if later.2 ≤ here ∧ 1 < here then (place, here) else later

def ipv6Colons (pieces : List Nat) : List Char :=
  List.intercalate [':'] (pieces.map (Nat.toDigits 16))

def ipv6Text (pieces : List Nat) : List Char :=
  let (place, size) := longestZeros pieces 0
  if size ≤ 1 then ipv6Colons pieces
  else ipv6Colons (pieces.take place) ++ [':', ':'] ++ ipv6Colons (pieces.drop (place + size))

/-- The host between brackets. -/
def bracketed (s : List Char) : Except AddressError (List Char) :=
  match s.reverse with
  | ']' :: reversed =>
    match ipv6Value? reversed.reverse with
    | some pieces => .ok (['['] ++ ipv6Text pieces ++ [']'])
    | none => .error .invalidIPv6
  | _ => .error .invalidIPv6

/-! ### Hosts -/

/-- The host of an address whose scheme knows domain names. -/
def domainHost (written : List Char) : Except AddressError (List Char) :=
  match written with
  | '[' :: s => bracketed s
  | _ => do
    let domain ← asciiDomain written
    if domain.isEmpty then .error .emptyHost
    else if endsInNumber domain then ipv4 domain
    else .ok domain

/-- The host of an address of any other scheme. -/
def opaqueHost (written : List Char) : Except AddressError (List Char) :=
  match written with
  | '[' :: s => bracketed s
  | _ =>
    if written.any (isOneOf "\x00\t\n\r #/:<>?@[\\]^|") then .error .invalidHostCharacter
    else .ok (percentEncode isControl written)

end Imageboard.Address
