/-
  Hosts of URLs.

  A host is a name or an address; how it is written decides which.

  * `Host.ofText?`: the host of a URL whose scheme is special.  A name is
    decoded and put in small letters of ASCII; a name that ends in a number has
    to be an address.
  * `Host.ofRawText?`: the host of any other URL, kept as it is.
  * `Host.text`: the one written form of a host.
-/
import Concord.Url.Domain.Basic
import Concord.Url.Percent

namespace Concord.Url

/-- A host. -/
inductive Host where
  | name (text : String)
  /-- An address of 32 bits. -/
  | ipv4 (address : Nat)
  /-- An address as eight groups of 16 bits. -/
  | ipv6 (groups : List Nat)
  deriving DecidableEq, Repr

/-- The pieces of a list between separators. -/
def splitAt (p : Char → Bool) : List Char → List (List Char)
  | [] => [[]]
  | c :: r =>
    if p c then [] :: splitAt p r
    else
      match splitAt p r with
      | [] => [[c]]
      | piece :: pieces => (c :: piece) :: pieces

/-- The number that digits of a base write; nothing if one is no digit. -/
def number? (base : Nat) (cs : List Char) : Option Nat :=
  cs.foldlM (fun n c => do
    let d ← Percent.digitValue? c
    if d < base then return base * n + d else none) 0

/-! ## Addresses of 32 bits -/

namespace Ipv4

/-- A part of an address: hexadecimal after `0x`, octal after another zero. -/
def part? : List Char → Option Nat
  | [] => none
  | '0' :: 'x' :: r | '0' :: 'X' :: r => number? 16 r
  | '0' :: c :: r => number? 8 (c :: r)
  | cs => number? 10 cs

/-- The parts of a name between its dots; a dot at the end counts for
    nothing. -/
def parts (cs : List Char) : List (List Char) :=
  let pieces := splitAt (· == '.') cs
  if pieces.length > 1 ∧ pieces.getLast? = some [] then pieces.dropLast else pieces

/-- Whether a name ends in a number. -/
def endsInNumber (cs : List Char) : Bool :=
  match (parts cs).getLast? with
  | some last => !last.isEmpty && (last.all Char.isDigit || (part? last).isSome)
  | none => false

/-- The address of up to four parts: each is a byte but for the last, which
    fills the rest. -/
def address? (cs : List Char) : Option Nat := do
  let numbers ← (parts cs).mapM part?
  let last ← numbers.getLast?
  let bytes := numbers.dropLast
  if bytes.length < 4 ∧ bytes.all (· < 256) ∧ last < Nat.pow 256 (4 - bytes.length) then
    return bytes.foldl (fun n b => 256 * n + b) 0 * Nat.pow 256 (4 - bytes.length) + last
  else none

/-- An address as four bytes. -/
def text (address : Nat) : String :=
  ".".intercalate ([16777216, 65536, 256, 1].map fun unit => toString (address / unit % 256))

end Ipv4

/-! ## Addresses of 128 bits -/

namespace Ipv6

/-- A group of one to four hexadecimal digits. -/
def group? (cs : List Char) : Option Nat :=
  if cs.isEmpty ∨ 4 < cs.length then none else number? 16 cs

/-- A byte in decimal digits without a leading zero. -/
def byte? (cs : List Char) : Option Nat :=
  if cs.isEmpty ∨ (1 < cs.length ∧ cs.head? = some '0') then none
  else
    match number? 10 cs with
    | some n => if n < 256 then some n else none
    | none => none

/-- The two groups of an address of 32 bits. -/
def embedded? (cs : List Char) : Option (List Nat) := do
  match ← (splitAt (· == '.') cs).mapM byte? with
  | [a, b, c, d] => return [256 * a + b, 256 * c + d]
  | _ => none

/-- The groups between colons; the last may be an address of 32 bits where that
    may stand. -/
def groups? (mayEmbed : Bool) : List (List Char) → Option (List Nat)
  | [] => some []
  | [last] =>
    if mayEmbed ∧ last.contains '.' then embedded? last else (group? last).map fun g => [g]
  | piece :: r => do
    let g ← group? piece
    let gs ← groups? mayEmbed r
    return g :: gs

/-- The groups of a text; none if it is empty. -/
def side? (mayEmbed : Bool) (cs : List Char) : Option (List Nat) :=
  if cs.isEmpty then some [] else groups? mayEmbed (splitAt (· == ':') cs)

/-- The texts before and after two colons in a row. -/
def gap? : List Char → Option (List Char × List Char)
  | ':' :: ':' :: r => some ([], r)
  | c :: r => (gap? r).map fun (before, behind) => (c :: before, behind)
  | [] => none

/-- The eight groups of an address; two colons stand for the zeros that are
    missing, at least one. -/
def address? (cs : List Char) : Option (List Nat) := do
  match gap? cs with
  | none =>
    let groups ← groups? true (splitAt (· == ':') cs)
    if groups.length = 8 then return groups else none
  | some (before, behind) =>
    let left ← side? false before
    let right ← side? true behind
    if left.length + right.length < 8 then
      return left ++ List.replicate (8 - left.length - right.length) 0 ++ right
    else none

/-- The length of the run of zeros that starts at a place. -/
def zerosAt (groups : List Nat) (i : Nat) : Nat := ((groups.drop i).takeWhile (· == 0)).length

/-- The start and the length of the longest run of zeros, the first if there
    are several. -/
def longestZeros (groups : List Nat) : Nat × Nat :=
  (List.range groups.length).foldl
    (fun best i => if best.2 < zerosAt groups i then (i, zerosAt groups i) else best) (0, 0)

/-- Groups with colons between them. -/
def colons (groups : List Nat) : String :=
  ":".intercalate (groups.map fun g => String.ofList (Nat.toDigits 16 g))

/-- An address with its longest run of zeros left out, if it has two or
    more. -/
def text (groups : List Nat) : String :=
  let (start, length) := longestZeros groups
  if length < 2 then colons groups
  else colons (groups.take start) ++ "::" ++ colons (groups.drop (start + length))

end Ipv6

/-! ## Hosts -/

namespace Host

/-- The characters that no name of a special URL contains. -/
def isForbidden (c : Char) : Bool :=
  c.toNat ≤ 0x20 || c.toNat == 0x7F ||
    c ∈ ['%', '#', '/', ':', '<', '>', '?', '@', '[', '\\', ']', '^', '|']

/-- The characters that no name of another URL contains. -/
def isForbiddenRaw (c : Char) : Bool :=
  c ∈ ['\x00', '\t', '\n', '\r', ' ', '#', '/', ':', '<', '>', '?', '@', '[', '\\', ']', '^', '|']

/-- The address between brackets, if a text is one. -/
def bracketed? (cs : List Char) : Option Host :=
  match cs.reverse with
  | ']' :: r => (Ipv6.address? (r.reverse.drop 1)).map ipv6
  | _ => none

/-- The host of a URL whose scheme is special. -/
def ofText? (cs : List Char) : Option Host :=
  if cs.head? = some '[' then bracketed? cs
  else do
    let name ← Domain.ascii? (← Percent.decodeText? cs)
    if name.isEmpty ∨ name.any isForbidden then none
    else if Ipv4.endsInNumber name then (Ipv4.address? name).map ipv4
    else return .name (String.ofList name)

/-- The host of a URL whose scheme is not special. -/
def ofRawText? (cs : List Char) : Option Host :=
  if cs.head? = some '[' then bracketed? cs
  else if cs.any isForbiddenRaw then none
  else some (name (String.ofList (Percent.encode Percent.control cs)))

/-- The written form of a host. -/
def text : Host → String
  | name text => text
  | ipv4 address => Ipv4.text address
  | ipv6 groups => "[" ++ Ipv6.text groups ++ "]"

end Host

end Concord.Url
