import GatedManager.Text.Numeral

/-!
# Internet addresses

The text forms of IPv4 and IPv6 addresses. IPv4 is four decimal octets without leading zeros.
IPv6 is eight hexadecimal groups of one to four digits; one run of zero groups may be left out
between two colons, and the last two groups may be written as an IPv4 address. The written form
is the recommended one: lower case, the first longest run of at least two zero groups left out,
and the dotted form for addresses mapped from IPv4.
-/

namespace GatedManager.Net

/-- An IPv4 address: four octets. -/
structure Ipv4 where
  octets : List UInt8
  length_octets : octets.length = 4
deriving DecidableEq

/-- An IPv6 address: eight groups of 16 bits. -/
structure Ipv6 where
  groups : List UInt16
  length_groups : groups.length = 8
deriving DecidableEq

inductive Ip
  | v4 (address : Ipv4)
  | v6 (address : Ipv6)
deriving DecidableEq

/-- A run of at most `width` digits at the start of a text, and what follows. A longer run is no
number, and neither is one that starts with a needless zero unless `zeros` allows it. -/
def readNumber (base width : Nat) (zeros : Bool) (s : List Char) : Option (Nat × List Char) :=
  let token := s.takeWhile fun c => (Text.digit? base c).isSome
  let rest := s.dropWhile fun c => (Text.digit? base c).isSome
  if token.length > width then none
  else if !zeros && token.length > 1 && token.head? == some '0' then none
  else (Text.natural? base token).map (·, rest)

/-- What follows the separator `c`, which must come next unless this is the first item. -/
def afterSeparator (c : Char) (first : Bool) (s : List Char) : Option (List Char) :=
  if first then some s
  else match s with
    | d :: rest => if d = c then some rest else none
    | [] => none

/-- `count` decimal octets separated by points. -/
def readOctets : Nat → Bool → List Char → Option (List UInt8 × List Char)
  | 0, _, s => some ([], s)
  | count + 1, first, s => do
    let s ← afterSeparator '.' first s
    let (octet, s) ← readNumber 10 3 false s
    if octet < 256 then
      let (octets, s) ← readOctets count false s
      return (UInt8.ofNat octet :: octets, s)
    else none

/-- The IPv4 address at the start of a text. -/
def Ipv4.read (s : List Char) : Option (Ipv4 × List Char) :=
  match readOctets 4 true s with
  | some (octets, rest) =>
    if h : octets.length = 4 then some (⟨octets, h⟩, rest) else none
  | none => none

/-- The two groups that an IPv4 address takes in an IPv6 one. -/
def Ipv4.toGroups (address : Ipv4) : List UInt16 :=
  match address.octets with
  | [a, b, c, d] => [a.toUInt16 * 256 + b.toUInt16, c.toUInt16 * 256 + d.toUInt16]
  | _ => []

/-- At most `limit` groups separated by colons, whether they end in an IPv4 address, and what
follows. An IPv4 address stands for two groups and ends the run. -/
def readGroups : Nat → Bool → List Char → List UInt16 × Bool × List Char
  | 0, _, s => ([], false, s)
  | limit + 1, first, s =>
    let embedded? := if limit = 0 then none else (afterSeparator ':' first s).bind Ipv4.read
    match embedded? with
    | some (address, rest) => (address.toGroups, true, rest)
    | none =>
      match (afterSeparator ':' first s).bind (readNumber 16 4 true) with
      | some (group, rest) =>
        let (groups, dotted, rest) := readGroups limit false rest
        (UInt16.ofNat group :: groups, dotted, rest)
      | none => ([], false, s)

/-- Eight groups, or fewer around a double colon that stands for the missing zeros. -/
def Ipv6.read (s : List Char) : Option (Ipv6 × List Char) :=
  let (head, dotted, rest) := readGroups 8 true s
  if h : head.length = 8 then some (⟨head, h⟩, rest)
  else if dotted then none
  else match rest with
    | ':' :: ':' :: rest =>
      let (tail, _, rest) := readGroups (7 - head.length) true rest
      let groups := head ++ List.replicate (8 - head.length - tail.length) 0 ++ tail
      if h : groups.length = 8 then some (⟨groups, h⟩, rest) else none
    | _ => none

/-- The address that a whole text denotes. -/
def Ip.read (s : List Char) : Option Ip :=
  match Ipv4.read s with
  | some (address, []) => some (.v4 address)
  | _ => match Ipv6.read s with
    | some (address, []) => some (.v6 address)
    | _ => none

def Ipv4.render (address : Ipv4) : List Char :=
  List.intercalate ['.'] (address.octets.map fun octet => Nat.toDigits 10 octet.toNat)

/-- Groups in lower-case hexadecimal, separated by colons. -/
def renderGroups (groups : List UInt16) : List Char :=
  List.intercalate [':'] (groups.map fun group => Nat.toDigits 16 group.toNat)

/-- The longest run of zero groups, the first one of several: where it starts and its length. -/
def zeroRun (groups : List UInt16) : Nat × Nat :=
  (List.range groups.length).foldl
    (fun best start =>
      let run := ((groups.drop start).takeWhile (· == 0)).length
      if run > best.2 then (start, run) else best)
    (0, 0)

/-- The IPv4 address that an IPv6 one is mapped from. -/
def Ipv6.mapped? (address : Ipv6) : Option Ipv4 :=
  match address.groups with
  | [0, 0, 0, 0, 0, 0xFFFF, high, low] =>
    some ⟨[(high / 256).toUInt8, high.toUInt8, (low / 256).toUInt8, low.toUInt8], rfl⟩
  | _ => none

def Ipv6.render (address : Ipv6) : List Char :=
  match address.mapped? with
  | some v4 => "::ffff:".toList ++ v4.render
  | none =>
    let (start, run) := zeroRun address.groups
    if run > 1 then
      renderGroups (address.groups.take start) ++ [':', ':'] ++
        renderGroups (address.groups.drop (start + run))
    else renderGroups address.groups

def Ip.render : Ip → List Char
  | .v4 address => address.render
  | .v6 address => address.render

/-- An address and a port. -/
structure Socket where
  ip : Ip
  port : UInt16
deriving DecidableEq

/-- `ip:port`, an IPv6 address standing in brackets. -/
def Socket.render (socket : Socket) : List Char :=
  let port := Nat.toDigits 10 socket.port.toNat
  match socket.ip with
  | .v4 address => address.render ++ ':' :: port
  | .v6 address => '[' :: address.render ++ ']' :: ':' :: port

end GatedManager.Net
