import Mathlib.Init

set_option autoImplicit false

-- The text form of a socket address, as the standard library reads it.
namespace MavRouter

inductive IpAddr where
  | v4 (octets : List UInt8)
  | v6 (segments : List UInt16) (scopeId : UInt32)
  deriving DecidableEq, Repr

structure SocketAddr where
  ip : IpAddr
  port : UInt16
  deriving DecidableEq, Repr

namespace SocketAddr

abbrev Reader (A : Type) := List Char → Option (A × List Char)

def toDigit (radix : Nat) (c : Char) : Option Nat :=
  let digit :=
    if '0' ≤ c ∧ c ≤ '9' then c.toNat - '0'.toNat
    else if 'a' ≤ c ∧ c ≤ 'z' then c.toNat - 'a'.toNat + 10
    else if 'A' ≤ c ∧ c ≤ 'Z' then c.toNat - 'A'.toNat + 10
    else radix
  if digit < radix then some digit else none

def readGivenChar (target : Char) : Reader Unit
  | [] => none
  | c :: rest => if c = target then some ((), rest) else none

def readDigits (radix : Nat) : List Char → List Nat × List Char
  | [] => ([], [])
  | c :: rest =>
    match toDigit radix c with
    | none => ([], c :: rest)
    | some digit =>
      let later := readDigits radix rest
      (digit :: later.1, later.2)

def readNumber (radix : Nat) (maxDigits : Option Nat) (allowZeroPrefix : Bool) (bound : Nat) : Reader Nat := fun text =>
  let read := readDigits radix text
  let digits := read.1
  let value := digits.foldl (fun result digit => result * radix + digit) 0
  if digits.isEmpty then none
  else if maxDigits.any fun limit => decide (limit < digits.length) then none
  else if !allowZeroPrefix && decide (digits.head? = some 0) && decide (1 < digits.length) then none
  else if bound < value then none
  else some (value, read.2)

def readSeparator {A : Type} (sep : Char) (index : Nat) (inner : Reader A) : Reader A := fun text =>
  if index = 0 then inner text else (readGivenChar sep text).bind fun read => inner read.2

def readOctets : Nat → Nat → Reader (List UInt8)
  | _, 0 => fun text => some ([], text)
  | index, count + 1 => fun text =>
    (readSeparator '.' index (readNumber 10 (some 3) false 255) text).bind fun octet =>
      (readOctets (index + 1) count octet.2).map fun rest => (octet.1.toUInt8 :: rest.1, rest.2)

def readIpv4Addr : Reader (List UInt8) := readOctets 0 4

def readGroups : Nat → Nat → List Char → (List UInt16 × Bool) × List Char
  | _, 0, text => (([], false), text)
  | index, left + 1, text =>
    match if left = 0 then none else readSeparator ':' index readIpv4Addr text with
    | some (octets, rest) =>
      let half (i : Nat) : UInt16 := (octets.getD i 0).toUInt16 * 256 + (octets.getD (i + 1) 0).toUInt16
      (([half 0, half 2], true), rest)
    | none =>
      match readSeparator ':' index (readNumber 16 (some 4) true 0xFFFF) text with
      | none => (([], false), text)
      | some (group, rest) =>
        let later := readGroups (index + 1) left rest
        ((group.toUInt16 :: later.1.1, later.1.2), later.2)

def readIpv6Addr : Reader (List UInt16) := fun text =>
  let ((head, headIpv4), rest) := readGroups 0 8 text
  if head.length = 8 then some (head, rest)
  else if headIpv4 then none
  else do
    let ((), rest) ← readGivenChar ':' rest
    let ((), rest) ← readGivenChar ':' rest
    -- The :: stands for at least one group of zeros.
    let ((tail, _), rest) := readGroups 0 (8 - (head.length + 1)) rest
    some (head ++ List.replicate (8 - head.length - tail.length) 0 ++ tail, rest)

def readPort : Reader UInt16 := fun text => do
  let ((), rest) ← readGivenChar ':' text
  let (port, rest) ← readNumber 10 none true 0xFFFF rest
  some (port.toUInt16, rest)

def readScopeId : Reader UInt32 := fun text => do
  let ((), rest) ← readGivenChar '%' text
  let (scopeId, rest) ← readNumber 10 none true 0xFFFFFFFF rest
  some (scopeId.toUInt32, rest)

def readSocketAddrV4 : Reader SocketAddr := fun text => do
  let (octets, rest) ← readIpv4Addr text
  let (port, rest) ← readPort rest
  some (⟨.v4 octets, port⟩, rest)

def readSocketAddrV6 : Reader SocketAddr := fun text => do
  let ((), rest) ← readGivenChar '[' text
  let (segments, rest) ← readIpv6Addr rest
  let (scopeId, rest) := (readScopeId rest).getD (0, rest)
  let ((), rest) ← readGivenChar ']' rest
  let (port, rest) ← readPort rest
  some (⟨.v6 segments scopeId, port⟩, rest)

def parse (address : String) : Option SocketAddr :=
  match (readSocketAddrV4 address.toList).or (readSocketAddrV6 address.toList) with
  | some (addr, []) => some addr
  | _ => none

example : parse "0.0.0.0:14550" = some ⟨.v4 [0, 0, 0, 0], 14550⟩ := by decide +kernel
example : parse "[fe80::1%2]:5760" = some ⟨.v6 [0xfe80, 0, 0, 0, 0, 0, 0, 1] 2, 5760⟩ := by decide +kernel
example : parse "localhost:5760" = none ∧ parse "1.2.3.256:1" = none ∧ parse "1.2.3.4:65536" = none := by decide +kernel

end SocketAddr

end MavRouter
