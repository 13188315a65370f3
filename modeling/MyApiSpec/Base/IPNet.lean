import Mathlib.Data.BitVec

/-!
# Internet addresses

`net.IP` and `net.IPNet` of the Go standard library. An address has four or sixteen bytes; an IPv4
address also occurs in its mapped form of sixteen bytes, and every test reads both forms alike.
-/

namespace MyApiSpec.Base

/-- `net.IP` of four or of sixteen bytes. -/
inductive IP where
  | v4 (a : BitVec 32)
  | v6 (a : BitVec 128)
  deriving DecidableEq, Repr

namespace IP

/-- The first twelve bytes of a mapped address. -/
def mappedTop : BitVec 96 := 0xffff

/-- The form of sixteen bytes: `IP.To16`. -/
def to16 : IP → BitVec 128
  | .v4 a => mappedTop ++ a
  | .v6 a => a

/-- `IP.To4`: the four bytes of an IPv4 address in either form. -/
def to4 : IP → Option (BitVec 32)
  | .v4 a => some a
  | .v6 a => if a.extractLsb' 32 96 = mappedTop then some (a.extractLsb' 0 32) else none

/-- The mapped form of an IPv4 address. -/
def mapped (a : BitVec 32) : IP := .v6 (mappedTop ++ a)

/-- The octet at a position, counted from the front. -/
def octet {w : Nat} (a : BitVec w) (i : Nat) : BitVec 8 := a.extractLsb' (w - 8 * (i + 1)) 8

/-- `IP.Equal`. -/
def equal (a b : IP) : Bool := a.to16 = b.to16

/-- `net.IPv4`. -/
def ofOctets (a b c d : BitVec 8) : BitVec 32 := a ++ b ++ c ++ d

/-- `IP.IsUnspecified`. -/
def isUnspecified (ip : IP) : Bool := ip.equal (.v4 0) || ip.equal (.v6 0)

/-- `IP.IsLoopback`. -/
def isLoopback (ip : IP) : Bool :=
  match ip.to4 with
  | some a => octet a 0 = 127
  | none => ip.equal (.v6 1)

/-- `IP.IsLinkLocalUnicast`. -/
def isLinkLocalUnicast (ip : IP) : Bool :=
  match ip.to4 with
  | some a => octet a 0 = 169 && octet a 1 = 254
  | none => octet ip.to16 0 = 0xfe && octet ip.to16 1 &&& 0xc0 = 0x80

/-- `IP.IsLinkLocalMulticast`. -/
def isLinkLocalMulticast (ip : IP) : Bool :=
  match ip.to4 with
  | some a => octet a 0 = 224 && octet a 1 = 0 && octet a 2 = 0
  | none => octet ip.to16 0 = 0xff && octet ip.to16 1 &&& 0x0f = 0x02

/-- `IP.IsInterfaceLocalMulticast`. -/
def isInterfaceLocalMulticast : IP → Bool
  | .v4 _ => false
  | .v6 a => octet a 0 = 0xff && octet a 1 &&& 0x0f = 0x01

/-- `IP.IsPrivate`. -/
def isPrivate (ip : IP) : Bool :=
  match ip.to4 with
  | some a =>
    octet a 0 = 10 || (octet a 0 = 172 && octet a 1 &&& 0xf0 = 16) || (octet a 0 = 192 && octet a 1 = 168)
  | none => octet ip.to16 0 &&& 0xfe = 0xfc

end IP

/-- `net.IPNet`: an address with a mask of `ones` leading bits out of `bits`, which are 32 or 128. -/
structure IPNet where
  ip : IP
  ones : Nat
  bits : Nat
  deriving DecidableEq, Repr

/-- Two words agree in their first `ones` bits. -/
def sameNetwork {w : Nat} (ones : Nat) (a b : BitVec w) : Bool := a >>> (w - ones) = b >>> (w - ones)

/-- `IPNet.Contains`: the mask of a mapped network is cut to its last four bytes, and addresses of
the other family are outside. -/
def IPNet.contains (n : IPNet) (ip : IP) : Bool :=
  match n.ip.to4, ip.to4 with
  | some a, some b => sameNetwork (if n.bits = 128 then n.ones - 96 else n.ones) a b
  | none, none => n.bits = 128 && sameNetwork n.ones n.ip.to16 ip.to16
  | _, _ => false

end MyApiSpec.Base
