import Rhythm.Text

/-!
# Rhythm.Network.Address

`net.IP`: an address in its 16-byte form, an IPv4 address being a mapped one, with
the classes of addresses that Go's library tells apart, and networks in CIDR
notation.  This module names nothing of the component.
-/

namespace Rhythm.Network

/-- `net.IP`. -/
abbrev IP := BitVec 128

namespace IP

def byte (ip : IP) (i : Nat) : Nat := (ip >>> (8 * (15 - i))).toNat % 256

/-- `net.IPv4`. -/
def v4 (a b c d : Nat) : IP :=
  BitVec.ofNat 128 (0xffff00000000 + a * 0x1000000 + b * 0x10000 + c * 0x100 + d)

/-- `ip.To4() != nil`. -/
def isV4 (ip : IP) : Bool := ip >>> 32 = 0xffff

/-- `IsLoopback`. -/
def isLoopback (ip : IP) : Bool := if ip.isV4 then ip.byte 12 = 127 else ip = 1

/-- `IsPrivate`. -/
def isPrivate (ip : IP) : Bool :=
  if ip.isV4 then
    ip.byte 12 = 10 || (ip.byte 12 = 172 && ip.byte 13 / 16 = 1) ||
      (ip.byte 12 = 192 && ip.byte 13 = 168)
  else ip.byte 0 / 2 = 0x7e

/-- `IsUnspecified`. -/
def isUnspecified (ip : IP) : Bool := ip = v4 0 0 0 0 || ip = 0

/-- `IsMulticast`. -/
def isMulticast (ip : IP) : Bool := if ip.isV4 then ip.byte 12 / 16 = 0xe else ip.byte 0 = 0xff

/-- `IsLinkLocalUnicast`. -/
def isLinkLocalUnicast (ip : IP) : Bool :=
  if ip.isV4 then ip.byte 12 = 169 && ip.byte 13 = 254
  else ip.byte 0 = 0xfe && ip.byte 1 / 64 = 2

/-- `IsLinkLocalMulticast`. -/
def isLinkLocalMulticast (ip : IP) : Bool :=
  if ip.isV4 then ip.byte 12 = 224 && ip.byte 13 = 0 && ip.byte 14 = 0
  else ip.byte 0 = 0xff && ip.byte 1 % 16 = 2

theorem isMulticast_of_isLinkLocalMulticast {ip : IP} (h : ip.isLinkLocalMulticast = true) :
    ip.isMulticast = true := by
  grind [isLinkLocalMulticast, isMulticast]

end IP

/-- `net.IPNet`; the prefix length counts from the first of the 16 bytes. -/
structure CIDR where
  address : IP
  bits : Nat

/-- `Contains`: a network of one family contains no address of the other. -/
def CIDR.contains (network : CIDR) (ip : IP) : Bool :=
  network.address.isV4 = ip.isV4 &&
    network.address >>> (128 - network.bits) = ip >>> (128 - network.bits)

end Rhythm.Network
