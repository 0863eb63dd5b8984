/-!
# Addresses

Internet addresses of version 4, four octets, and version 6, eight groups of 16 bits.
-/

namespace PathKeeper

set_option autoImplicit false

structure V4 where
  a : UInt8
  b : UInt8
  c : UInt8
  d : UInt8
  deriving DecidableEq, Repr

structure V6 where
  groups : List UInt16
  length_groups : groups.length = 8
  deriving DecidableEq, Repr

inductive Address where
  | v4 (address : V4)
  | v6 (address : V6)
  deriving DecidableEq, Repr

namespace V4

/-- Two octets as one group, the first octet above. -/
def pair (high low : UInt8) : UInt16 := UInt16.ofNat (high.toNat * 256 + low.toNat)

/-- The address as the last two groups of a version 6 address. -/
def groups (x : V4) : List UInt16 := [pair x.a x.b, pair x.c x.d]

def ofGroups (high low : UInt16) : V4 :=
  ⟨UInt8.ofNat (high.toNat / 256), UInt8.ofNat high.toNat, UInt8.ofNat (low.toNat / 256),
    UInt8.ofNat low.toNat⟩

@[simp] theorem length_groups (x : V4) : x.groups.length = 2 := rfl

theorem pair_toNat (high low : UInt8) :
    (pair high low).toNat = high.toNat * 256 + low.toNat := by
  have h1 : high.toNat < 256 := high.toNat_lt
  have h2 : low.toNat < 256 := low.toNat_lt
  rw [pair, UInt16.toNat_ofNat']
  omega

end V4

namespace V6

/-- The address with these groups, if there are eight. -/
def ofList? (groups : List UInt16) : Option V6 :=
  if h : groups.length = 8 then some ⟨groups, h⟩ else none

theorem ofList?_groups (x : V6) : ofList? x.groups = some x := by
  simp [ofList?, x.length_groups]

end V6

namespace Address

def isV6 : Address → Bool
  | .v4 _ => false
  | .v6 _ => true

end Address

end PathKeeper
