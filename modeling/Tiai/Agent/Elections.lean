import Mathlib.Data.List.Lex
import Mathlib.Data.Prod.Lex
import Tiai.Lib.Election
import Tiai.Wol.Packet

/-!
# What the agent elects

`collector/network.go` picks the address a machine is reported at, with the hardware address of the adapter that
holds it; `collector/session.go` picks the session a machine is reported to be in.  Both keep the best candidate of
an enumeration whose order Windows does not promise.

* `betterAddress`, `elect` — the address, its adapter's hardware address and its prefix length;
* `sessionRank`, `electSession` — the session;
* `betterAddress_iff`, `betterSession_iff` — both comparisons are the strict order of a key;
* `elections_perm` — the order of the enumeration changes neither result.
-/

namespace Tiai.Elections

open Lib

/-! ### Addresses -/

/-- `net.IP`; the empty list is `nil`. -/
abbrev IP := List UInt8

/-- The ten zero bytes and the two full ones before an IPv4 address written in sixteen bytes. -/
def v4InV6Prefix : IP := List.replicate 10 0 ++ [0xff, 0xff]

def to4 (ip : IP) : Option IP :=
  if ip.length = 4 then some ip
  else if ip.length = 16 ∧ ip.take 12 = v4InV6Prefix then some (ip.drop 12)
  else none

def to16 (ip : IP) : Option IP :=
  if ip.length = 4 then some (v4InV6Prefix ++ ip)
  else if ip.length = 16 then some ip
  else none

def ipv6Unspecified : IP := List.replicate 16 0

def ipv6Loopback : IP := List.replicate 15 0 ++ [1]

def isUnspecified (ip : IP) : Bool := to4 ip = some [0, 0, 0, 0] || ip = ipv6Unspecified

def isLoopback (ip : IP) : Bool :=
  match to4 ip with
  | some ip4 => ip4.take 1 = [127]
  | none => ip = ipv6Loopback

def isLinkLocalUnicast (ip : IP) : Bool :=
  match to4 ip with
  | some ip4 => ip4.take 2 = [169, 254]
  | none =>
    match ip with
    | a :: b :: _ => ip.length = 16 && a = 0xfe && b &&& 0xc0 = 0x80
    | _ => false

def isMulticast (ip : IP) : Bool :=
  match to4 ip with
  | some ip4 => ip4.head?.any fun a => a &&& 0xf0 = 0xe0
  | none => ip.length = 16 && ip.head? = some 0xff

def usableAddress (ip : IP) : Bool :=
  if ip = [] || isUnspecified ip then false
  else !isLoopback ip && !isLinkLocalUnicast ip && !isMulticast ip

/-- The lower-case hexadecimal digits of a number, without leading zeros. -/
def hex (n : ℕ) : List Char := Nat.toDigits 16 n

/-- The eight groups of an address in sixteen bytes. -/
def groups : IP → List ℕ
  | a :: b :: rest => (256 * a.toNat + b.toNat) :: groups rest
  | _ => []

/-- How many of the groups from place `i` on are zero, up to the first that is not. -/
def zeroRun (gs : List ℕ) (i : ℕ) : ℕ := ((gs.drop i).takeWhile (· = 0)).length

/-- The first of the longest runs of two zero groups or more: its place and its length. -/
def zeroGap (gs : List ℕ) : Option (ℕ × ℕ) :=
  (List.range 8).foldl (fun gap i =>
    if zeroRun gs i ≥ 2 ∧ zeroRun gs i > gap.elim 0 Prod.snd then some (i, zeroRun gs i) else gap) none

def joinGroups (gs : List ℕ) : List Char := [':'].intercalate (gs.map hex)

/-- `IP.String`. -/
def ipString (ip : IP) : String :=
  if ip = [] then "<nil>"
  else match to4 ip with
    | some ip4 => ".".intercalate (ip4.map fun b => toString b.toNat)
    | none =>
      if ip.length = 16 then
        match zeroGap (groups ip) with
        | some (start, n) => String.ofList
            (joinGroups ((groups ip).take start) ++ "::".toList ++ joinGroups ((groups ip).drop (start + n)))
        | none => String.ofList (joinGroups (groups ip))
      else String.ofList ('?' :: ip.flatMap fun b => [Nat.digitChar (b.toNat / 16), Nat.digitChar (b.toNat % 16)])

/-! ### The address to report -/

structure RawAddress where
  ip : IP
  mac : List UInt8
  prefixLen : UInt8
  ifIndex : ℕ
  metric : ℕ
  hasGateway : Bool
deriving DecidableEq

structure NetworkInfo where
  ip : String
  mac : String
  prefixLength : ℕ
deriving DecidableEq

/-- `bytes.Compare(a, b) < 0`: by the values of the bytes, the first difference decides. -/
def bytesLess (a b : IP) : Bool := a.map UInt8.toNat < b.map UInt8.toNat

def betterAddress (a b : RawAddress) : Bool :=
  let av4 := (to4 a.ip).isSome
  let bv4 := (to4 b.ip).isSome
  if av4 != bv4 then av4
  else if a.hasGateway != b.hasGateway then a.hasGateway
  else if a.metric ≠ b.metric then a.metric < b.metric
  else if a.ifIndex ≠ b.ifIndex then a.ifIndex < b.ifIndex
  else bytesLess ((to16 a.ip).getD []) ((to16 b.ip).getD [])

def usablePrefixLength (ip : IP) (prefixLen : UInt8) : ℕ :=
  let max : UInt8 := if (to4 ip).isSome then 32 else 128
  if prefixLen = 0 || prefixLen > max then 0 else prefixLen.toNat

/-- `macLength`. -/
def macLength : ℕ := 6

def formatMAC (mac : List UInt8) : String :=
  if mac.length ≠ macLength then ""
  else if mac = List.replicate macLength 0 then ""
  else Wol.formatMac mac

def elect (addrs : List RawAddress) : NetworkInfo :=
  match electBy betterAddress (addrs.filter fun a => usableAddress a.ip) with
  | none => ⟨"", "", 0⟩
  | some best => ⟨ipString best.ip, formatMAC best.mac, usablePrefixLength best.ip best.prefixLen⟩

/-! ### The session to report -/

/-- `wtsActive`. -/
def wtsActive : ℕ := 0

structure RawSession where
  id : ℕ
  state : ℕ
  user : String
  domain : String
  isConsole : Bool
deriving DecidableEq

def sessionRank (s : RawSession) : ℕ :=
  (if s.state = wtsActive then 2 else 0) + if s.isConsole then 1 else 0

def betterSession (s best : RawSession) : Bool :=
  sessionRank s > sessionRank best || sessionRank s = sessionRank best && s.id < best.id

def electSession (sessions : List RawSession) : Option RawSession := electBy betterSession sessions

/-! ### The comparisons are strict orders -/

/-- The criteria, most significant first, each lower when it is better. -/
def addressKey (a : RawAddress) : Bool ×ₗ Bool ×ₗ ℕ ×ₗ ℕ ×ₗ List ℕ :=
  toLex (!(to4 a.ip).isSome, toLex (!a.hasGateway, toLex (a.metric, toLex (a.ifIndex,
    ((to16 a.ip).getD []).map UInt8.toNat))))

theorem betterAddress_iff (a b : RawAddress) : betterAddress a b = true ↔ addressKey a < addressKey b := by
  unfold betterAddress addressKey
  simp only [Prod.Lex.toLex_lt_toLex]
  by_cases hv4 : (to4 a.ip).isSome = (to4 b.ip).isSome
  · by_cases hgateway : a.hasGateway = b.hasGateway
    · by_cases hmetric : a.metric = b.metric
      · by_cases hindex : a.ifIndex = b.ifIndex
        · simp [hv4, hgateway, hmetric, hindex, bytesLess]
        · simp [hv4, hgateway, hmetric, hindex]
      · simp [hv4, hgateway, hmetric]
    · cases ha : a.hasGateway <;> cases hb : b.hasGateway <;> simp_all
  · cases ha : (to4 a.ip).isSome <;> cases hb : (to4 b.ip).isSome <;> simp_all

def sessionKey (s : RawSession) : ℕᵒᵈ ×ₗ ℕ := toLex (OrderDual.toDual (sessionRank s), s.id)

theorem betterSession_iff (a b : RawSession) : betterSession a b = true ↔ sessionKey a < sessionKey b := by
  unfold betterSession sessionKey
  rw [Prod.Lex.toLex_lt_toLex]
  simp

/-! ### The order of the enumeration -/

section

variable {addrs addrs' : List RawAddress} {sessions sessions' : List RawSession}

lemma length_of_to16 {ip ip16 : IP} (h : to16 ip = some ip16) : ip16.length = 16 := by
  unfold to16 at h
  split at h
  · cases h
    rename_i hlength
    rw [List.length_append, hlength]
    rfl
  · split at h
    · cases h
      assumption
    · cases h

lemma to16_injective_getD {ip ip' : IP} (h : (to16 ip).getD [] = (to16 ip').getD []) : to16 ip = to16 ip' := by
  cases hip : to16 ip with
  | none =>
    cases hip' : to16 ip' with
    | none => rfl
    | some ip16 =>
      rw [hip, hip', Option.getD_none, Option.getD_some] at h
      have hlength := length_of_to16 hip'
      rw [← h] at hlength
      cases hlength
  | some ip16 =>
    cases hip' : to16 ip' with
    | none =>
      rw [hip, hip', Option.getD_none, Option.getD_some] at h
      have hlength := length_of_to16 hip
      rw [h] at hlength
      cases hlength
    | some ip16' =>
      rw [hip, hip', Option.getD_some, Option.getD_some] at h
      rw [h]

/-- Addresses told apart by their adapter and their value are told apart by the criteria. -/
lemma nodup_addressKey (h : (addrs.map fun a => (a.ifIndex, to16 a.ip)).Nodup) :
    (addrs.map addressKey).Nodup := by
  rw [List.Nodup, List.pairwise_map] at h ⊢
  refine h.imp fun {a b} hne hkey => hne ?_
  have hcriteria := (Prod.mk.inj (toLex_inj.1 (Prod.mk.inj (toLex_inj.1 (Prod.mk.inj (toLex_inj.1
    (Prod.mk.inj (toLex_inj.1 hkey)).2)).2)).2))
  have hbytes := List.map_injective_iff.2 (fun x y hxy => UInt8.toNat_inj.1 hxy) hcriteria.2
  rw [hcriteria.1, to16_injective_getD hbytes]

lemma nodup_sessionKey (h : (sessions.map RawSession.id).Nodup) : (sessions.map sessionKey).Nodup := by
  rw [List.Nodup, List.pairwise_map] at h ⊢
  exact h.imp fun {a b} hne hkey => hne (Prod.mk.inj (toLex_inj.1 hkey)).2

/-- **The enumeration's order elects nobody.**  Addresses with distinct adapter and value, and sessions with
distinct ids, elect the same address with the same hardware address, and the same session, in any order. -/
theorem elections_perm (addrs addrs' : List RawAddress) (sessions sessions' : List RawSession)
    (haddrs : addrs.Perm addrs') (hsessions : sessions.Perm sessions')
    (hdistinct : (addrs.map fun a => (a.ifIndex, to16 a.ip)).Nodup)
    (hids : (sessions.map RawSession.id).Nodup) :
    elect addrs = elect addrs' ∧ electSession sessions = electSession sessions' := by
  constructor
  · have hkeys : ((addrs.filter fun a => usableAddress a.ip).map addressKey).Nodup :=
      (nodup_addressKey hdistinct).sublist (List.filter_sublist.map _)
    have helected := electBy_perm betterAddress_iff hkeys (haddrs.filter fun a => usableAddress a.ip)
    rw [elect, elect, helected]
  · exact electBy_perm betterSession_iff (nodup_sessionKey hids) hsessions

end

/-- A docked laptop: its Ethernet adapter, its Wi-Fi and a host-only switch. -/
def docked : List RawAddress :=
  [⟨[192, 168, 56, 1], [0x0a, 0, 0x27, 0, 0, 1], 24, 3, 15, false⟩,
    ⟨[10, 0, 0, 8], [0, 0x1c, 0x42, 1, 2, 3], 16, 7, 55, true⟩,
    ⟨[10, 0, 0, 7], [0, 0x1c, 0x42, 0xa, 0xb, 0xc], 16, 12, 25, true⟩]

def twoSessions : List RawSession :=
  [⟨2, 4, "paul", "PARC", false⟩, ⟨1, 0, "anna", "PARC", true⟩]

/-- The Ethernet adapter and the session at the console, whichever comes first. -/
theorem elections_perm_docked : elect docked = elect docked.reverse ∧
    electSession twoSessions = electSession twoSessions.reverse ∧
    elect docked = ⟨"10.0.0.7", "00:1C:42:0A:0B:0C", 16⟩ := by
  obtain ⟨haddress, hsession⟩ := elections_perm docked docked.reverse twoSessions twoSessions.reverse
    (List.reverse_perm _).symm (List.reverse_perm _).symm (by decide) (by decide)
  exact ⟨haddress, hsession, by decide +kernel⟩

end Tiai.Elections
