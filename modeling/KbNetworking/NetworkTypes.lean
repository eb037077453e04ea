/-
# Network types

The types and constants shared by the client and the server (`network_types.h`,
`network_types.cpp`, `kb_network_types.h`, `kb_networking.h`).

`serialization_type_t` has a fixed underlying type, so a value of it is any byte and the
enumerators are three of them; it is modelled by its byte, and a header with a byte that
names no enumerator is a header like any other.
-/
import Mathlib

namespace KbNetworking

/-- `packet_type_t`. -/
abbrev PacketType := UInt32

/-- `kb_connection_t`, the handle of a connection. -/
abbrev Connection := UInt32

/-- `KB_CONNECTION_INVALID`. -/
def kInvalidConnection : Connection := 0

/-- `listen_socket_t`. -/
abbrev ListenSocket := UInt32

def kInvalidListenSocket : ListenSocket := 0

/-- `poll_group_t`. -/
abbrev PollGroup := UInt32

def kInvalidPollGroup : PollGroup := 0

/-- `internal_packet_id_t::unknown`. -/
def PacketType.unknown : PacketType := 0

/-- `serialization_type_t`, an enumeration over a byte. -/
structure SerializationType where
  byte : UInt8
  deriving DecidableEq, Repr

namespace SerializationType

def bin : SerializationType := ⟨0⟩
def msgpack : SerializationType := ⟨1⟩
def custom : SerializationType := ⟨7⟩

end SerializationType

/-- `k_magic_bytes`: `KBL`. -/
def kMagicBytes : Vector UInt8 3 := #v[0x4B, 0x42, 0x4C]

/-- A received message as a handler sees it (`incoming_view_message_t`). -/
structure IncomingViewMessage where
  conn : Connection
  buffer : List UInt8
  deriving DecidableEq, Repr

/-! ## Addresses -/

/-- `SteamNetworkingIPAddr`: sixteen bytes in network order, and a port. -/
structure SteamNetworkingIPAddr where
  ip : Vector UInt8 16
  port : UInt16
  deriving DecidableEq, Repr

/-- `SteamNetworkingIPAddr::IsIPv4`: the IPv4-mapped prefix `::ffff:0:0/96`. -/
def SteamNetworkingIPAddr.isIPv4 (a : SteamNetworkingIPAddr) : Bool :=
  a.ip.toList.take 12 == List.replicate 10 0 ++ [0xFF, 0xFF]

/-- `ip_address_t`; its union of the IPv6 and the IPv4-mapped layout is one block of
sixteen bytes. -/
structure IpAddress where
  bytes : Vector UInt8 16
  port : UInt16
  deriving DecidableEq, Repr

/-- `copy_steam_to_ip_address`: both branches copy all sixteen bytes of the union. -/
def copySteamToIpAddress (steamAddr : SteamNetworkingIPAddr) : IpAddress :=
  if steamAddr.isIPv4 then
    { bytes := steamAddr.ip, port := steamAddr.port }
  else
    { bytes := steamAddr.ip, port := steamAddr.port }

/-- The copy loses nothing: different addresses stay different. -/
theorem copySteamToIpAddress_injective : Function.Injective copySteamToIpAddress := by
  rintro ⟨ip, port⟩ ⟨ip', port'⟩ h
  simp only [copySteamToIpAddress, ite_self, IpAddress.mk.injEq] at h
  obtain ⟨rfl, rfl⟩ := h
  rfl

end KbNetworking
