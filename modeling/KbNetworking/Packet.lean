/-
# Packet headers

The eight-byte packet header (`packet.hpp`) and the two loops that write and parse it
(`BasePacketSerializer::write_internal_packet_header`, `unpack_internal_packet_header`).
Both are translated with their running cursor, their bounds-checked memory accesses and
their assertion.

`headerBytes` and `parseHeader` state the format itself: three magic bytes, the
serialization byte, the packet type in four little-endian bytes.  The spec lemmas
`writeInternalPacketHeader_filled` and `unpackInternalPacketHeader_eq` say that the loops
compute the format, on every input and without a fault, and later modules use only these.
-/
import KbNetworking.Lib.ByteBuffer
import KbNetworking.NetworkTypes

namespace KbNetworking

open Cpp

/-- `internal_packet_header_t`. -/
structure InternalPacketHeader where
  magicHeader : Vector UInt8 3 := kMagicBytes
  serdeType : SerializationType := .bin
  packetType : PacketType := .unknown
  deriving DecidableEq, Repr

/-- `internal_packet_header_t::create`. -/
def InternalPacketHeader.create (serdeType : SerializationType) (packetType : PacketType) :
    InternalPacketHeader :=
  { serdeType, packetType }

/-- `sizeof(packet_type_t)`. -/
def packetTypeSize : ℕ := 4

/-- `sizeof(internal_packet_header_t)`: the magic bytes, the serialization byte, and the
packet type at its natural alignment. -/
def headerSize : ℕ := 3 + 1 + packetTypeSize

/-- `internal_packet_t`; the owning buffer is the list of its bytes. -/
structure InternalPacket where
  header : InternalPacketHeader
  buffer : List UInt8
  conn : Connection
  deriving DecidableEq, Repr

/-! ## Writing a header -/

/-- `for (; cursor < sizeof(k_magic_bytes); ++cursor) p_buffer[cursor] = k_magic_bytes[cursor];` -/
def writeMagicBytes (buffer : Cells) (cursor : ℕ) : List UInt8 → Checked (Cells × ℕ)
  | [] => .ok (buffer, cursor)
  | m :: ms => do
      let buffer ← write buffer cursor m
      writeMagicBytes buffer (cursor + 1) ms

/-- `BasePacketSerializer::write_internal_packet_header`: the buffer and the cursor after
the header. -/
def writeInternalPacketHeader (buffer : Cells) (header : InternalPacketHeader) :
    Checked (Cells × ℕ) := do
  let (buffer, cursor) ← writeMagicBytes buffer 0 kMagicBytes.toList
  let buffer ← write buffer cursor header.serdeType.byte
  let cursor := cursor + 1
  let buffer ← memcpy buffer cursor (leBytes packetTypeSize header.packetType.toNat)
  let cursor := cursor + packetTypeSize
  assertThat (cursor == headerSize)
  return (buffer, cursor)

/-! ## Parsing a header -/

/-- The magic loop of `unpack_internal_packet_header`: the cursor after it, or `none` when
a byte differs. -/
def matchMagicBytes (data : List UInt8) (cursor : ℕ) : List UInt8 → Checked (Option ℕ)
  | [] => .ok (some cursor)
  | m :: ms => do
      let b ← readByte data cursor
      if b ≠ m then return none
      matchMagicBytes data (cursor + 1) ms

/-- `unpack_internal_packet_header`. -/
def unpackInternalPacketHeader (data : List UInt8) : Checked (Option InternalPacketHeader) := do
  if data.length < headerSize then return none
  match ← matchMagicBytes data 0 kMagicBytes.toList with
  | none => return none
  | some cursor =>
      let serdeByte ← readByte data cursor
      let cursor := cursor + 1
      let typeBytes ← readRange data cursor packetTypeSize
      let cursor := cursor + packetTypeSize
      assertThat (cursor == headerSize)
      return some { serdeType := ⟨serdeByte⟩, packetType := UInt32.ofNat (leValue typeBytes) }

/-! ## The format -/

/-- The eight bytes of a header. -/
def headerBytes (serdeType : SerializationType) (packetType : PacketType) : List UInt8 :=
  kMagicBytes.toList ++ [serdeType.byte] ++ leBytes packetTypeSize packetType.toNat

/-- The header that a byte string starts with. -/
def parseHeader : List UInt8 → Option InternalPacketHeader
  | m₀ :: m₁ :: m₂ :: s :: t₀ :: t₁ :: t₂ :: t₃ :: _ =>
      if [m₀, m₁, m₂] = kMagicBytes.toList then
        some { serdeType := ⟨s⟩, packetType := UInt32.ofNat (leValue [t₀, t₁, t₂, t₃]) }
      else none
  | _ => none

@[simp] theorem length_headerBytes (s : SerializationType) (t : PacketType) :
    (headerBytes s t).length = headerSize := by
  simp [headerBytes, headerSize, packetTypeSize]

/-- Four bytes hold every packet type. -/
theorem ofNat_leValue_leBytes (t : PacketType) :
    UInt32.ofNat (leValue (leBytes packetTypeSize t.toNat)) = t := by
  rw [leValue_leBytes, Nat.mod_eq_of_lt (by simpa [packetTypeSize] using t.toNat_lt)]
  exact UInt32.ofNat_toNat

/-- Four bytes are the encoding of the type they are read as. -/
theorem leBytes_ofNat_leValue {bs : List UInt8} (h : bs.length = packetTypeSize) :
    leBytes packetTypeSize (UInt32.ofNat (leValue bs)).toNat = bs := by
  have hlt : leValue bs < 2 ^ 32 := by
    have := leValue_lt bs
    rw [h] at this
    simpa [packetTypeSize] using this
  rw [UInt32.toNat_ofNat', Nat.mod_eq_of_lt hlt, ← h]
  exact leBytes_leValue bs

/-- A string of at least eight bytes is its first eight bytes and a rest. -/
theorem exists_eq_of_headerSize_le {data : List UInt8} (h : headerSize ≤ data.length) :
    ∃ m₀ m₁ m₂ s t₀ t₁ t₂ t₃ p, data = m₀ :: m₁ :: m₂ :: s :: t₀ :: t₁ :: t₂ :: t₃ :: p := by
  match data with
  | m₀ :: m₁ :: m₂ :: s :: t₀ :: t₁ :: t₂ :: t₃ :: p =>
      exact ⟨m₀, m₁, m₂, s, t₀, t₁, t₂, t₃, p, rfl⟩
  | [] | [_] | [_, _] | [_, _, _] | [_, _, _, _] | [_, _, _, _, _] | [_, _, _, _, _, _]
  | [_, _, _, _, _, _, _] => simp [headerSize, packetTypeSize] at h

/-- Too short a string has no header. -/
theorem parseHeader_of_lt {data : List UInt8} (h : data.length < headerSize) :
    parseHeader data = none := by
  match data with
  | _ :: _ :: _ :: _ :: _ :: _ :: _ :: _ :: p =>
      simp only [List.length_cons, headerSize, packetTypeSize] at h
      omega
  | [] | [_] | [_, _] | [_, _, _] | [_, _, _, _] | [_, _, _, _, _] | [_, _, _, _, _, _]
  | [_, _, _, _, _, _, _] => rfl

/-- A string with a header has room for it. -/
theorem headerSize_le_of_parseHeader {data : List UInt8} {header : InternalPacketHeader}
    (h : parseHeader data = some header) : headerSize ≤ data.length := by
  by_contra hlt
  rw [parseHeader_of_lt (by omega)] at h
  cases h

/-! ## The loops compute the format -/

/-- The writer puts the header in the first eight cells and stops after them. -/
theorem writeInternalPacketHeader_filled (header : InternalPacketHeader) (n : ℕ) :
    writeInternalPacketHeader (filled [] (headerSize + n)) header
      = .ok (filled (headerBytes header.serdeType header.packetType) n, headerSize) := by
  have hmagic : writeMagicBytes (filled [] (headerSize + n)) 0 kMagicBytes.toList
      = .ok (filled kMagicBytes.toList (5 + n), 3) := by
    rw [show headerSize + n = (5 + n) + 1 + 1 + 1 by simp only [headerSize, packetTypeSize]; omega]
    have h₀ := write_filled [] ((5 + n) + 1 + 1) 0x4B
    have h₁ := write_filled [0x4B] ((5 + n) + 1) 0x42
    have h₂ := write_filled [0x4B, 0x42] (5 + n) 0x4C
    simp only [List.length_nil, List.nil_append, List.length_cons, List.cons_append,
      Nat.zero_add, Nat.reduceAdd] at h₀ h₁ h₂
    simp [kMagicBytes, writeMagicBytes, h₀, h₁, h₂]
  have hserde := write_filled kMagicBytes.toList (4 + n) header.serdeType.byte
  have htype := memcpy_filled (leBytes packetTypeSize header.packetType.toNat)
    (kMagicBytes.toList ++ [header.serdeType.byte]) n
  simp only [Vector.length_toList, List.length_append, List.length_singleton, length_leBytes,
    packetTypeSize] at hserde htype
  rw [writeInternalPacketHeader, hmagic, ok_bind]
  simp only [show 5 + n = 4 + n + 1 by omega, hserde, ok_bind, packetTypeSize, Nat.reduceAdd,
    htype, headerBytes, headerSize, beq_self_eq_true, assertThat_true, pure_eq_ok]

/-- The parser returns the header of the format and never faults. -/
theorem unpackInternalPacketHeader_eq (data : List UInt8) :
    unpackInternalPacketHeader data = .ok (parseHeader data) := by
  by_cases hlen : data.length < headerSize
  · rw [parseHeader_of_lt hlen, unpackInternalPacketHeader, if_pos hlen]
    rfl
  · obtain ⟨m₀, m₁, m₂, s, t₀, t₁, t₂, t₃, p, rfl⟩ :=
      exists_eq_of_headerSize_le (Nat.not_lt.mp hlen)
    -- the three comparisons of the magic loop, in order
    by_cases h₀ : m₀ = 0x4B
    · by_cases h₁ : m₁ = 0x42
      · by_cases h₂ : m₂ = 0x4C
        · subst h₀ h₁ h₂
          have htype : readRange (0x4B :: 0x42 :: 0x4C :: s :: t₀ :: t₁ :: t₂ :: t₃ :: p) 4 4
              = .ok [t₀, t₁, t₂, t₃] := by
            rw [readRange_of_le (by simp)]
            simp
          simp [unpackInternalPacketHeader, parseHeader, kMagicBytes, matchMagicBytes, readByte,
            headerSize, packetTypeSize, htype]
        · simp [unpackInternalPacketHeader, parseHeader, kMagicBytes, matchMagicBytes, readByte,
            headerSize, packetTypeSize, h₀, h₁, h₂]
      · simp [unpackInternalPacketHeader, parseHeader, kMagicBytes, matchMagicBytes, readByte,
          headerSize, packetTypeSize, h₀, h₁]
    · simp [unpackInternalPacketHeader, parseHeader, kMagicBytes, matchMagicBytes, readByte,
        headerSize, packetTypeSize, h₀]

end KbNetworking
