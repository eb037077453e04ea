/-
# The header codec is exact

The header writer and the header parser are written separately, each as a loop with a
running cursor.  This module proves that they are inverse to each other over the whole
format: parsing what was written gives the header back whatever follows it
(`parseHeader_headerBytes_append`), the parser accepts exactly the strings with the magic
bytes and room for a header (`parseHeader_isSome_iff`), and writing the parsed header again
gives back the accepted string (`headerBytes_append_drop`).
-/
import KbNetworking.Packet

namespace KbNetworking

open Cpp

/-- The bytes that `write_internal_packet_header` leaves in a fresh eight-byte buffer. -/
def writtenHeaderBytes (header : InternalPacketHeader) : Checked (List UInt8) := do
  let (buffer, _) ← writeInternalPacketHeader (allocate headerSize) header
  contents buffer

/-- The writer fills a fresh header buffer with the bytes of the format. -/
theorem writtenHeaderBytes_eq (header : InternalPacketHeader) :
    writtenHeaderBytes header = .ok (headerBytes header.serdeType header.packetType) := by
  have hwrite := writeInternalPacketHeader_filled header 0
  rw [Nat.add_zero, ← allocate_eq_filled] at hwrite
  rw [writtenHeaderBytes, hwrite, ok_bind]
  exact contents_filled _

/-- Parsing a written header gives it back, whatever payload follows. -/
theorem parseHeader_headerBytes_append (s : SerializationType) (t : PacketType)
    (p : List UInt8) : parseHeader (headerBytes s t ++ p) = some (.create s t) := by
  obtain ⟨t₀, t₁, t₂, t₃, ht⟩ : ∃ t₀ t₁ t₂ t₃,
      leBytes packetTypeSize t.toNat = [t₀, t₁, t₂, t₃] := ⟨_, _, _, _, rfl⟩
  have hvalue : UInt32.ofNat (leValue [t₀, t₁, t₂, t₃]) = t := by
    rw [← ht]
    exact ofNat_leValue_leBytes t
  rw [headerBytes, ht]
  simp [parseHeader, kMagicBytes, hvalue, InternalPacketHeader.create]

/-- A parsed header has the magic bytes, and writing it gives the first eight bytes. -/
theorem headerBytes_append_drop {b : List UInt8} {header : InternalPacketHeader}
    (h : parseHeader b = some header) :
    headerBytes header.serdeType header.packetType ++ b.drop headerSize = b := by
  obtain ⟨m₀, m₁, m₂, s, t₀, t₁, t₂, t₃, p, rfl⟩ :=
    exists_eq_of_headerSize_le (headerSize_le_of_parseHeader h)
  simp only [parseHeader, Option.ite_none_right_eq_some, Option.some.injEq] at h
  obtain ⟨hmagic, rfl⟩ := h
  have htype : leBytes packetTypeSize (UInt32.ofNat (leValue [t₀, t₁, t₂, t₃])).toNat
      = [t₀, t₁, t₂, t₃] := leBytes_ofNat_leValue rfl
  rw [headerBytes, htype, ← hmagic]
  rfl

/-- The parser accepts exactly the strings of at least eight bytes that start with `KBL`. -/
theorem parseHeader_isSome_iff (b : List UInt8) :
    (parseHeader b).isSome ↔ headerSize ≤ b.length ∧ b.take 3 = [0x4B, 0x42, 0x4C] := by
  by_cases hlen : headerSize ≤ b.length
  · obtain ⟨m₀, m₁, m₂, s, t₀, t₁, t₂, t₃, p, rfl⟩ := exists_eq_of_headerSize_le hlen
    simp [parseHeader, kMagicBytes, headerSize, packetTypeSize]
  · rw [parseHeader_of_lt (Nat.not_le.mp hlen)]
    simp [hlen]

/-- **The header codec is exact both ways, on every input.**  The header of any
serialization byte and packet type occupies the first eight bytes and parses back whatever
follows it; a string is accepted exactly when it has room for a header and the magic bytes;
an accepted string is its header written again, followed by the rest; and the parser
faults on no input. -/
theorem headerCodec_exact :
    (∀ s t n, ∃ header,
      writeInternalPacketHeader (allocate (8 + n)) (.create s t) = .ok (filled header n, 8)
        ∧ header.length = 8
        ∧ ∀ p, unpackInternalPacketHeader (header ++ p) = .ok (some (.create s t)))
    ∧ (∀ b, (∃ header, unpackInternalPacketHeader b = .ok (some header))
        ↔ 8 ≤ b.length ∧ b.take 3 = [0x4B, 0x42, 0x4C])
    ∧ (∀ b header, unpackInternalPacketHeader b = .ok (some header) →
        ∃ bytes, writtenHeaderBytes header = .ok bytes ∧ bytes ++ b.drop 8 = b)
    ∧ ∀ b, ∃ result, unpackInternalPacketHeader b = .ok result := by
  refine ⟨fun s t n => ⟨headerBytes s t, ?_, length_headerBytes s t, fun p => ?_⟩,
    fun b => ?_, fun b header h => ?_, fun b => ⟨_, unpackInternalPacketHeader_eq b⟩⟩
  · exact writeInternalPacketHeader_filled (.create s t) n
  · rw [unpackInternalPacketHeader_eq, parseHeader_headerBytes_append]
  · rw [unpackInternalPacketHeader_eq]
    simp only [Except.ok.injEq, ← Option.isSome_iff_exists]
    exact parseHeader_isSome_iff b
  · rw [unpackInternalPacketHeader_eq, Except.ok.injEq] at h
    exact ⟨_, writtenHeaderBytes_eq header, headerBytes_append_drop h⟩

example : (writtenHeaderBytes (.create .bin 1000)).toOption
    = some [0x4B, 0x42, 0x4C, 0, 0xE8, 3, 0, 0] := by decide

end KbNetworking
