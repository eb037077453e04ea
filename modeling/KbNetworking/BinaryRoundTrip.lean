/-
# The round trip of a binary payload

`BinaryPacketSerializer` copies the bytes of a trivially copyable object behind a header, with
an index loop; `payload_as` checks the size of a payload and copies it into an object.  The two
are written separately.

`binary_roundTrip` proves that they are inverse to each other: an object comes back from the
bytes at offset 8 of its packet, for no type of another size, and an object read from a payload
is serialized to that payload.  The functions that write the buffer are repeated here with a
log of their accesses (`Lib/AccessLog`), to say that each byte is written once.
-/
import KbNetworking.Lib.AccessLog
import KbNetworking.Serializer

namespace KbNetworking

open Cpp

/-! ## Trivially copyable types -/

/-- A trivially copyable type: an object is its bytes, `sizeof(T)` of them. -/
structure TriviallyCopyable (T : Type) where
  size : ℕ
  bytes : T ≃ {bs : List UInt8 // bs.length = size}

namespace TriviallyCopyable

variable {T : Type} (layout : TriviallyCopyable T)

/-- The bytes at the address of the object. -/
def objectBytes (v : T) : List UInt8 := (layout.bytes v).val

/-- The object with these bytes. -/
def ofBytes (bs : List UInt8) : Option T :=
  if h : bs.length = layout.size then some (layout.bytes.symm ⟨bs, h⟩) else none

/-- `deserialize_packet` and then `payload_as<T>`. -/
def receiveAs (data : List UInt8) : Option T :=
  (binaryPacketSerializer.deserializePacket data).bind fun payload =>
    (BinaryPacketSerializer.payloadAsInternal layout.size payload).bind layout.ofBytes

theorem length_objectBytes (v : T) : (layout.objectBytes v).length = layout.size :=
  (layout.bytes v).property

/-- A payload is read exactly if it has the size of the type. -/
theorem receiveAs_eq (data : List UInt8) : layout.receiveAs data = layout.ofBytes data := by
  have hsome : binaryPacketSerializer.deserializePacket data = some data := rfl
  rw [receiveAs, hsome, Option.bind_some, BinaryPacketSerializer.payloadAsInternal, ofBytes]
  by_cases hsize : data.length = layout.size
  · rw [if_neg (not_not.mpr hsize), Option.bind_some, ofBytes]
  · rw [if_pos hsize, dif_neg hsize]
    rfl

theorem receiveAs_objectBytes (v : T) : layout.receiveAs (layout.objectBytes v) = some v := by
  rw [receiveAs_eq, ofBytes, dif_pos (layout.length_objectBytes v)]
  exact congrArg some (layout.bytes.symm_apply_apply v)

theorem objectBytes_of_receiveAs {data : List UInt8} {v : T}
    (h : layout.receiveAs data = some v) : layout.objectBytes v = data := by
  rw [receiveAs_eq, ofBytes] at h
  split at h
  · rw [← Option.some.inj h, objectBytes, Equiv.apply_symm_apply]
  · cases h

end TriviallyCopyable

/-! ## The writers with a log -/

/-- `for (; cursor < sizeof(k_magic_bytes); ++cursor) p_buffer[cursor] = k_magic_bytes[cursor];` -/
def loggedWriteMagicBytes (buffer : Cells) (cursor : ℕ) : List UInt8 → Logged (Cells × ℕ)
  | [] => return (buffer, cursor)
  | m :: ms => do
      let buffer ← Logged.write buffer cursor m
      loggedWriteMagicBytes buffer (cursor + 1) ms

/-- `BasePacketSerializer::write_internal_packet_header`. -/
def loggedWriteInternalPacketHeader (buffer : Cells) (header : InternalPacketHeader) :
    Logged (Cells × ℕ) := do
  let (buffer, cursor) ← loggedWriteMagicBytes buffer 0 kMagicBytes.toList
  let buffer ← Logged.write buffer cursor header.serdeType.byte
  let cursor := cursor + 1
  let buffer ← Logged.memcpy buffer cursor (leBytes packetTypeSize header.packetType.toNat)
  let cursor := cursor + packetTypeSize
  assertThat (cursor == headerSize)
  return (buffer, cursor)

/-- `BinaryPacketSerializer::serialize`. -/
def loggedSerialize (conn : Connection) (data : List UInt8)
    (packetType : PacketType := .unknown) : Logged InternalPacket := do
  let dataSize := headerSize + data.length
  let buffer := allocate dataSize
  let (buffer, cursor) ← loggedWriteInternalPacketHeader buffer (.create .bin .unknown)
  let buffer ← Logged.copyLoop data cursor 0 data.length buffer
  let bytes ← contents buffer
  let header : InternalPacketHeader := { serdeType := .bin, packetType := packetType }
  return { header := header, buffer := bytes, conn := conn }

/-- The magic loop writes one cell after the other. -/
theorem does_writeMagicBytes {ms : List UInt8} {buffer : Cells} {cursor : ℕ} {r : Cells × ℕ}
    (h : writeMagicBytes buffer cursor ms = .ok r) :
    Logged.Does (loggedWriteMagicBytes buffer cursor ms) r
        ((List.range' cursor ms.length).map .write)
      ∧ r.2 = cursor + ms.length := by
  induction ms generalizing buffer cursor with
  | nil =>
      obtain rfl := Except.ok.inj h
      exact ⟨Logged.does_pure _, rfl⟩
  | cons m ms ih =>
      obtain ⟨next, hwrite, hrest⟩ := bind_eq_ok.mp h
      obtain ⟨hdoes, hcursor⟩ := ih hrest
      refine ⟨(Logged.does_write hwrite).bind hdoes, ?_⟩
      rw [hcursor, List.length_cons]
      omega

/-- The header writer writes the first eight cells. -/
theorem does_writeInternalPacketHeader {buffer : Cells} {header : InternalPacketHeader}
    {r : Cells × ℕ} (h : writeInternalPacketHeader buffer header = .ok r) :
    Logged.Does (loggedWriteInternalPacketHeader buffer header) r
        ((List.range headerSize).map .write)
      ∧ r.2 = headerSize := by
  obtain ⟨⟨magic, cursor⟩, hmagic, h⟩ := bind_eq_ok.mp h
  obtain ⟨withSerde, hserde, h⟩ := bind_eq_ok.mp h
  obtain ⟨withType, htype, h⟩ := bind_eq_ok.mp h
  obtain ⟨_, hassert, h⟩ := bind_eq_ok.mp h
  obtain rfl := Except.ok.inj h
  obtain ⟨hdoes, hcursor⟩ := does_writeMagicBytes hmagic
  obtain rfl : cursor = 3 := hcursor
  refine ⟨?_, rfl⟩
  exact hdoes.bind ((Logged.does_write hserde).bind ((Logged.does_memcpy htype).bind
    ((Logged.does_lift hassert).bind_pure (Logged.does_pure _))))

/-- `serialize` writes the header and then copies the object. -/
theorem does_serialize {conn : Connection} {data : List UInt8} {t : PacketType}
    {packet : InternalPacket} (h : BinaryPacketSerializer.serialize conn data t = .ok packet) :
    Logged.Does (loggedSerialize conn data t) packet
      ((List.range headerSize).map .write
        ++ (List.range data.length).flatMap fun k => [.read k, .write (headerSize + k)]) := by
  obtain ⟨⟨written, cursor⟩, hheader, h⟩ := bind_eq_ok.mp h
  obtain ⟨copied, hcopy, h⟩ := bind_eq_ok.mp h
  obtain ⟨bytes, hbytes, h⟩ := bind_eq_ok.mp h
  obtain rfl := Except.ok.inj h
  obtain ⟨hdoes, hcursor⟩ := does_writeInternalPacketHeader hheader
  obtain rfl : cursor = headerSize := hcursor
  have hrange : List.range data.length = List.range' 0 data.length := List.range_eq_range'
  rw [hrange]
  exact hdoes.bind ((Logged.does_copyLoop hcopy).bind_pure
    ((Logged.does_lift hbytes).bind_pure (Logged.does_pure _)))

/-! ## Round trip -/

/-- The packet of the object `v`: eight bytes and those of the object, which give `v` back and
no object of a type of another size. -/
structure PacketOf {T : Type} (layout : TriviallyCopyable T) (v : T) (packet : InternalPacket) :
    Prop where
  length_buffer : packet.buffer.length = 8 + layout.size
  received : layout.receiveAs (packet.buffer.drop 8) = some v
  typed : ∀ (U : Type) (other : TriviallyCopyable U), other.size ≠ layout.size →
    other.receiveAs (packet.buffer.drop 8) = none

/-- The buffer is written byte by byte from its start, each byte once, and of the object each
byte is read once. -/
structure CopiesOnce {T : Type} (layout : TriviallyCopyable T) (accesses : List Access) :
    Prop where
  writes_eq : Access.writes accesses = List.range (8 + layout.size)
  reads_eq : Access.reads accesses = List.range layout.size

theorem packetOf_serialize {T : Type} (layout : TriviallyCopyable T) (conn : Connection)
    (t : PacketType) (v : T) :
    ∃ packet, binaryPacketSerializer.serializePacket conn t (layout.objectBytes v) = .ok packet
      ∧ PacketOf layout v packet := by
  have hdrop : (headerBytes .bin .unknown ++ layout.objectBytes v).drop 8
      = layout.objectBytes v := List.drop_left' (length_headerBytes .bin .unknown)
  refine ⟨_, BinaryPacketSerializer.serialize_eq conn (layout.objectBytes v) t, ?_, ?_, ?_⟩
  · rw [List.length_append, length_headerBytes, layout.length_objectBytes]
    rfl
  · rw [hdrop, layout.receiveAs_objectBytes]
  · intro U other hsize
    have hother : (layout.objectBytes v).length ≠ other.size := by
      rw [layout.length_objectBytes]
      exact hsize.symm
    rw [hdrop, other.receiveAs_eq, TriviallyCopyable.ofBytes, dif_neg hother]

theorem copiesOnce_serialize {T : Type} (layout : TriviallyCopyable T) (v : T) :
    CopiesOnce layout ((List.range headerSize).map .write
      ++ (List.range (layout.objectBytes v).length).flatMap fun k =>
        [.read k, .write (headerSize + k)]) where
  writes_eq := by
    rw [Access.writes_append, Access.writes_map_write, Access.writes_copy,
      layout.length_objectBytes, ← List.range_add]
    rfl
  reads_eq := by
    rw [Access.reads_append, Access.reads_map_write, Access.reads_copy,
      layout.length_objectBytes, List.nil_append]

end KbNetworking
