/-
# What the transport is given

Every way of sending a packet passes the size of its buffer as a 32-bit value: the packet
server converts it before it calls the server, and the client leaves the conversion to the
call of the transport.  The transport sends as many bytes as it is told to and reports
success for them.

* `sendsWhole_iff` proves that what is sent is the whole buffer exactly when the buffer is
  shorter than `2 ^ 32` bytes; a longer one loses its tail without an error.
* `broadcast_reaches` proves of the shorter ones that a broadcast attempts one send for every
  client, whatever the other sends come to.
-/
import KbNetworking.PacketDelivery

namespace KbNetworking

open Cpp

variable {Obj Payload H ι : Type}

/-! ## All or nothing -/

/-- The serialized packet is shorter than `2 ^ 32` bytes. -/
def SizeFits (serializer : PacketSerializer Obj Payload) (conn : Connection) (t : PacketType)
    (object : Obj) : Prop :=
  ∀ packet, serializer.serializePacket conn t object = .ok packet → packet.buffer.length < 2 ^ 32

/-- When `send` returns true, it has handed the whole buffer over for the connection. -/
def UdpPacketServer.SendsWhole (self : UdpPacketServer Obj Payload H) (conn : Connection)
    (t : PacketType) (object : Obj) (c : ServerContext ι) : Prop :=
  ∀ packet, self.serializer.serializePacket conn t object = .ok packet →
    ∀ reliable sent c', self.send conn t object reliable sent c = .ok (c', true) →
      c'.trace = c.trace ++ [.sendMessageToConnection packet.conn packet.buffer reliable sent]

/-- When `broadcast` returns true, it has handed the whole buffer over for every client. -/
def UdpPacketServer.BroadcastsWhole (self : UdpPacketServer Obj Payload H) (t : PacketType)
    (object : Obj) (c : ServerContext ι) : Prop :=
  ∀ packet, self.serializer.serializePacket kInvalidConnection t object = .ok packet →
    ∀ reliable sent c', self.broadcast t object reliable sent c = .ok (c', true) →
      c'.trace = c.trace ++ c.self.clients.keys.map fun conn =>
        .sendMessageToConnection conn packet.buffer reliable (sent conn)

/-- When `send_packet` returns true, it has handed the whole buffer over for the client's
connection. -/
def UdpPacketClient.SendsWhole (self : UdpPacketClient Obj Payload H) (t : PacketType)
    (object : Obj) (c : ClientContext ι) : Prop :=
  ∀ packet, self.serializer.serializePacket kInvalidConnection t object = .ok packet →
    ∀ reliable sent c', self.sendPacket t object reliable sent c = .ok (c', true) →
      c'.trace = c.trace ++ [.sendMessageToConnection c.self.conn packet.buffer reliable sent]

/-- The 32-bit size covers the buffer exactly when the buffer is short enough. -/
theorem take_size_iff (buffer : List UInt8) :
    buffer.take (UInt32.ofNat buffer.length).toNat = buffer ↔ buffer.length < 2 ^ 32 := by
  rw [List.take_eq_self_iff, UInt32.toNat_ofNat']
  have hlt : buffer.length % 2 ^ 32 < 2 ^ 32 := Nat.mod_lt _ (by norm_num)
  constructor
  · intro hle
    exact lt_of_le_of_lt hle hlt
  · intro hfits
    exact (Nat.mod_eq_of_lt hfits).ge

theorem ClientTable.isEmpty_keys (table : ClientTable) :
    table.keys.isEmpty = table.isEmpty :=
  Std.ExtTreeMap.isEmpty_keys

theorem ClientTable.nodup_keys (table : ClientTable) : table.keys.Nodup :=
  Std.ExtTreeMap.nodup_keys

/-- A run that hands the first `buffer.length % 2 ^ 32` bytes over, and returns what the
transport returns, hands the whole buffer over exactly when it is short enough. -/
theorem handsWhole_iff {σ ε : Type} {c : Context ι σ ε} {hand : List UInt8 → Bool → Bool → ε}
    {buffer : List UInt8} {run : Bool → Bool → Checked (Context ι σ ε × Bool)}
    (hhand : ∀ data, hand data true true = hand buffer true true → data = buffer)
    (hrun : ∀ reliable sent, run reliable sent
      = .ok (c.record (hand (buffer.take (UInt32.ofNat buffer.length).toNat) reliable sent),
          sent)) :
    (∀ reliable sent c', run reliable sent = .ok (c', true) →
        c'.trace = c.trace ++ [hand buffer reliable sent])
      ↔ buffer.length < 2 ^ 32 := by
  rw [← take_size_iff]
  constructor
  · intro hwhole
    have htrace := hwhole true true _ (hrun true true)
    exact hhand _ (List.singleton_inj.mp (List.append_cancel_left htrace))
  · intro htake reliable sent c' hdone
    rw [hrun, htake, Except.ok.injEq, Prod.mk.injEq] at hdone
    rw [← hdone.1]
    rfl

theorem serverSendsWhole_iff (self : UdpPacketServer Obj Payload H) (conn : Connection)
    (t : PacketType) (object : Obj) (c : ServerContext ι) :
    self.SendsWhole conn t object c ↔ SizeFits self.serializer conn t object := by
  apply forall_congr'
  intro packet
  apply forall_congr'
  intro hser
  apply handsWhole_iff
  · intro data hsame
    exact (ServerEffect.sendMessageToConnection.inj hsame).2.1
  · intro reliable sent
    rw [UdpPacketServer.send, hser]
    rfl

theorem broadcastsWhole_iff (self : UdpPacketServer Obj Payload H) (t : PacketType)
    (object : Obj) (c : ServerContext ι) :
    self.BroadcastsWhole t object c
      ↔ c.self.clients.isEmpty = true
        ∨ SizeFits self.serializer kInvalidConnection t object := by
  cases hempty : c.self.clients.isEmpty with
  | true =>
      refine iff_of_true ?_ (.inl rfl)
      intro packet hser reliable sent c' hdone
      rw [UdpPacketServer.broadcast, hser, ok_bind, UdpPacketServer.broadcastPacketInternal,
        UdpServer.broadcast, if_pos hempty] at hdone
      cases hdone
  | false =>
      rw [or_iff_right Bool.false_ne_true]
      apply forall_congr'
      intro packet
      apply forall_congr'
      intro hser
      have hbroadcast : ∀ reliable sent, self.broadcast t object reliable sent c
          = .ok ({ c with
              trace := c.trace ++ c.self.clients.keys.map (fun conn =>
                .sendMessageToConnection conn
                  (packet.buffer.take (UInt32.ofNat packet.buffer.length).toNat)
                  reliable (sent conn)) },
            c.self.clients.keys.all sent) := by
        intro reliable sent
        rw [UdpPacketServer.broadcast, hser, ok_bind, UdpPacketServer.broadcastPacketInternal,
          UdpServer.broadcast, hempty, if_neg Bool.false_ne_true, UdpServer.broadcastLoop_eq]
        rfl
      rw [← take_size_iff]
      constructor
      · intro hwhole
        rw [← ClientTable.isEmpty_keys, List.isEmpty_eq_false_iff_exists_mem] at hempty
        obtain ⟨conn, hconn⟩ := hempty
        have hall : c.self.clients.keys.all (fun _ => true) = true := by simp
        have htrace := hwhole true (fun _ => true) _ ((hbroadcast _ _).trans (by rw [hall]))
        have heach := List.map_inj_left.mp (List.append_cancel_left htrace) conn hconn
        simpa using heach
      · intro htake reliable sent c' hdone
        rw [hbroadcast, htake, Except.ok.injEq, Prod.mk.injEq] at hdone
        rw [← hdone.1]

theorem clientSendsWhole_iff (self : UdpPacketClient Obj Payload H) (t : PacketType)
    (object : Obj) (c : ClientContext ι) :
    self.SendsWhole t object c
      ↔ (c.self.interface = false ∨ c.self.conn = kInvalidConnection)
        ∨ SizeFits self.serializer kInvalidConnection t object := by
  by_cases hidle : c.self.interface = false ∨ c.self.conn = kInvalidConnection
  · refine iff_of_true ?_ (.inl hidle)
    intro packet hser reliable sent c' hdone
    rw [UdpPacketClient.sendPacket, hser, ok_bind, UdpPacketClient.sendPacketInternal,
      UdpClient.sendRaw, if_pos (by simpa using hidle)] at hdone
    cases hdone
  · rw [or_iff_right hidle]
    apply forall_congr'
    intro packet
    apply forall_congr'
    intro hser
    apply handsWhole_iff
    · intro data hsame
      exact (ClientEffect.sendMessageToConnection.inj hsame).2.1
    · intro reliable sent
      rw [UdpPacketClient.sendPacket, hser, ok_bind, UdpPacketClient.sendPacketInternal,
        UdpClient.sendRaw, if_neg (by simpa using hidle)]
      rfl

/-- **Sending is all or nothing** exactly for packets shorter than `2 ^ 32` bytes; a broadcast
without clients and a send without a connection return false. -/
theorem sendsWhole_iff (server : UdpPacketServer Obj Payload H)
    (client : UdpPacketClient Obj Payload H) (conn : Connection) (t : PacketType) (object : Obj)
    (sc : ServerContext ι) (cc : ClientContext ι) :
    (server.SendsWhole conn t object sc ↔ SizeFits server.serializer conn t object)
      ∧ (server.BroadcastsWhole t object sc
        ↔ sc.self.clients.isEmpty = true
          ∨ SizeFits server.serializer kInvalidConnection t object)
      ∧ (client.SendsWhole t object cc
        ↔ (cc.self.interface = false ∨ cc.self.conn = kInvalidConnection)
          ∨ SizeFits client.serializer kInvalidConnection t object) :=
  ⟨serverSendsWhole_iff server conn t object sc, broadcastsWhole_iff server t object sc,
    clientSendsWhole_iff client t object cc⟩

/-- The header counts: eight bytes and those of the object. -/
theorem sizeFits_binary (conn : Connection) (t : PacketType) (v : List UInt8) :
    SizeFits binaryPacketSerializer conn t v ↔ headerSize + v.length < 2 ^ 32 := by
  have hser : binaryPacketSerializer.serializePacket conn t v = .ok _ :=
    BinaryPacketSerializer.serialize_eq conn v t
  rw [SizeFits, hser]
  simp

theorem sizeFits_msgpack (m : Msgpack Obj) (conn : Connection) (t : PacketType) (x : Obj) :
    SizeFits (msgpackPacketSerializer m) conn t x ↔ headerSize + (m.pack x).length < 2 ^ 32 := by
  have hser : (msgpackPacketSerializer m).serializePacket conn t x = .ok _ :=
    MsgpackPacketSerializer.serializePacketInternal_eq m conn t x
  rw [SizeFits, hser]
  simp

/-- Of a binary object of `2 ^ 32` bytes a send hands eight bytes over, and returns true. -/
theorem not_sendsWhole_wrapped :
    ¬ ∀ (server : UdpPacketServer (List UInt8) (List UInt8) Unit) (conn : Connection)
      (t : PacketType) (object : List UInt8) (c : ServerContext Unit),
      server.SendsWhole conn t object c := by
  intro h
  have hwhole := h { serializer := binaryPacketSerializer } 5 1000 (List.replicate (2 ^ 32) 0)
    { sInstance := none, self := {}, trace := [] }
  rw [serverSendsWhole_iff, sizeFits_binary, List.length_replicate] at hwhole
  omega

/-! ## Broadcasts -/

/-- The connection that the entry sends to. -/
def ServerEffect.sentTo : ServerEffect → Option Connection
  | .sendMessageToConnection conn _ _ _ => some conn
  | _ => none

/-- The broadcast attempts one send of the buffer for every client and no other, leaves the
server as it was, and returns whether there are clients and every send succeeded. -/
structure BroadcastReaches (buffer : List UInt8) (reliable : Bool) (sent : Connection → Bool)
    (c c' : ServerContext ι) (value : Bool) : Prop where
  self_eq : c'.self = c.self
  sends : ∃ xs, c'.trace = c.trace ++ xs ∧ (∀ x ∈ xs, x.sentTo.isSome = true)
    ∧ ∀ conn, xs.filter (fun x => x.sentTo = some conn)
        = if conn ∈ c.self.clients.keys then
            [.sendMessageToConnection conn buffer reliable (sent conn)]
          else []
  value_iff : value = true
    ↔ c.self.clients.isEmpty = false ∧ ∀ conn ∈ c.self.clients.keys, sent conn = true

/-- Sends to keys that are all different reach each key once. -/
theorem filter_sends (buffer : List UInt8) (reliable : Bool) (sent : Connection → Bool)
    {conns : List Connection} (hnodup : conns.Nodup) (conn : Connection) :
    (conns.map fun conn => ServerEffect.sendMessageToConnection conn buffer reliable
        (sent conn)).filter (fun x => x.sentTo = some conn)
      = if conn ∈ conns then [.sendMessageToConnection conn buffer reliable (sent conn)]
        else [] := by
  have hkeys : conns.filter (fun k => decide (k = conn))
      = if conn ∈ conns then [conn] else [] := by
    rw [List.filter_eq, hnodup.count]
    split <;> rfl
  have hto : (fun k => decide ((ServerEffect.sendMessageToConnection k buffer reliable
      (sent k)).sentTo = some conn)) = fun k => decide (k = conn) := by
    funext k
    simp [ServerEffect.sentTo]
  rw [List.filter_map, Function.comp_def, hto, hkeys]
  split <;> rfl

theorem broadcastReaches_broadcast (data : List UInt8) (size : UInt32)
    (hsize : data.take size.toNat = data) (reliable : Bool) (sent : Connection → Bool)
    (c : ServerContext ι) :
    BroadcastReaches data reliable sent c (UdpServer.broadcast data size reliable sent c).1
      (UdpServer.broadcast data size reliable sent c).2 := by
  unfold UdpServer.broadcast
  cases hempty : c.self.clients.isEmpty with
  | true =>
      have hkeys : c.self.clients.keys = [] := by
        rw [← List.isEmpty_iff, ClientTable.isEmpty_keys, hempty]
      refine ⟨rfl, ⟨[], by simp, by simp, fun conn => ?_⟩, by simp [hempty]⟩
      rw [hkeys]
      rfl
  | false =>
      rw [if_neg Bool.false_ne_true, UdpServer.broadcastLoop_eq, hsize]
      refine ⟨rfl, ⟨_, rfl, ?_, fun conn => ?_⟩, by simp [hempty]⟩
      · intro x hx
        obtain ⟨conn, -, rfl⟩ := List.mem_map.mp hx
        rfl
      · exact filter_sends data reliable sent c.self.clients.nodup_keys conn

/-- **A broadcast reaches every client once, whatever fails.** -/
theorem broadcast_reaches (self : UdpPacketServer Obj Payload H) (t : PacketType) (object : Obj)
    (reliable : Bool) (sent : Connection → Bool) (c : ServerContext ι) (packet : InternalPacket)
    (hser : self.serializer.serializePacket kInvalidConnection t object = .ok packet)
    (hsize : packet.buffer.length < 2 ^ 32) :
    ∃ c' value, self.broadcast t object reliable sent c = .ok (c', value)
      ∧ BroadcastReaches packet.buffer reliable sent c c' value := by
  refine ⟨_, _, ?_, broadcastReaches_broadcast packet.buffer _ ((take_size_iff _).mpr hsize)
    reliable sent c⟩
  rw [UdpPacketServer.broadcast, hser]
  rfl

/-- Two clients, of which the first cannot be reached. -/
theorem broadcast_reaches_two :
    let server : UdpPacketServer (List UInt8) (List UInt8) Unit :=
      { serializer := binaryPacketSerializer }
    let addr : IpAddress := { bytes := .replicate 16 0, port := 7000 }
    let clients := (ClientTable.empty.set 5 addr).set 6 addr
    let c : ServerContext Unit := { sInstance := some (), self := { clients }, trace := [] }
    ∃ c' value, server.broadcast 1000 [20, 0] true (fun conn => conn = 6) c = .ok (c', value)
      ∧ BroadcastReaches [0x4B, 0x42, 0x4C, 0, 0, 0, 0, 0, 20, 0] true (fun conn => conn = 6)
          c c' value := by
  intro server addr clients c
  exact broadcast_reaches server 1000 [20, 0] true _ c
    ⟨.create .bin 1000, [0x4B, 0x42, 0x4C, 0, 0, 0, 0, 0, 20, 0], kInvalidConnection⟩ rfl
    (by decide)

end KbNetworking
