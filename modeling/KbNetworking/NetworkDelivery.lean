/-
# Packets are handled in the order in which they were sent

`packets_delivered`: in every state of every run of a packet server with its clients, and
for both directions of every session, the handlers that were run are those of packets that
the other application was told were sent; the reliable ones among them in the order of the
sends, none left out and none twice; and all of them once nothing is under way and nothing
waits.  The other clients may send what they like.

`Sound` carries this: what was handled is what dispatch makes of what was taken.  A poll of
the server takes messages of live connections only, and these have an entry in its table.
-/
import KbNetworking.PacketDelivery
import KbNetworking.PacketNetwork

namespace KbNetworking

open Cpp

variable {Obj H : Type}

/-! ## What a sending is for -/

namespace PacketSystem

variable (sys : PacketSystem Obj H)

/-- The handler that bytes are for, and its payload. -/
def dispatches (handlers : HandlerTable H) (data : List UInt8) : Option (H × Obj) :=
  dispatch (msgpackPacketSerializer sys.msgpack) handlers data

/-- The handler that a sending is for: a packet is for the handler of its type, with its
object, and other bytes are for whatever they parse to. -/
def delivered (handlers : HandlerTable H) : Sending Obj → Option (H × Obj)
  | .packet packetType object => (handlers[packetType]?).map fun handler => (handler, object)
  | .raw data => sys.dispatches handlers data

/-- The size of the bytes fits into 32 bits. -/
def Fits (x : Sending Obj) : Prop := (sys.bytes x).length < 2 ^ 32

theorem dispatches_message (hunpack : ∀ x, sys.msgpack.unpack (sys.msgpack.pack x) = some x)
    (handlers : HandlerTable H) {x : Sending Obj} (hfits : sys.Fits x) :
    sys.dispatches handlers (sys.message x) = sys.delivered handlers x := by
  rw [sys.message_of_lt hfits]
  cases x with
  | raw data => rfl
  | packet packetType object =>
      have hbody : (msgpackPacketSerializer sys.msgpack).deserializePacket
          (sys.msgpack.pack object) = some object := hunpack object
      have hserde : SerializationType.msgpack = (msgpackPacketSerializer sys.msgpack).serdeType := rfl
      rw [dispatches, bytes, dispatch_headerBytes_append, if_pos hserde, hbody, delivered]
      cases handlers[packetType]? <;> rfl

end PacketSystem

/-! ## One session -/

/-- What was handled is what dispatch makes of what was taken, and what is in the channels is
what the applications were told was sent. -/
structure Session.Sound (sys : PacketSystem Obj H) (conn : Connection) (s : Session Obj H) :
    Prop where
  handledUp : s.handledUp = (s.up.taken.map Prod.snd).filterMap (sys.dispatches sys.serverHandlers)
  handledDown : s.handledDown
    = (s.down.taken.map Prod.snd).filterMap (sys.dispatches (sys.clientHandlers conn))
  requests : s.up.sent = s.requests.map (Prod.map id sys.message)
  responses : s.down.sent = s.responses.map (Prod.map id sys.message)

namespace Session

variable {sys : PacketSystem Obj H} {conn : Connection} {s s' : Session Obj H}

/-- A connection that was just made. -/
theorem sound_fresh (sys : PacketSystem Obj H) (conn : Connection) (c : ClientContext Unit) :
    Sound sys conn { client := c } :=
  ⟨rfl, rfl, rfl, rfl⟩

/-- The client goes on without sending. -/
theorem Sound.settle (h : s.Sound sys conn) {c : ClientContext Unit}
    {xs : List (ClientEffect Unit)} (htrace : c.trace = s.client.trace ++ xs)
    (hxs : xs.filterMap ClientEffect.message = []) : (s.settle c).Sound sys conn where
  handledUp := h.handledUp
  handledDown := h.handledDown
  requests := by
    show (s.up.send _).sent = _
    rw [htrace, List.drop_left, hxs, Channel.send_sent, List.append_nil]
    exact h.requests
  responses := h.responses

/-- The client sends. -/
theorem Sound.send (h : s.Sound sys conn) {x : Sending Obj} {reliable sent : Bool}
    (hstep : s.step (sys.client conn) (.send x reliable sent) = some s') : s'.Sound sys conn := by
  dsimp only [step] at hstep
  rw [sys.sendOn_eq] at hstep
  split at hstep
  · rename_i c hsend
    obtain rfl := Option.some.inj hstep
    split at hsend
    · cases (Prod.mk.inj (Except.ok.inj hsend)).2
    · obtain ⟨rfl, rfl⟩ := Prod.mk.inj (Except.ok.inj hsend)
      refine ⟨h.handledUp, h.handledDown, ?_, h.responses⟩
      show (s.up.send _).sent = (s.requests ++ [(reliable, x)]).map _
      rw [Context.record_trace, List.drop_left, Channel.send_sent, List.map_append, h.requests]
      rfl
  · rename_i c hsend
    obtain rfl := Option.some.inj hstep
    split at hsend
    · obtain ⟨rfl, -⟩ := Prod.mk.inj (Except.ok.inj hsend)
      exact h.settle (List.append_nil _).symm rfl
    · obtain ⟨rfl, rfl⟩ := Prod.mk.inj (Except.ok.inj hsend)
      exact @Sound.settle _ _ _ _ _ h _ [_] rfl rfl
  · cases hstep

/-- What a client does with a message. -/
theorem dataCallback_eq (sys : PacketSystem Obj H) (conn : Connection)
    (message : IncomingViewMessage) :
    (sys.client conn).dataCallback true message
      = .ok (sys.dispatches (sys.clientHandlers conn) message.buffer).toList := by
  rw [UdpPacketClient.dataCallback, if_pos rfl, UdpPacketClient.handleMessage_eq, ok_bind]
  unfold PacketSystem.dispatches PacketSystem.client
  dsimp only
  cases dispatch (msgpackPacketSerializer sys.msgpack) (sys.clientHandlers conn)
    message.buffer <;> rfl

/-- A poll asks for what it finds. -/
theorem take_received (s : Session Obj H) (count : ℕ) :
    s.down.waiting.take (s.received count).length = s.received count := by
  unfold received
  split
  · rw [List.length_take, ← List.take_eq_take_min]
  · rfl

/-- The client polls: it handles what it takes, in order. -/
theorem Sound.poll (h : s.Sound sys conn) {count : ℕ}
    (hpoll : s.poll (sys.client conn) count = .ok s') : s'.Sound sys conn := by
  unfold Session.poll at hpoll
  split at hpoll
  swap
  · exact Except.ok.inj hpoll ▸ h
  obtain ⟨output, houtput, hpoll⟩ := bind_eq_ok.mp hpoll
  obtain rfl := Except.ok.inj hpoll
  have houtputs : output.outputs
      = ((s.received count).map Prod.snd).filterMap (sys.dispatches (sys.clientHandlers conn)) := by
    by_cases hready : s.client.self.interface = true ∧ s.client.self.conn ≠ kInvalidConnection
    · have hlength : ((s.received count).map Prod.snd).length < 2 ^ 64 := by
        have hle : (s.received count).length ≤ 16 := by
          unfold received
          split
          · exact (List.length_take_le _ _).trans (min_le_right _ _)
          · exact Nat.zero_le 16
        rw [List.length_map]
        omega
      rw [UdpClient.pollMessages_eq (dataCallback_eq sys conn) hready.1 hready.2 hlength] at houtput
      rw [← Except.ok.inj houtput, List.filterMap_eq_flatMap_toList]
    · have hnone : s.received count = [] := by
        unfold received
        rw [if_neg (by simpa using hready)]
      have hidle : (!s.client.self.interface || s.client.self.conn = kInvalidConnection) = true := by
        cases hinterface : s.client.self.interface <;> simp_all
      rw [UdpClient.pollMessages, if_pos hidle] at houtput
      rw [hnone, ← Except.ok.inj houtput]
      rfl
  refine ⟨h.handledUp, ?_, h.requests, h.responses⟩
  show s.handledDown ++ output.outputs = ((s.down.take _).taken.map Prod.snd).filterMap _
  rw [Channel.take_taken, List.length_map, take_received, List.map_append, List.filterMap_append,
    h.handledDown, houtputs]

/-- Whatever happens on a connection. -/
theorem Sound.step (h : s.Sound sys conn) {a : SessionAction Obj}
    (hstep : s.step (sys.client conn) a = some s') : s'.Sound sys conn := by
  cases a with
  | send x reliable sent => exact h.send hstep
  | poll count =>
      cases hpoll : s.poll (sys.client conn) count with
      | error e =>
          dsimp only [Session.step] at hstep
          rw [hpoll] at hstep
          cases hstep
      | ok s₁ =>
          dsimp only [Session.step] at hstep
          rw [hpoll] at hstep
          exact Option.some.inj hstep ▸ h.poll hpoll
  | stop =>
      obtain rfl := Option.some.inj hstep
      rw [UdpClient.stop_eq]
      refine h.settle rfl ?_
      unfold UdpClient.stopCalls
      split <;> rfl
  | event event =>
      dsimp only [Session.step] at hstep
      split at hstep
      · obtain rfl := Option.some.inj hstep
        rw [UdpClient.onConnectionStatusChanged_eq]
        refine h.settle rfl ?_
        unfold UdpClient.eventCalls
        split <;> rfl
      · exact Option.some.inj hstep ▸ h
  | arriveUp =>
      obtain ⟨up, hup, rfl⟩ := Option.map_eq_some_iff.mp hstep
      obtain ⟨hsent, htaken⟩ := Channel.arrive_cases hup
      exact ⟨htaken ▸ h.handledUp, h.handledDown, hsent ▸ h.requests, h.responses⟩
  | arriveUpLoose data =>
      obtain ⟨up, hup, rfl⟩ := Option.map_eq_some_iff.mp hstep
      obtain ⟨hsent, htaken⟩ := Channel.arriveLoose_cases hup
      exact ⟨htaken ▸ h.handledUp, h.handledDown, hsent ▸ h.requests, h.responses⟩
  | arriveDown =>
      obtain ⟨down, hdown, rfl⟩ := Option.map_eq_some_iff.mp hstep
      obtain ⟨hsent, htaken⟩ := Channel.arrive_cases hdown
      exact ⟨h.handledUp, htaken ▸ h.handledDown, h.requests, hsent ▸ h.responses⟩
  | arriveDownLoose data =>
      obtain ⟨down, hdown, rfl⟩ := Option.map_eq_some_iff.mp hstep
      obtain ⟨hsent, htaken⟩ := Channel.arriveLoose_cases hdown
      exact ⟨h.handledUp, htaken ▸ h.handledDown, h.requests, hsent ▸ h.responses⟩

end Session

/-! ## The server -/

/-- The server's table holds every live connection, and every session is sound. -/
structure PacketNetwork.Sound (sys : PacketSystem Obj H) (n : PacketNetwork Obj H) : Prop where
  registered : UdpServer.Registered n.server
  sessions : ∀ conn s, n.sessions conn = some s → s.Sound sys conn

/-- The messages of one connection, in order. -/
def messagesOf (conn : Connection) (messages : List Message) : List (List UInt8) :=
  messages.filterMap fun message => if message.conn = conn then some message.data else none

/-- What the handlers run for one connection, in order. -/
def runsOf (conn : Connection) (runs : List (Invocation H Obj)) : List (H × Obj) :=
  runs.filterMap fun run => if run.conn = conn then some (run.handler, run.payload) else none

namespace PacketNetwork

variable {sys : PacketSystem Obj H} {n n' : PacketNetwork Obj H}

/-- The server goes on: what it hands over is what the postings say. -/
theorem sound_settle (h : ∀ conn s, n.sessions conn = some s → s.Sound sys conn)
    {c : ServerContext Unit} {postings : List (Posting Obj)} {xs : List ServerEffect}
    (htrace : c.trace = n.server.trace ++ xs)
    (hxs : ∀ conn, xs.filterMap (ServerEffect.messageTo conn)
      = (postings.filterMap (Posting.sentTo conn)).map (Prod.map id sys.message))
    (calls : List (Sending Obj)) :
    ∀ conn s, (n.settle c postings calls).sessions conn = some s → s.Sound sys conn := by
  intro conn s' hs'
  obtain ⟨s, hs, rfl⟩ := Option.map_eq_some_iff.mp hs'
  obtain ⟨hup, hdown, hrequests, hresponses⟩ := h conn s hs
  refine ⟨hup, hdown, hrequests, ?_⟩
  dsimp only
  rw [htrace, List.drop_left, Channel.send_sent, hxs conn, List.map_append, hresponses]

/-- The server goes on without sending. -/
theorem sound_settle_quiet (h : ∀ conn s, n.sessions conn = some s → s.Sound sys conn)
    {c : ServerContext Unit} {xs : List ServerEffect} (htrace : c.trace = n.server.trace ++ xs)
    (hxs : ∀ x ∈ xs, x.isTraffic = false) (calls : List (Sending Obj)) :
    ∀ conn s, (n.settle c [] calls).sessions conn = some s → s.Sound sys conn := by
  refine sound_settle h htrace (fun conn => ?_) calls
  refine List.filterMap_eq_nil_iff.mpr fun x hx => ?_
  have hquiet := hxs x hx
  cases x <;> first | rfl | cases hquiet

/-- One session goes on. -/
theorem sound_putSession (h : ∀ conn s, n.sessions conn = some s → s.Sound sys conn)
    {conn : Connection} {s : Session Obj H} (hs : s.Sound sys conn) :
    ∀ k s', (n.putSession conn s).sessions k = some s' → s'.Sound sys k := by
  intro k s' hs'
  by_cases hk : k = conn
  · subst hk
    rw [putSession_self] at hs'
    exact Option.some.inj hs' ▸ hs
  · rw [putSession_of_ne _ _ hk] at hs'
    exact h k s' hs'

/-! ## Polls of the server -/

/-- From `n` to `n'` the transport returned messages: they are of live connections, and what
was taken of a connection are its messages, in order. -/
structure Took (n : PacketNetwork Obj H) (messages : List Message) (n' : PacketNetwork Obj H) :
    Prop where
  server : n'.server = n.server
  calls : n'.calls = n.calls
  live : ∀ message ∈ messages, n.isLive message.conn = true
  sessions : ∀ conn s', n'.sessions conn = some s' → ∃ s, n.sessions conn = some s
    ∧ s' = { s with up := s'.up } ∧ s'.up.sent = s.up.sent
    ∧ s'.up.taken.map Prod.snd = s.up.taken.map Prod.snd ++ messagesOf conn messages

theorem took_message {conn : Connection} {message : Message}
    (h : n.takeMessage conn = some (message, n')) : Took n [message] n' := by
  unfold takeMessage at h
  split at h
  · rename_i hlive
    obtain ⟨s, hs, h⟩ := Option.bind_eq_some_iff.mp h
    obtain ⟨x, hx, h⟩ := Option.map_eq_some_iff.mp h
    obtain ⟨rfl, rfl⟩ := Prod.mk.inj h
    refine ⟨rfl, rfl, by simpa using hlive, ?_⟩
    intro k s' hs'
    by_cases hk : k = conn
    · subst hk
      rw [putSession_self] at hs'
      obtain rfl := Option.some.inj hs'
      refine ⟨s, hs, rfl, rfl, ?_⟩
      obtain ⟨rest, hrest⟩ : ∃ rest, s.up.waiting = x :: rest := List.head?_eq_some_iff.mp hx
      simp [messagesOf, hrest]
    · rw [putSession_of_ne _ _ hk] at hs'
      exact ⟨s', hs', rfl, rfl, by simp [messagesOf, Ne.symm hk]⟩
  · cases h

theorem took {order : List Connection} {messages : List Message}
    (h : takeMessages order n = some (messages, n')) : Took n messages n' := by
  induction order generalizing n messages with
  | nil =>
      obtain ⟨rfl, rfl⟩ := Prod.mk.inj (Option.some.inj h)
      exact ⟨rfl, rfl, by simp, fun conn s hs => ⟨s, hs, rfl, rfl, by simp [messagesOf]⟩⟩
  | cons conn conns ih =>
      obtain ⟨⟨message, n₁⟩, hmessage, h⟩ := Option.bind_eq_some_iff.mp h
      obtain ⟨⟨rest, n₂⟩, hrest, h⟩ := Option.map_eq_some_iff.mp h
      obtain ⟨rfl, rfl⟩ := Prod.mk.inj h
      have hfirst := took_message hmessage
      have hlater := ih hrest
      refine ⟨hlater.server.trans hfirst.server, hlater.calls.trans hfirst.calls, ?_, ?_⟩
      · intro m hm
        rcases List.mem_cons.mp hm with rfl | hm
        · exact hfirst.live m List.mem_cons_self
        · have hlive := hlater.live m hm
          rwa [isLive, hfirst.server] at hlive
      · intro k s' hs'
        obtain ⟨s₁, hs₁, hs₁', hsent₁, htaken₁⟩ := hlater.sessions k s' hs'
        obtain ⟨s, hs, hs'', hsent, htaken⟩ := hfirst.sessions k s₁ hs₁
        refine ⟨s, hs, ?_, hsent₁.trans hsent, ?_⟩
        · rw [hs₁', hs'']
        · rw [htaken₁, htaken, List.append_assoc]
          congr 1
          exact List.filterMap_append.symm

/-- Messages of clients in the table: what is run for a connection is what dispatch makes of
its messages. -/
theorem runsOf_expected {clients : ClientTable} {messages : List Message}
    (hclients : ∀ message ∈ messages, (clients.find message.conn).isSome) (conn : Connection) :
    runsOf conn (messages.filterMap (expectedInvocation
        (msgpackPacketSerializer sys.msgpack) sys.serverHandlers clients))
      = (messagesOf conn messages).filterMap (sys.dispatches sys.serverHandlers) := by
  unfold runsOf messagesOf
  rw [List.filterMap_filterMap, List.filterMap_filterMap]
  refine List.filterMap_congr fun message hmessage => ?_
  rw [← dispatch_eq_expected _ _ (hclients message hmessage)]
  unfold PacketSystem.dispatches
  by_cases hconn : message.conn = conn
  · cases hdispatch : dispatch (msgpackPacketSerializer sys.msgpack) sys.serverHandlers
      message.data <;> simp [hconn, hdispatch]
  · cases hdispatch : dispatch (msgpackPacketSerializer sys.msgpack) sys.serverHandlers
      message.data <;> simp [hconn]

/-- What a poll does: it takes messages of live connections, runs the handlers they are for
and sends the answers of these. -/
theorem poll_cases {order : List Connection} {sent : ℕ → Bool}
    (h : poll sys order sent n = some n') (hregistered : UdpServer.Registered n.server) :
    ∃ messages taken runs, Took n messages taken
      ∧ (∀ conn, runsOf conn runs
        = (messagesOf conn messages).filterMap (sys.dispatches sys.serverHandlers))
      ∧ n' = (taken.handle runs).settle
          { n.server with trace := n.server.trace ++ (sys.answers sent runs).map sys.call }
          (sys.answers sent runs) ((sys.answers sent runs).map Posting.sending) := by
  obtain ⟨⟨messages, taken⟩, htake, h⟩ := Option.bind_eq_some_iff.mp h
  have htook := took htake
  dsimp only at h
  split at h
  · rename_i hlength
    obtain ⟨output, houtput, h⟩ := Option.bind_eq_some_iff.mp h
    obtain ⟨c, hc, h⟩ := Option.bind_eq_some_iff.mp h
    obtain rfl := Option.some.inj h
    rw [sys.postAll_eq] at hc
    obtain rfl := Option.some.inj hc
    refine ⟨messages, taken, output.outputs, htook, fun conn => ?_, rfl⟩
    by_cases hgroup : n.server.self.pollGroup = kInvalidPollGroup
    · rw [UdpServer.poll_of_invalid _ hgroup] at houtput
      cases houtput
    · rw [UdpServer.receiveMessagesOnPollGroup, if_neg hgroup, UdpServer.poll_batch n.server.self
        (dispatchMessage_eq_expected sys.server n.server.self.clients)] at houtput
      rw [← Option.some.inj houtput, ← List.filterMap_eq_flatMap_toList]
      refine runsOf_expected (fun message hmessage => ?_) conn
      exact ClientTable.mem_keys.mp (hregistered.live _ (htook.live message hmessage))
  · cases h

theorem Sound.poll (h : n.Sound sys) {order : List Connection} {sent : ℕ → Bool}
    (hpoll : PacketNetwork.poll sys order sent n = some n') : n'.Sound sys := by
  obtain ⟨messages, taken, runs, htook, hruns, rfl⟩ := poll_cases hpoll h.registered
  have hhandled : ∀ conn s, (taken.handle runs).sessions conn = some s → s.Sound sys conn := by
    intro conn s' hs'
    obtain ⟨s₁, hs₁, rfl⟩ := Option.map_eq_some_iff.mp hs'
    obtain ⟨s, hs, heq, hsent, htaken⟩ := htook.sessions conn s₁ hs₁
    obtain ⟨hup, hdown, hrequests, hresponses⟩ := h.sessions conn s hs
    rw [heq]
    refine ⟨?_, hdown, hsent.trans hrequests, hresponses⟩
    show s.handledUp ++ runsOf conn runs = _
    rw [htaken, List.filterMap_append, hup, hruns conn]
  refine ⟨UdpServer.registered_post h.registered sys _, ?_⟩
  refine sound_settle hhandled ?_ (sys.filterMap_messageTo · _) _
  show _ = taken.server.trace ++ _
  rw [htook.server]

/-! ## Runs of the network -/

/-- Whatever happens. -/
theorem Sound.step (h : n.Sound sys) {a : NetworkAction Obj}
    (hstep : PacketNetwork.step sys n a = some n') : n'.Sound sys := by
  cases a with
  | connect conn client address port result =>
      dsimp only [PacketNetwork.step] at hstep
      split at hstep
      · obtain rfl := Option.some.inj hstep
        exact ⟨h.registered, sound_putSession h.sessions (Session.sound_fresh sys conn _)⟩
      · cases hstep
  | session conn a =>
      obtain ⟨s, hs, hstep⟩ := Option.bind_eq_some_iff.mp hstep
      obtain ⟨s', hs', rfl⟩ := Option.map_eq_some_iff.mp hstep
      exact ⟨h.registered, sound_putSession h.sessions ((h.sessions conn s hs).step hs')⟩
  | control operation =>
      dsimp only [PacketNetwork.step] at hstep
      split at hstep
      · rename_i hcontrol
        obtain ⟨c, hc, rfl⟩ := Option.map_eq_some_iff.mp hstep
        have hrun : operation.run () n.server = .ok c := toOption_eq_some.mp hc
        obtain ⟨xs, htrace, hxs⟩ := ServerOperation.run_control hcontrol hrun
        exact ⟨UdpServer.registered_run h.registered hrun,
          sound_settle_quiet h.sessions htrace hxs []⟩
      · cases hstep
  | event event reply =>
      dsimp only [PacketNetwork.step] at hstep
      split at hstep
      · rename_i hinstance
        obtain rfl := Option.some.inj hstep
        refine ⟨UdpServer.registered_onConnectionStatusChanged h.registered
          (h.registered.pointer hinstance) event reply, ?_⟩
        rw [UdpServer.onConnectionStatusChanged_eq]
        exact sound_settle_quiet h.sessions rfl
          (UdpServer.isTraffic_eventCalls event reply n.server.self) []
      · exact Option.some.inj hstep ▸ h
  | poll order sent => exact h.poll hstep
  | send x =>
      dsimp only [PacketNetwork.step] at hstep
      rw [sys.post_eq] at hstep
      obtain rfl := Option.some.inj hstep
      exact ⟨UdpServer.registered_post h.registered sys [x],
        sound_settle h.sessions rfl (sys.filterMap_messageTo · [x]) _⟩
  | broadcast x reliable sent =>
      dsimp only [PacketNetwork.step] at hstep
      obtain ⟨ok, hbroadcast⟩ := sys.broadcast_eq x reliable sent n.server
      rw [hbroadcast] at hstep
      obtain rfl := Option.some.inj hstep
      exact ⟨UdpServer.registered_post h.registered sys _,
        sound_settle h.sessions rfl (sys.filterMap_messageTo · _) _⟩

theorem sound_init (sys : PacketSystem Obj H) : (packetNetwork sys).init.Sound sys where
  registered :=
    { live := fun conn hlive => absurd hlive (not_liveClient_nil conn)
      idle := fun _ => ClientTable.keys_empty
      pointer := by simp [packetNetwork]
      group := by simp [packetNetwork, UdpServer.GroupMatches] }
  sessions := by
    intro conn s hs
    cases hs

/-- The handlers that were run are those of `received`, a list of sendings: the reliable ones
in the order in which they were sent, none left out and none twice, and all of them once
nothing is under way and nothing waits. -/
def DeliveredInOrder (sys : PacketSystem Obj H) (handlers : HandlerTable H)
    (channel : Channel (List UInt8)) (sendings : List (Bool × Sending Obj))
    (handled : List (H × Obj)) : Prop :=
  ∃ received : List (Bool × Sending Obj),
    handled = received.filterMap (fun x => sys.delivered handlers x.2)
    ∧ received.reliables <+: sendings.reliables
    ∧ (∀ x ∈ received, x ∈ sendings)
    ∧ (channel.underway = [] → channel.waiting = [] → received.reliables = sendings.reliables)

/-- Sound channels deliver in order. -/
theorem deliveredInOrder (hunpack : ∀ x, sys.msgpack.unpack (sys.msgpack.pack x) = some x)
    {handlers : HandlerTable H} {channel : Channel (List UInt8)}
    {sendings : List (Bool × Sending Obj)} {handled : List (H × Obj)}
    (hhandled : handled = (channel.taken.map Prod.snd).filterMap (sys.dispatches handlers))
    (hsent : channel.sent = sendings.map (Prod.map id sys.message))
    (hfits : ∀ x ∈ sendings, sys.Fits x.2) :
    DeliveredInOrder sys handlers channel sendings handled := by
  obtain ⟨received, hreceived, hinOrder, hmem, hall⟩ := channel.exists_taken hsent
  refine ⟨received, ?_, hinOrder, hmem, hall⟩
  rw [hhandled, ← hreceived, List.map_map, List.filterMap_map]
  refine List.filterMap_congr fun x hx => ?_
  exact sys.dispatches_message hunpack handlers (hfits x (hmem x hx))

/-- Both directions of every session deliver in order what fits into 32 bits. -/
structure Delivers (sys : PacketSystem Obj H) (n : PacketNetwork Obj H) : Prop where
  up : ∀ conn s, n.sessions conn = some s → (∀ x ∈ s.requests, sys.Fits x.2) →
    DeliveredInOrder sys sys.serverHandlers s.up s.requests s.handledUp
  down : ∀ conn s, n.sessions conn = some s → (∀ x ∈ s.responses, sys.Fits x.2) →
    DeliveredInOrder sys (sys.clientHandlers conn) s.down s.responses s.handledDown

theorem Sound.delivers (h : n.Sound sys)
    (hunpack : ∀ x, sys.msgpack.unpack (sys.msgpack.pack x) = some x) : n.Delivers sys where
  up := fun conn s hs hfits =>
    deliveredInOrder hunpack (h.sessions conn s hs).handledUp (h.sessions conn s hs).requests hfits
  down := fun conn s hs hfits =>
    deliveredInOrder hunpack (h.sessions conn s hs).handledDown (h.sessions conn s hs).responses
      hfits

end PacketNetwork

/-- **Packets are handled in the order in which they were sent**, in every state of every run,
in both directions of every session, whatever the other clients do. -/
theorem packets_delivered (sys : PacketSystem Obj H)
    (hunpack : ∀ x, sys.msgpack.unpack (sys.msgpack.pack x) = some x)
    (as : List (NetworkAction Obj)) :
    (packetNetwork sys).Always (PacketNetwork.Delivers sys) (packetNetwork sys).init as :=
  (Machine.always_of_step (M := packetNetwork sys) (fun _ _ _ hstep h => h.step hstep)
    (PacketNetwork.sound_init sys) as).mono fun _ h => h.delivers hunpack

/-- A server that answers a ping of type 1000 with a pong of type 1001. -/
def pingSystem : PacketSystem (Fin 128) Unit where
  msgpack := fixintMsgpack
  serverHandlers := (∅ : HandlerTable Unit).insert 1000 ()
  clientHandlers := fun _ => (∅ : HandlerTable Unit).insert 1001 ()
  replies := fun _ x => [{ packetType := 1001, object := x, reliable := true }]
  parseString := fun _ => some UdpClient.clearedAddress

/-- A client connects, sends the ping of the round-trip test and gets its pong. -/
def pingRun : List (NetworkAction (Fin 128)) :=
  [.control (.startManual 7000 { listenSocket := 1, pollGroup := 2 }),
    .connect 5 { sInstance := none, self := {}, trace := [] } "127.0.0.1" 7000 1,
    .event ⟨5, 1, .connecting, .none⟩ ⟨true, true, UdpClient.clearedAddress⟩,
    .session 5 (.send (.packet 1000 20) true true), .session 5 .arriveUp,
    .poll [5] (fun _ => true), .session 5 .arriveDown, .session 5 (.poll 16)]

theorem packets_delivered_ping : (packetNetwork pingSystem).Always
    (PacketNetwork.Delivers pingSystem) (packetNetwork pingSystem).init pingRun :=
  packets_delivered pingSystem (by decide) pingRun

example : (((packetNetwork pingSystem).run (packetNetwork pingSystem).init pingRun).bind
    (·.sessions 5)).map (fun s => (s.handledUp, s.handledDown)) = some ([((), 20)], [((), 20)]) :=
  rfl

end KbNetworking
