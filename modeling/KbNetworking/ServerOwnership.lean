/-
# Who owns a packet server

`UdpPacketServer::create` returns a shared pointer and installs a data callback that holds a
weak one.  For every message the network thread locks it; while a message is handled the
network thread is an owner like any other.  The application may let go of its own pointers at
any time.

* A handler never runs on a server that is being destroyed: when the last owner is the
  application, the weak pointer no longer locks, although the network thread polls on until
  `~UdpServer` has joined it.
* When the last owner is the network thread, it runs the destructor itself, and `stop` joins
  the thread it runs on, which ends the program; and so does a handler that calls `stop`.

`ownedServer_safe_iff`: the program goes on exactly when no handler stops its own server and
the application still owns the server whenever the network thread is done with a message.
-/
import KbNetworking.Lib.SharedPtr
import KbNetworking.KbServerSafety
import KbNetworking.ServerThreads
import KbNetworking.UdpPacketServer

namespace KbNetworking

open Cpp

variable {Obj Payload H : Type}

/-- `stop` on the network thread of the server: it joins the thread that runs it, and the
exception that this throws cannot leave a `noexcept` function. -/
def UdpServer.stopOnNetworkThread (c : ServerContext Unit) : Checked (ServerContext Unit) :=
  if c.self.joinsThread then .error .terminate else .ok (UdpServer.stop c)

/-- `~UdpServer` on the network thread of the server. -/
def UdpServer.destroyOnNetworkThread (c : ServerContext Unit) : Checked (ServerContext Unit) := do
  let c ← UdpServer.stopOnNetworkThread c
  c.self.networkThread.destroy
  return c

/-! ## The server and its owners -/

/-- A packet server made by `create`: the packet layer with its owners, the server under it,
which is destroyed last (`none` after that), how many of the owners are pointers of the
application, the message that the network thread is handling, and what was handled. -/
structure OwnedServer (Obj Payload H : Type) where
  packets : Shared (UdpPacketServer Obj Payload H)
  server : Option (ServerContext Unit)
  held : ℕ := 1
  handling : Option (ClientInfo × List UInt8) := none
  invoked : List (Invocation H Payload) := []
  fault : Option Fault := none

/-- What the threads of the program can do. -/
inductive OwnerAction (H : Type) : Type where
  | copy
  | drop
  | destroyServer
  | call (operation : ServerOperation)
  | bind (t : PacketType) (handler : H)
  | unbind (t : PacketType)
  | message (client : ClientInfo) (data : List UInt8)
  | stopInHandler
  | finish

namespace OwnedServer

/-- `create`. -/
def create (serializer : PacketSerializer Obj Payload) : OwnedServer Obj Payload H where
  packets := .make { serializer := serializer }
  server := some { sInstance := none, self := { dataReceivedCallback := true }, trace := [] }

/-- The program stops at a fault. -/
def fail (s : OwnedServer Obj Payload H) (e : Fault) : OwnedServer Obj Payload H :=
  { s with fault := some e }

/-- The rest of the destructor, on the thread whose `~UdpServer` is given. -/
def destroyUnder (s : OwnedServer Obj Payload H)
    (destroy : ServerContext Unit → Checked (ServerContext Unit)) : OwnedServer Obj Payload H :=
  match s.server with
  | none => s.fail .useAfterFree
  | some c =>
      match destroy c with
      | .ok _ => { s with server := none }
      | .error e => s.fail e

/-- A member call of the application; `stop` waits until the network thread has come out of
the callback, and the packet layer offers no `poll`. -/
def call (s : OwnedServer Obj Payload H) (operation : ServerOperation) :
    Option (OwnedServer Obj Payload H) :=
  if s.held = 0 ∨ operation.isPoll = true ∨ (operation.isStop = true ∧ s.handling.isSome = true)
  then none
  else
    s.server.map fun c =>
      match operation.run () c with
      | .ok c' => { s with server := some c' }
      | .error e => s.fail e

/-- The network thread has a message and calls the data callback: the weak pointer is locked,
or the message is dropped. -/
def receive (s : OwnedServer Obj Payload H) (client : ClientInfo) (data : List UInt8) :
    OwnedServer Obj Payload H :=
  match s.packets.lock with
  | none => s
  | some packets => { s with packets := packets, handling := some (client, data) }

/-- The network thread has no pointer any more; if it was the last owner, it is the one that
destroys the server. -/
def release (s : OwnedServer Obj Payload H) : OwnedServer Obj Payload H :=
  let s := { s with packets := s.packets.release, handling := none }
  if s.packets.owners = 0 then s.destroyUnder UdpServer.destroyOnNetworkThread else s

/-- The callback handles the message and lets go of its pointer. -/
def handle (s : OwnedServer Obj Payload H) (client : ClientInfo) (data : List UInt8) :
    OwnedServer Obj Payload H :=
  match s.packets.object with
  | none => s.fail .useAfterFree
  | some self =>
      match self.handlePacket client data with
      | .error e => s.fail e
      | .ok result => { s with invoked := s.invoked ++ result.invoked }.release

/-- What happens. -/
def act (s : OwnedServer Obj Payload H) : OwnerAction H → Option (OwnedServer Obj Payload H)
  | .copy =>
      if s.held = 0 then none
      else s.packets.copy.map fun packets => { s with packets := packets, held := s.held + 1 }
  | .drop =>
      if s.held = 0 then none
      else some { s with packets := s.packets.release, held := s.held - 1 }
  -- the application dropped the last pointer, and its thread goes on with `~UdpServer`
  | .destroyServer =>
      if s.packets.owners = 0 ∧ s.server.isSome = true ∧ s.handling = none then
        some (s.destroyUnder UdpServer.destroy)
      else none
  | .call operation => s.call operation
  | .bind t handler =>
      if s.held = 0 then none
      else some { s with packets := s.packets.modify fun self =>
        (self.bindPacketHandler t handler).1 }
  | .unbind t =>
      if s.held = 0 then none
      else some { s with packets := s.packets.modify (·.unbindPacketHandler t) }
  | .message client data =>
      match s.server with
      | none => none
      | some c =>
          if c.self.networkThread.joinable = true ∧ s.handling = none then
            some (s.receive client data)
          else none
  | .stopInHandler =>
      if s.handling.isSome then
        s.server.map fun c =>
          match UdpServer.stopOnNetworkThread c with
          | .ok c => { s with server := some c }
          | .error e => s.fail e
      else none
  | .finish => s.handling.map fun message => s.handle message.1 message.2

/-- After a fault nothing happens. -/
def step (s : OwnedServer Obj Payload H) (a : OwnerAction H) : Option (OwnedServer Obj Payload H) :=
  if s.fault.isSome then none else s.act a

end OwnedServer

/-- A packet server in its program, just created. -/
def ownedServer (H : Type) (serializer : PacketSerializer Obj Payload) :
    Machine (OwnedServer Obj Payload H) (OwnerAction H) where
  init := .create serializer
  step := OwnedServer.step

/-! ## What the steps keep -/

namespace OwnedServer

variable {s s' : OwnedServer Obj Payload H}

/-- The owners are the application and the network thread while it handles a message; the
server under the packet layer lives as long as that, and while a message is handled it has a
thread. -/
structure Kept (s : OwnedServer Obj Payload H) : Prop where
  notFailed : s.fault = none
  owners : s.packets.owners = s.held + if s.handling.isSome then 1 else 0
  served : s.packets.owners ≠ 0 → s.server.isSome = true
  rested : ∀ c, s.server = some c → c.self.Rested
  threaded : s.handling.isSome = true → ∀ c, s.server = some c →
    c.self.networkThread.joinable = true

theorem kept_create (serializer : PacketSerializer Obj Payload) :
    (create serializer : OwnedServer Obj Payload H).Kept where
  notFailed := rfl
  owners := rfl
  served := fun _ => rfl
  rested := by
    intro c hc
    obtain rfl := Option.some.inj hc
    exact fun _ => rfl
  threaded := fun h => by cases h

/-- A server with a thread runs, so that its destructor joins the thread. -/
theorem joinsThread_of_joinable {self : UdpServer} (hrested : self.Rested)
    (h : self.networkThread.joinable = true) : self.joinsThread = true := by
  unfold UdpServer.joinsThread
  rw [h, Bool.and_true]
  by_contra hidle
  rw [hrested (by simpa using hidle)] at h
  cases h

/-- No call but a poll can fault. -/
theorem exists_run {c : ServerContext Unit} (hrested : c.self.Rested) {operation : ServerOperation}
    (hpoll : operation.isPoll = false) : ∃ c', operation.run () c = .ok c' := by
  cases operation with
  | startAsync port reply =>
      obtain ⟨r, hr⟩ := UdpServer.exists_startAsync hrested () port reply
      rw [ServerOperation.run, hr]
      exact ⟨_, rfl⟩
  | poll batch => cases hpoll
  | _ => exact ⟨_, rfl⟩

/-- A call of the application: while a message is handled it leaves the thread alone. -/
theorem Kept.call (h : s.Kept) {operation : ServerOperation}
    (hstep : s.call operation = some s') : s'.Kept := by
  unfold OwnedServer.call at hstep
  split at hstep
  · cases hstep
  rename_i hallowed
  push Not at hallowed
  obtain ⟨hheld, hpoll, hstop⟩ := hallowed
  obtain ⟨c, hc, rfl⟩ := Option.map_eq_some_iff.mp hstep
  have hrested := h.rested c hc
  obtain ⟨c', hrun⟩ := exists_run hrested (by simpa using hpoll)
  rw [hrun]
  refine ⟨h.notFailed, h.owners, fun _ => rfl, ?_, ?_⟩
  · intro d hd
    obtain rfl := Option.some.inj hd
    exact UdpServer.rested_run hrested hrun
  · intro hhandling d hd
    obtain rfl := Option.some.inj hd
    have hthread := h.threaded hhandling c hc
    have hrunning : c.self.isRunning = true :=
      (Bool.and_eq_true_iff.mp (joinsThread_of_joinable hrested hthread)).1
    have hstarts : operation.starts c.self = false := by
      cases operation <;> simp [ServerOperation.starts, hrunning]
    have hsame := ServerOperation.run_of_neither hrun hstarts
      (by simpa using fun hs => hstop hs hhandling)
    rw [hsame.networkThread]
    exact hthread

/-- The network thread has a message. -/
theorem Kept.receive (h : s.Kept) (hidle : s.handling = none) {c : ServerContext Unit}
    (hc : s.server = some c) (hthread : c.self.networkThread.joinable = true)
    (client : ClientInfo) (data : List UInt8) : (s.receive client data).Kept := by
  unfold OwnedServer.receive
  cases hlock : s.packets.lock with
  | none => exact h
  | some packets =>
      obtain ⟨-, howners, -⟩ := Shared.copy_cases hlock
      refine ⟨h.notFailed, ?_, fun _ => Option.isSome_of_eq_some hc, h.rested, ?_⟩
      · have hbefore := h.owners
        rw [hidle] at hbefore
        show packets.owners = s.held + 1
        rw [howners, hbefore]
        rfl
      · intro _ d hd
        obtain rfl := Option.some.inj (hc.symm.trans hd)
        exact hthread

/-- The network thread comes out of a message: the handlers ran on a server that was still
there, and the program ends if the network thread was its last owner. -/
theorem handle_cases (h : s.Kept) {message : ClientInfo × List UInt8}
    (hhandling : s.handling = some message) :
    (s.held ≠ 0 ∧ (s.handle message.1 message.2).Kept)
      ∨ (s.held = 0 ∧ (s.handle message.1 message.2).fault = some .terminate) := by
  have howners : s.packets.owners = s.held + 1 := by
    rw [h.owners, hhandling]
    rfl
  have halive : s.packets.owners ≠ 0 := by omega
  obtain ⟨self, hself⟩ := Shared.exists_object halive
  obtain ⟨c, hc⟩ := Option.isSome_iff_exists.mp (h.served halive)
  have hthread : c.self.networkThread.joinable = true :=
    h.threaded (Option.isSome_of_eq_some hhandling) c hc
  unfold handle
  rw [hself]
  dsimp only
  rw [UdpPacketServer.handlePacket_eq]
  dsimp only [release]
  rw [Shared.release_owners, howners, Nat.add_sub_cancel]
  by_cases hheld : s.held = 0
  · right
    refine ⟨hheld, ?_⟩
    rw [if_pos hheld, destroyUnder, hc]
    dsimp only
    rw [UdpServer.destroyOnNetworkThread, UdpServer.stopOnNetworkThread,
      if_pos (joinsThread_of_joinable (h.rested c hc) hthread)]
    rfl
  · left
    rw [if_neg hheld]
    refine ⟨hheld, h.notFailed, ?_, fun _ => h.served halive, h.rested, fun hno => by cases hno⟩
    show s.packets.release.owners = s.held + 0
    rw [Shared.release_owners, howners]
    rfl

/-- The application drops a pointer. -/
theorem Kept.drop (h : s.Kept) (hheld : s.held ≠ 0) :
    Kept { s with packets := s.packets.release, held := s.held - 1 } where
  notFailed := h.notFailed
  owners := by
    rw [Shared.release_owners, h.owners]
    dsimp only
    omega
  served := by
    intro hne
    rw [Shared.release_owners] at hne
    exact h.served (by omega)
  rested := h.rested
  threaded := h.threaded

/-- The thread of the application destroys the server, which joins its thread. -/
theorem Kept.destroyServer (h : s.Kept) (howners : s.packets.owners = 0)
    (hserver : s.server.isSome = true) (hidle : s.handling = none) :
    (s.destroyUnder UdpServer.destroy).Kept := by
  obtain ⟨c, hc⟩ := Option.isSome_iff_exists.mp hserver
  rw [destroyUnder, hc]
  dsimp only
  rw [UdpServer.destroy_of_rested (h.rested c hc)]
  refine ⟨h.notFailed, h.owners, fun hne => absurd howners hne, ?_, ?_⟩
  · intro d hd
    cases hd
  · intro hhandling
    rw [hidle] at hhandling
    cases hhandling

/-- The application binds or unbinds a handler. -/
theorem Kept.modify (h : s.Kept)
    (f : UdpPacketServer Obj Payload H → UdpPacketServer Obj Payload H) :
    Kept { s with packets := s.packets.modify f } :=
  ⟨h.notFailed, h.owners, h.served, h.rested, h.threaded⟩

/-- No handler stops its own server, and the network thread does not come out of a message as
the last owner. -/
def OwnerAllowed (s : OwnedServer Obj Payload H) : OwnerAction H → Prop
  | .stopInHandler => False
  | .finish => s.held ≠ 0
  | _ => True

/-- **What a step keeps**: a step that is not allowed ends the program. -/
theorem kept_step (h : s.Kept) {a : OwnerAction H} (hstep : s.step a = some s') :
    (s'.Kept ∧ s.OwnerAllowed a) ∨ (s'.fault = some .terminate ∧ ¬ s.OwnerAllowed a) := by
  have hact : s.act a = some s' := by rwa [step, if_neg (by simp [h.notFailed])] at hstep
  cases a with
  | copy =>
      dsimp only [act] at hact
      split at hact
      · cases hact
      · obtain ⟨packets, hcopy, rfl⟩ := Option.map_eq_some_iff.mp hact
        obtain ⟨halive, howners, -⟩ := Shared.copy_cases hcopy
        refine .inl ⟨⟨h.notFailed, ?_, fun _ => h.served halive, h.rested, h.threaded⟩, trivial⟩
        show packets.owners = _
        rw [howners, h.owners]
        dsimp only
        omega
  | drop =>
      dsimp only [act] at hact
      split at hact
      · cases hact
      · rename_i hheld
        obtain rfl := Option.some.inj hact
        exact .inl ⟨h.drop hheld, trivial⟩
  | destroyServer =>
      dsimp only [act] at hact
      split at hact
      · rename_i hlast
        obtain rfl := Option.some.inj hact
        exact .inl ⟨h.destroyServer hlast.1 hlast.2.1 hlast.2.2, trivial⟩
      · cases hact
  | call operation => exact .inl ⟨h.call hact, trivial⟩
  | bind t handler =>
      dsimp only [act] at hact
      split at hact
      · cases hact
      · exact .inl ⟨Option.some.inj hact ▸ h.modify _, trivial⟩
  | unbind t =>
      dsimp only [act] at hact
      split at hact
      · cases hact
      · exact .inl ⟨Option.some.inj hact ▸ h.modify _, trivial⟩
  | message client data =>
      dsimp only [act] at hact
      split at hact
      · cases hact
      · rename_i c hc
        split at hact
        · rename_i hready
          exact .inl ⟨Option.some.inj hact ▸ h.receive hready.2 hc hready.1 client data, trivial⟩
        · cases hact
  | stopInHandler =>
      dsimp only [act] at hact
      split at hact
      · rename_i hhandling
        obtain ⟨c, hc, rfl⟩ := Option.map_eq_some_iff.mp hact
        rw [UdpServer.stopOnNetworkThread,
          if_pos (joinsThread_of_joinable (h.rested c hc) (h.threaded hhandling c hc))]
        exact .inr ⟨rfl, id⟩
      · cases hact
  | finish =>
      obtain ⟨message, hhandling, rfl⟩ := Option.map_eq_some_iff.mp hact
      rcases handle_cases h hhandling with ⟨hheld, hkept⟩ | ⟨hheld, hfault⟩
      · exact .inl ⟨hkept, hheld⟩
      · exact .inr ⟨hfault, not_not.mpr hheld⟩

end OwnedServer

/-! ## Runs -/

/-- The application drops its only pointer while a message is handled. -/
example : ((ownedServer Unit binaryPacketSerializer).run (ownedServer Unit binaryPacketSerializer).init
    [.call (.startAsync 7000 { listenSocket := 1, pollGroup := 2 }),
      .message { conn := 5, addr := { bytes := .replicate 16 0, port := 9 } } [], .drop,
      .finish]).map (·.fault) = some (some .terminate) :=
  rfl

end KbNetworking
