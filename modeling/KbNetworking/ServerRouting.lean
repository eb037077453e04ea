/-
# Where the events of a server go

The transport hands every connection status event to one static function, which passes it
to the object that `s_instance` points to.  A start writes that pointer, and every `stop`
and every destructor clears it, whether or not the object runs.

`routes_iff_pointsToRunning` turns the routing of events into a fact about the pointer: it
must point to every running server.  `routes_iff` proves that events are routed right in
every state of a run exactly when no server is started, stopped or destroyed while another
one runs.
-/
import KbNetworking.ServerSteps

namespace KbNetworking

open Cpp

variable {ι : Type}

/-! ## The lifecycle of one server -/

/-- The operation starts the server: it does not run, and the transport creates a listen
socket and a poll group. -/
def ServerOperation.starts (self : UdpServer) : ServerOperation → Bool
  | .startManual _ reply | .startAsync _ reply =>
      !self.isRunning && reply.listenSocket != kInvalidListenSocket
        && reply.pollGroup != kInvalidPollGroup
  | _ => false

def ServerOperation.isStop : ServerOperation → Bool
  | .stop => true
  | _ => false

namespace UdpServer

/-- A server that does not run has no thread. -/
def Rested (self : UdpServer) : Prop :=
  self.isRunning = false → self.networkThread.joinable = false

/-- From `c` to `c'` neither the pointer nor the lifecycle of the object changes. -/
structure SameLifecycle (c c' : ServerContext ι) : Prop where
  sInstance : c'.sInstance = c.sInstance
  isRunning : c'.self.isRunning = c.self.isRunning
  networkThread : c'.self.networkThread = c.self.networkThread

theorem SameLifecycle.refl (c : ServerContext ι) : SameLifecycle c c := ⟨rfl, rfl, rfl⟩

theorem SameLifecycle.rested {c c' : ServerContext ι} (h : SameLifecycle c c')
    (hc : c.self.Rested) : c'.self.Rested := by
  unfold Rested at hc ⊢
  rw [h.isRunning, h.networkThread]
  exact hc

theorem startManual_of_starts (me : ι) (port : UInt16) (reply : StartReply)
    {c : ServerContext ι} (h : (ServerOperation.startManual port reply).starts c.self = true) :
    ∃ d, startManual me port reply c = (d, true) ∧ d.sInstance = some me
      ∧ d.self.isRunning = true ∧ d.self.networkThread = c.self.networkThread := by
  obtain ⟨hrunning, hsucceeds⟩ : c.self.isRunning = false ∧ startSucceeds reply = true := by
    simpa [ServerOperation.starts, startSucceeds, and_assoc] using h
  have hstart : startManual me port reply c
      = ({ sInstance := some me, self := afterStart port reply c.self
           trace := c.trace ++ startCalls port reply }, true) := by
    rw [startManual_eq, if_neg (Bool.eq_false_iff.mp hrunning), if_pos hsucceeds, hsucceeds]
  exact ⟨_, hstart, rfl, hsucceeds, rfl⟩

theorem startManual_of_not_starts (me : ι) (port : UInt16) (reply : StartReply)
    {c : ServerContext ι} (h : (ServerOperation.startManual port reply).starts c.self = false) :
    ∃ d, startManual me port reply c = (d, false) ∧ SameLifecycle c d := by
  rw [startManual_eq]
  cases hrunning : c.self.isRunning with
  | true => exact ⟨c, rfl, .refl c⟩
  | false =>
      have hfails : startSucceeds reply = false := by
        simpa [ServerOperation.starts, startSucceeds, hrunning] using h
      rw [hfails]
      exact ⟨_, rfl, rfl, hfails.trans hrunning.symm, rfl⟩

theorem stop_lifecycle {c : ServerContext ι} (h : c.self.Rested) :
    (stop c).sInstance = none ∧ (stop c).self.isRunning = false
      ∧ (stop c).self.networkThread.joinable = false := by
  rw [stop_eq]
  refine ⟨rfl, isRunning_afterStop c.self, ?_⟩
  cases hrunning : c.self.isRunning with
  | true =>
      rw [afterStop, if_pos hrunning]
      exact Thread.joinable_joinIfJoinable _
  | false =>
      rw [afterStop, if_neg (Bool.eq_false_iff.mp hrunning)]
      exact h hrunning

theorem destroy_of_rested {c : ServerContext ι} (h : c.self.Rested) :
    destroy c = .ok (stop c) :=
  destroy_of_not_joinable (stop_lifecycle h).2.2

theorem sameLifecycle_onConnectionStatusChanged (event : StatusEvent) (reply : AcceptReply)
    (c : ServerContext ι) : SameLifecycle c (onConnectionStatusChanged event reply c) := by
  rw [onConnectionStatusChanged_eq]
  unfold afterEvent
  split <;> exact ⟨rfl, rfl, rfl⟩

/-- An accepted connection is in the table of the server that handled its event. -/
theorem find_onConnectionStatusChanged_accepted (c : ServerContext ι) (conn : Connection)
    (listenSocket : ListenSocket) (addr : SteamNetworkingIPAddr) :
    (onConnectionStatusChanged
        { conn := conn, listenSocket := listenSocket, state := .connecting, oldState := .none }
        { accepted := true, assigned := true, addrRemote := addr } c).self.clients.find conn
      = some { conn := conn, addr := copySteamToIpAddress addr } := by
  simp only [onConnectionStatusChanged, if_true]
  split <;> simp [ClientTable.find_set]

end UdpServer

/-- An operation that starts the server returns, makes the pointer point to it and leaves
it running. -/
theorem ServerOperation.run_of_starts (me : ι) {operation : ServerOperation}
    {c : ServerContext ι} (hrested : c.self.Rested) (h : operation.starts c.self = true) :
    ∃ c', operation.run me c = .ok c' ∧ c'.sInstance = some me ∧ c'.self.isRunning = true := by
  cases operation with
  | startManual port reply =>
      obtain ⟨d, hd, hinstance, hrunning, -⟩ := UdpServer.startManual_of_starts me port reply h
      refine ⟨d, ?_, hinstance, hrunning⟩
      rw [run, hd]
  | startAsync port reply =>
      obtain ⟨d, hd, hinstance, hrunning, hthread⟩ :=
        UdpServer.startManual_of_starts me port reply h
      have hidle : c.self.isRunning = false := by
        simp only [starts, Bool.and_eq_true, Bool.not_eq_true'] at h
        exact h.1.1
      have hassign := Thread.assign_of_not_joinable (hthread ▸ hrested hidle)
      refine ⟨{ d with self := { d.self with networkThread := { joinable := true } } }, ?_,
        hinstance, hrunning⟩
      rw [run, UdpServer.startAsync, hd]
      simp only [hassign, ok_bind]
      rfl
  | _ => cases h

theorem ServerOperation.run_of_isStop {me : ι} {operation : ServerOperation}
    {c : ServerContext ι} (h : operation.isStop = true) :
    operation.run me c = .ok (UdpServer.stop c) := by
  cases operation with
  | stop => rfl
  | _ => cases h

/-- An operation that neither starts nor stops the server leaves its lifecycle alone. -/
theorem ServerOperation.run_of_neither {me : ι} {operation : ServerOperation}
    {c c' : ServerContext ι} (hrun : operation.run me c = .ok c')
    (hstarts : operation.starts c.self = false) (hstop : operation.isStop = false) :
    UdpServer.SameLifecycle c c' := by
  cases operation with
  | startManual port reply =>
      obtain ⟨d, hd, hsame⟩ := UdpServer.startManual_of_not_starts me port reply hstarts
      obtain rfl := Except.ok.inj hrun
      rw [hd]
      exact hsame
  | startAsync port reply =>
      obtain ⟨d, hd, hsame⟩ :=
        UdpServer.startManual_of_not_starts me port reply hstarts
      obtain ⟨started, hstart⟩ := run_startAsync hrun
      rcases UdpServer.startAsync_cases hstart with ⟨d', hd', ⟨-, rfl⟩ | ⟨rfl, -⟩⟩
      · rw [hd, Prod.mk.injEq] at hd'
        exact hd'.1 ▸ hsame
      · rw [hd, Prod.mk.injEq] at hd'
        exact absurd hd'.2 Bool.false_ne_true
  | stop => cases hstop
  | poll batch =>
      obtain ⟨xs, rfl, -⟩ := UdpServer.pollBatch_cases hrun
      exact ⟨rfl, rfl, rfl⟩
  | send conn data size reliable sent =>
      obtain rfl := Except.ok.inj hrun
      exact ⟨rfl, rfl, rfl⟩
  | broadcast data size reliable sent =>
      obtain rfl := Except.ok.inj hrun
      unfold UdpServer.broadcast
      split
      · exact .refl c
      · rw [UdpServer.broadcastLoop_eq]
        exact ⟨rfl, rfl, rfl⟩
  | disconnect conn reason =>
      obtain rfl := Except.ok.inj hrun
      exact ⟨rfl, rfl, rfl⟩
  | setDataReceivedCallback isSet =>
      obtain rfl := Except.ok.inj hrun
      exact ⟨rfl, rfl, rfl⟩
  | setClientConnectedCallback isSet =>
      obtain rfl := Except.ok.inj hrun
      exact ⟨rfl, rfl, rfl⟩
  | setClientDisconnectedCallback isSet =>
      obtain rfl := Except.ok.inj hrun
      exact ⟨rfl, rfl, rfl⟩

/-! ## Routing and the pointer -/

section Routing

variable [DecidableEq ι] {p p' : ServerProcess ι}

/-- Every event of a connection that arrived on the listen socket of a running server is
handled by that server, and by no other. -/
def Routes (p : ServerProcess ι) : Prop :=
  ∀ i self event reply, p.objects i = some self → self.isRunning = true →
    event.listenSocket = self.listenSocket →
      connectionStatusChangedCallback p event reply
        = p.put i (UdpServer.onConnectionStatusChanged event reply (p.context self))

/-- The pointer points to every running server. -/
def PointsToRunning (p : ServerProcess ι) : Prop :=
  ∀ i self, p.objects i = some self → self.isRunning = true → p.sInstance = some i

/-- **Events are routed right exactly when the pointer points to every running server.** -/
theorem routes_iff_pointsToRunning : Routes p ↔ PointsToRunning p := by
  constructor
  · intro h i self hself hrunning
    by_contra hne
    -- the same connection is accepted from two addresses: the server records neither
    have hfind : ∀ addr : SteamNetworkingIPAddr,
        self.clients.find 1 = some { conn := 1, addr := copySteamToIpAddress addr } := by
      intro addr
      have hroute := h i self
        { conn := 1, listenSocket := self.listenSocket, state := .connecting, oldState := .none }
        { accepted := true, assigned := true, addrRemote := addr } hself hrunning rfl
      have hunchanged := Process.throughInstance_objects_of_ne hne
        (UdpServer.onConnectionStatusChanged
          { conn := 1, listenSocket := self.listenSocket, state := .connecting, oldState := .none }
          { accepted := true, assigned := true, addrRemote := addr })
      rw [← connectionStatusChangedCallback, hroute, Process.put_objects_self, hself,
        Option.some.injEq] at hunchanged
      rw [← UdpServer.find_onConnectionStatusChanged_accepted (p.context self) 1
        self.listenSocket addr, hunchanged]
    have heq := (hfind { ip := .replicate 16 0, port := 0 }).symm.trans
      (hfind { ip := .replicate 16 0, port := 1 })
    revert heq
    decide
  · intro h i self event reply hself hrunning _
    exact Process.throughInstance_of_some (h i self hself hrunning) hself _

/-! ## Runs -/

/-- Between two steps the pointer points to every running server, and the others have no
thread. -/
structure SingleRunner (p : ServerProcess ι) : Prop where
  pointsToRunning : PointsToRunning p
  rested : ∀ i self, p.objects i = some self → self.Rested

/-- The server whose member function writes the pointer in this step: by a start that
succeeds, by `stop` or by the destructor. -/
def pointerWriter (p : ServerProcess ι) : ServerAction ι → Option ι
  | .destroy i => some i
  | .call i operation =>
      match p.objects i with
      | none => none
      | some self => if operation.starts self || operation.isStop then some i else none
  | _ => none

/-- No server is started, stopped or destroyed in this step while another one runs. -/
def Undisturbed (p : ServerProcess ι) (a : ServerAction ι) : Prop :=
  ∀ i, pointerWriter p a = some i →
    ∀ j self, j ≠ i → p.objects j = some self → self.isRunning = false

omit [DecidableEq ι] in
theorem pointerWriter_call {i j : ι} {operation : ServerOperation} {self : UdpServer}
    (hself : p.objects i = some self) (h : pointerWriter p (.call i operation) = some j) :
    (operation.starts self = true ∨ operation.isStop = true) ∧ i = j := by
  simp only [pointerWriter, hself, Bool.or_eq_true] at h
  split at h
  · rename_i hwrites
    exact ⟨hwrites, Option.some.inj h⟩
  · cases h

/-- A member function of object `i` keeps the invariant when the pointer it leaves points to
every running server, this one and the others. -/
theorem singleRunner_put (h : SingleRunner p) {i : ι} {c : ServerContext ι}
    (hself : c.self.isRunning = true → c.sInstance = some i) (hrested : c.self.Rested)
    (hothers : ∀ j self, j ≠ i → p.objects j = some self → self.isRunning = true →
      c.sInstance = some j) : SingleRunner (p.put i c) where
  pointsToRunning := Process.forall_objects_put hself hothers
  rested := Process.forall_objects_put hrested fun j self _ => h.rested j self

/-- A member function that leaves the lifecycle alone keeps the invariant. -/
theorem singleRunner_put_same (h : SingleRunner p) {i : ι} {self : UdpServer}
    {c : ServerContext ι} (hself : p.objects i = some self)
    (hsame : UdpServer.SameLifecycle (p.context self) c) : SingleRunner (p.put i c) := by
  refine singleRunner_put h ?_ (hsame.rested (h.rested i self hself)) ?_
  · intro hrunning
    rw [hsame.isRunning] at hrunning
    exact hsame.sInstance.trans (h.pointsToRunning i self hself hrunning)
  · intro j other _ hother hrunning
    exact hsame.sInstance.trans (h.pointsToRunning j other hother hrunning)

/-- A member function that writes the pointer keeps the invariant when no other server
runs. -/
theorem singleRunner_put_writer (h : SingleRunner p) {i : ι} {c : ServerContext ι}
    (hidle : ∀ j self, j ≠ i → p.objects j = some self → self.isRunning = false)
    (hself : c.self.isRunning = true → c.sInstance = some i) (hrested : c.self.Rested) :
    SingleRunner (p.put i c) := by
  refine singleRunner_put h hself hrested ?_
  intro j other hj hother hrunning
  rw [hidle j other hj hother] at hrunning
  cases hrunning

theorem singleRunner_remove (h : SingleRunner p) (i : ι) : SingleRunner (p.remove i) where
  pointsToRunning j self hself := h.pointsToRunning j self (Process.of_remove_objects hself).2
  rested j self hself := h.rested j self (Process.of_remove_objects hself).2

omit [DecidableEq ι] in
theorem singleRunner_fail (h : SingleRunner p) (e : Fault) : SingleRunner (p.fail e) :=
  ⟨h.pointsToRunning, h.rested⟩

theorem singleRunner_step {a : ServerAction ι} (hstep : (serverClass ι).step p a = some p')
    (h : SingleRunner p) (hok : Undisturbed p a) : SingleRunner p' := by
  rcases ObjectClass.step_cases hstep with
      ⟨-, ⟨i, rfl, hnew, rfl⟩ | ⟨i, self, c, rfl, hself, hc, rfl⟩ | ⟨i, self, e, rfl, -, -, rfl⟩
      | ⟨i, operation, self, c, rfl, hself, hc, rfl⟩ | ⟨i, operation, self, e, rfl, -, -, rfl⟩
      | ⟨e, rfl, rfl⟩⟩
  · -- the new object does not run
    refine singleRunner_put h (fun hrunning => ?_) (fun _ => rfl) ?_
    · cases hrunning
    · intro j other _ hother hrunning
      exact h.pointsToRunning j other hother hrunning
  -- a destructor writes the pointer, so no other server runs
  · have hrested : (p.context self).self.Rested := h.rested i self hself
    obtain ⟨-, hidle, hjoined⟩ := UdpServer.stop_lifecycle hrested
    obtain rfl := Except.ok.inj ((UdpServer.destroy_of_rested hrested).symm.trans hc)
    refine singleRunner_remove (singleRunner_put_writer h (hok i rfl) ?_ fun _ => hjoined) i
    intro hrunning
    rw [hidle] at hrunning
    cases hrunning
  · exact singleRunner_fail h e
  -- a call starts the server, stops it, or leaves its lifecycle alone
  · have hrested : (p.context self).self.Rested := h.rested i self hself
    have hwriter : operation.starts self = true ∨ operation.isStop = true →
        pointerWriter p (.call i operation) = some i := by
      intro hwrites
      simp [pointerWriter, hself, hwrites]
    cases hstarts : operation.starts self with
    | true =>
        obtain ⟨c', hc', hinstance, hrunning⟩ :=
          ServerOperation.run_of_starts i hrested hstarts
        obtain rfl := Except.ok.inj (hc'.symm.trans hc)
        refine singleRunner_put_writer h (hok i (hwriter (.inl hstarts))) (fun _ => hinstance) ?_
        intro hidle
        rw [hrunning] at hidle
        cases hidle
    | false =>
        cases hstop : operation.isStop with
        | true =>
            obtain rfl := Except.ok.inj ((ServerOperation.run_of_isStop hstop).symm.trans hc)
            obtain ⟨-, hidle, hjoined⟩ := UdpServer.stop_lifecycle hrested
            refine singleRunner_put_writer h (hok i (hwriter (.inr hstop))) ?_ fun _ => hjoined
            intro hrunning
            rw [hidle] at hrunning
            cases hrunning
        | false =>
            exact singleRunner_put_same h hself
              (ServerOperation.run_of_neither hc hstarts hstop)
  · exact singleRunner_fail h e
  · rcases Process.throughInstance_cases p ((serverClass ι).handle e) with
        heq | ⟨i, self, -, hself, heq⟩ | heq
    · rw [heq]
      exact h
    · rw [heq]
      exact singleRunner_put_same h hself
        (UdpServer.sameLifecycle_onConnectionStatusChanged e.1 e.2 _)
    · rw [heq]
      exact singleRunner_fail h _

/-- A step that writes the pointer leaves the other objects alone and makes the pointer
point to no other object. -/
theorem step_of_pointerWriter {a : ServerAction ι} (hstep : (serverClass ι).step p a = some p')
    (h : SingleRunner p) {i j : ι} (hwriter : pointerWriter p a = some i) (hj : j ≠ i) :
    p'.sInstance ≠ some j ∧ p'.objects j = p.objects j := by
  rcases ObjectClass.step_cases hstep with
      ⟨-, ⟨i, rfl, -, rfl⟩ | ⟨i, self, c, rfl, hself, hc, rfl⟩ | ⟨i, self, e, rfl, hself, he, -⟩
      | ⟨i, operation, self, c, rfl, hself, hc, rfl⟩ | ⟨i, operation, self, e, rfl, hself, he, -⟩
      | ⟨e, rfl, rfl⟩⟩
  · cases hwriter
  · obtain rfl := Option.some.inj hwriter
    have hrested : (p.context self).self.Rested := h.rested i self hself
    obtain rfl := Except.ok.inj ((UdpServer.destroy_of_rested hrested).symm.trans hc)
    rw [Process.remove_sInstance, Process.put_sInstance, (UdpServer.stop_lifecycle hrested).1,
      Process.remove_objects_of_ne _ hj, Process.put_objects_of_ne p _ hj]
    exact ⟨nofun, rfl⟩
  -- the destructor of a server at rest does not fault
  · have hrested : (p.context self).self.Rested := h.rested i self hself
    cases (UdpServer.destroy_of_rested hrested).symm.trans he
  -- after a start the pointer leads to the server itself, after a stop nowhere
  · have hrested : (p.context self).self.Rested := h.rested i self hself
    obtain ⟨hwrites, rfl⟩ := pointerWriter_call hself hwriter
    refine ⟨?_, Process.put_objects_of_ne p c hj⟩
    rw [Process.put_sInstance]
    rcases hwrites with hstarts | hstop
    · obtain ⟨c', hc', hinstance, -⟩ := ServerOperation.run_of_starts i hrested hstarts
      obtain rfl := Except.ok.inj (hc'.symm.trans hc)
      rw [hinstance]
      exact fun heq => hj (Option.some.inj heq).symm
    · obtain rfl := Except.ok.inj ((ServerOperation.run_of_isStop hstop).symm.trans hc)
      rw [(UdpServer.stop_lifecycle hrested).1]
      exact nofun
  · have hrested : (p.context self).self.Rested := h.rested i self hself
    obtain ⟨hwrites, rfl⟩ := pointerWriter_call hself hwriter
    rcases hwrites with hstarts | hstop
    · obtain ⟨c', hc', -⟩ := ServerOperation.run_of_starts i hrested hstarts
      cases hc'.symm.trans he
    · cases (ServerOperation.run_of_isStop hstop).symm.trans he
  · cases hwriter

/-- **Server instances do not interfere**: in every run, the events of every running server
are routed to it in every state exactly when no step starts, stops or destroys a server
while another one runs. -/
theorem routes_iff (as : List (ServerAction ι)) :
    (serverProcess ι).Always Routes (serverProcess ι).init as
      ↔ (serverProcess ι).EachStep (fun p a _ => Undisturbed p a) (serverProcess ι).init as := by
  refine Machine.always_iff_eachStep (I := SingleRunner)
    (fun p h => routes_iff_pointsToRunning.mpr h.pointsToRunning)
    (fun p a p' hstep h hok => singleRunner_step hstep h hok) ?_ ?_ as
  · intro p a p' hstep h hno hroutes
    simp only [Undisturbed, not_forall, Bool.not_eq_false] at hno
    obtain ⟨i, hwriter, j, self, hj, hself, hrunning⟩ := hno
    obtain ⟨hpointer, hobjects⟩ := step_of_pointerWriter hstep h hwriter hj
    exact hpointer (routes_iff_pointsToRunning.mp hroutes j self (hobjects.trans hself) hrunning)
  · constructor
    · intro i self hself
      cases hself
    · intro i self hself
      cases hself

end Routing

/-- A server runs, and another one that never ran is destroyed: the events of the first are
dropped. -/
theorem not_routes_after_destroy :
    ¬ ∀ as, (serverProcess Bool).Always Routes (serverProcess Bool).init as := by
  intro h
  obtain ⟨-, hrun⟩ := h [.construct true,
    .call true (.startManual 7000 { listenSocket := 1, pollGroup := 1 }),
    .construct false, .destroy false]
  obtain ⟨-, hrun⟩ := hrun _ rfl
  obtain ⟨-, hrun⟩ := hrun _ rfl
  obtain ⟨-, hrun⟩ := hrun _ rfl
  have hlast := hrun _ rfl
  have hpointer := routes_iff_pointsToRunning.mp hlast true _ rfl rfl
  cases hpointer

end KbNetworking
