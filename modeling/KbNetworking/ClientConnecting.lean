/-
# A connection that ends during `connect`

`connect` tries to connect, stores the result in `m_running`, and starts the thread.  Another
thread of the process may run the callbacks of the transport in between, for example the
network loop of a server.  The three steps are taken apart here and interleaved with status
events and stops in any order; `run_connect_steps` shows that together they are `connect`.

An event that ends the connection clears `m_running`, and the store that follows sets it
again.  `noLostClose_iff` proves that no end of a connection is lost exactly when no
successful result is stored after such an event.
-/
import KbNetworking.ClientStatus

namespace KbNetworking

open Cpp

/-! ## The steps of `connect` -/

/-- How far a call of `connect` has come; `res` is what `try_connect` returned. -/
inductive ConnectPhase : Type where
  | idle
  | tried (res : Bool)
  | stored (res : Bool)
  deriving DecidableEq, Repr

/-- The only client while its member functions run: whether the end of a connection was
handled since the last `try_connect` is kept for the statements only. -/
structure ConnectingClient where
  context : ClientContext Unit
  phase : ConnectPhase := .idle
  closedSinceTry : Bool := false

/-- A step of `connect`, a `stop`, or a status event on any thread. -/
inductive ConnectAction : Type where
  | tryConnect (address : String) (port : UInt16) (result : Connection)
  | storeRunning
  | startThread
  | stop
  | event (event : StatusEvent)

namespace ConnectingClient

variable (parseString : String → Option SteamNetworkingIPAddr)

/-- `connect` up to the store: it returns at once while the client runs. -/
def beginConnect (address : String) (port : UInt16) (result : Connection)
    (s : ConnectingClient) : ConnectingClient :=
  if s.context.self.running then s
  else
    match UdpClient.tryConnect parseString () address port result s.context with
    | (c, res) => { context := c, phase := .tried res, closedSinceTry := false }

/-- The static `connection_status_changed_callback`. -/
def handleEvent (event : StatusEvent) (s : ConnectingClient) : ConnectingClient :=
  match s.context.sInstance with
  | none => s
  | some () =>
      { s with
        context := UdpClient.onConnectionStatusChanged event s.context
        closedSinceTry := s.closedSinceTry || event.state.isClosed }

/-- One step.  A second thread over a joinable one ends the program. -/
def step (s : ConnectingClient) : ConnectAction → Option ConnectingClient
  | .tryConnect address port result =>
      if s.phase = .idle then some (beginConnect parseString address port result s) else none
  | .storeRunning =>
      match s.phase with
      | .tried res =>
          some { s with context := UdpClient.storeRunning res s.context, phase := .stored res }
      | _ => none
  | .startThread =>
      match s.phase with
      | .stored _ =>
          match UdpClient.startNetworkThread s.context with
          | .ok c => some { s with context := c, phase := .idle }
          | .error _ => none
      | _ => none
  | .stop =>
      if s.phase = .idle then some { s with context := UdpClient.stop () s.context } else none
  | .event event => some (handleEvent event s)

/-- The machine of the only client; it starts as a new object. -/
def machine : Machine ConnectingClient ConnectAction where
  init := { context := { sInstance := none, self := {}, trace := [] } }
  step := step parseString

/-- Without an event in between the three steps are `connect`. -/
theorem run_connect_steps (address : String) (port : UInt16) (result : Connection)
    {s : ConnectingClient} (hphase : s.phase = .idle) (hidle : s.context.self.running = false) :
    ((machine parseString).run s
        [.tryConnect address port result, .storeRunning, .startThread]).map (·.context)
      = (UdpClient.connect parseString () address port result s.context).toOption.map Prod.fst := by
  unfold UdpClient.connect
  rw [if_neg (by simp [hidle])]
  simp only [Machine.run, machine, step, beginConnect, hphase, hidle, if_true, if_false,
    Option.bind_some, Bool.false_eq_true]
  cases UdpClient.startNetworkThread (UdpClient.storeRunning
      (UdpClient.tryConnect parseString () address port result s.context).2
      (UdpClient.tryConnect parseString () address port result s.context).1) <;> rfl

variable {parseString}

/-- **What a step can do.** -/
theorem step_cases {s s' : ConnectingClient} {a : ConnectAction}
    (h : step parseString s a = some s') :
    (∃ address port result, a = .tryConnect address port result ∧ s.phase = .idle
      ∧ s' = beginConnect parseString address port result s)
    ∨ (∃ res, a = .storeRunning ∧ s.phase = .tried res
      ∧ s' = { s with context := UdpClient.storeRunning res s.context, phase := .stored res })
    ∨ (∃ res, a = .startThread ∧ s.phase = .stored res
      ∧ s' = { s with
          context := { s.context with
            self := { s.context.self with networkThread := { joinable := true } } }
          phase := .idle })
    ∨ (a = .stop ∧ s.phase = .idle
      ∧ s' = { s with context := UdpClient.stop () s.context })
    ∨ ∃ event, a = .event event ∧ s' = handleEvent event s := by
  cases a with
  | tryConnect address port result =>
      rw [step] at h
      split at h
      · rename_i hphase
        exact .inl ⟨address, port, result, rfl, hphase, (Option.some.inj h).symm⟩
      · cases h
  | storeRunning =>
      rw [step] at h
      split at h
      · rename_i res hphase
        exact .inr (.inl ⟨res, rfl, hphase, (Option.some.inj h).symm⟩)
      · cases h
  | startThread =>
      rw [step] at h
      split at h
      · rename_i res hphase
        cases hjoinable : s.context.self.networkThread.joinable with
        | true =>
            simp [UdpClient.startNetworkThread, Thread.assign_of_joinable hjoinable] at h
        | false =>
            simp only [UdpClient.startNetworkThread, Thread.assign_of_not_joinable hjoinable,
              ok_bind, pure_eq_ok] at h
            exact .inr (.inr (.inl ⟨res, rfl, hphase, (Option.some.inj h).symm⟩))
      · cases h
  | stop =>
      rw [step] at h
      split at h
      · rename_i hphase
        exact .inr (.inr (.inr (.inl ⟨rfl, hphase, (Option.some.inj h).symm⟩)))
      · cases h
  | event event => exact .inr (.inr (.inr (.inr ⟨event, rfl, (Option.some.inj h).symm⟩)))

/-! ## What the steps keep -/

/-- While no `connect` or `stop` is in progress a running client has a valid open handle, and
the end of a connection is not undone. -/
structure NoLostClose (s : ConnectingClient) : Prop where
  live : s.phase = .idle → s.context.self.running = true →
    s.context.self.conn ≠ kInvalidConnection
      ∧ isOpen s.context.trace s.context.self.conn = true
  kept : s.closedSinceTry = true → s.context.self.running = false

/-- What the steps keep about the handle and the running flag. -/
structure HandleOpen (s : ConnectingClient) : Prop where
  opened : s.context.self.conn ≠ kInvalidConnection →
    isOpen s.context.trace s.context.self.conn = true
  valid : s.context.self.running = true → s.context.self.conn ≠ kInvalidConnection
  kept : s.closedSinceTry = true → s.context.self.running = false
  tried : s.phase = .tried true → s.closedSinceTry = false →
    s.context.self.conn ≠ kInvalidConnection

theorem HandleOpen.noLostClose {s : ConnectingClient} (h : HandleOpen s) : NoLostClose s where
  live := fun _ hrunning => ⟨h.valid hrunning, h.opened (h.valid hrunning)⟩
  kept := h.kept

/-- `try_connect`: the object afterwards, the calls, and the answer. -/
theorem tryConnect_eq (parseString : String → Option SteamNetworkingIPAddr) (address : String)
    (port : UInt16) (result : Connection) (c : ClientContext Unit) :
    UdpClient.tryConnect parseString () address port result c
      = ({ sInstance := some ()
           self := { UdpClient.afterAttempt parseString address port result c.self with
             running := c.self.running, networkThread := c.self.networkThread }
           trace := c.trace ++ .writeInstance () true
             :: UdpClient.attemptCalls parseString () address port result },
        UdpClient.attemptSucceeds parseString address port result) := by
  unfold UdpClient.tryConnect UdpClient.afterAttempt UdpClient.attemptCalls
    UdpClient.attemptSucceeds
  cases hvalid : isValidIpAddress parseString (UdpClient.addressWithPort address port) <;>
    by_cases hresult : result = kInvalidConnection <;> simp [hresult, Context.record]

theorem handleOpen_beginConnect {s : ConnectingClient} (h : HandleOpen s) (address : String)
    (port : UInt16) (result : Connection) :
    HandleOpen (beginConnect parseString address port result s) := by
  unfold beginConnect
  split
  · exact h
  · rename_i hrunning
    rw [tryConnect_eq]
    refine ⟨?_, fun hnow => absurd hnow hrunning, nofun, ?_⟩ <;> dsimp only
    · unfold UdpClient.afterAttempt UdpClient.attemptCalls
      dsimp only
      rw [List.append_cons]
      split
      · intro hresult
        refine Ledger.live_concat_of_acquires rfl ?_
        simp [ClientEffect.opens, ClientEffect.opener, hresult]
      · intro hconn
        rw [List.append_nil]
        exact isOpen_append (h.opened hconn) (by simp [ClientEffect.closes])
    · intro hphase _
      have hsucceeds := ConnectPhase.tried.inj hphase
      simp only [UdpClient.attemptSucceeds, Bool.and_eq_true, bne_iff_ne] at hsucceeds
      unfold UdpClient.afterAttempt
      dsimp only
      rw [if_pos hsucceeds.1]
      exact hsucceeds.2

theorem handleOpen_stop {s : ConnectingClient} (h : HandleOpen s) (hphase : s.phase = .idle) :
    HandleOpen { s with context := UdpClient.stop () s.context } := by
  rw [UdpClient.stop_eq]
  have hidle := UdpClient.running_afterStop s.context.self
  refine ⟨?_, ?_, fun _ => hidle, ?_⟩ <;> dsimp only
  · intro hconn
    unfold UdpClient.afterStop at hconn ⊢
    unfold UdpClient.stopCalls
    cases hrunning : s.context.self.running with
    | true => simp [hrunning] at hconn
    | false =>
        simp only [hrunning, Bool.false_eq_true, if_false, Bool.false_and] at hconn ⊢
        exact isOpen_append (h.opened hconn) (by simp [ClientEffect.closes])
  · rw [hidle]
    exact nofun
  · rw [hphase]
    exact nofun

theorem handleOpen_handleEvent {s : ConnectingClient} (h : HandleOpen s) (event : StatusEvent) :
    HandleOpen (handleEvent event s) := by
  cases hinstance : s.context.sInstance with
  | none =>
      rw [handleEvent, hinstance]
      exact h
  | some me =>
      rw [handleEvent, hinstance, UdpClient.onConnectionStatusChanged_eq, UdpClient.afterEvent,
        UdpClient.eventCalls]
      cases hstate : event.state with
      | closedByPeer =>
          refine ⟨fun hconn => absurd rfl hconn, fun hrunning => absurd hrunning Bool.false_ne_true,
            fun _ => rfl, fun _ hopen => ?_⟩
          simp [ConnectionState.isClosed] at hopen
      | problemDetectedLocally =>
          refine ⟨fun hconn => absurd rfl hconn, fun hrunning => absurd hrunning Bool.false_ne_true,
            fun _ => rfl, fun _ hopen => ?_⟩
          simp [ConnectionState.isClosed] at hopen
      | _ =>
          simp only [ConnectionState.isClosed, Bool.or_false, Bool.false_eq_true, if_false,
            List.append_nil]
          exact ⟨h.opened, h.valid, h.kept, h.tried⟩

/-! ## Runs -/

/-- The step does not store a success after the end of a connection was handled. -/
def StoresFreshResult (s : ConnectingClient) : ConnectAction → Prop
  | .storeRunning => s.phase = .tried true → s.closedSinceTry = false
  | _ => True

theorem handleOpen_step {s s' : ConnectingClient} {a : ConnectAction}
    (hstep : step parseString s a = some s') (h : HandleOpen s) (hok : StoresFreshResult s a) :
    HandleOpen s' := by
  rcases step_cases hstep with ⟨address, port, result, -, -, rfl⟩ | ⟨res, rfl, hphase, rfl⟩
      | ⟨res, -, hphase, rfl⟩ | ⟨-, hphase, rfl⟩ | ⟨event, -, rfl⟩
  · exact handleOpen_beginConnect h address port result
  · cases res with
    | false => exact ⟨h.opened, nofun, fun _ => rfl, nofun⟩
    | true =>
        have hfresh := hok hphase
        refine ⟨h.opened, fun _ => h.tried hphase hfresh, fun hclosed => ?_, nofun⟩
        cases hfresh.symm.trans hclosed
  · exact ⟨h.opened, h.valid, h.kept, nofun⟩
  · exact handleOpen_stop h hphase
  · exact handleOpen_handleEvent h event

/-- A success stored after the end of a connection sets the flag again. -/
theorem not_noLostClose_step {s s' : ConnectingClient} {a : ConnectAction}
    (hstep : step parseString s a = some s') (hno : ¬ StoresFreshResult s a) :
    ¬ NoLostClose s' := by
  cases a with
  | storeRunning =>
      simp only [StoresFreshResult, not_forall, Bool.not_eq_false] at hno
      obtain ⟨hphase, hclosed⟩ := hno
      rw [step, hphase] at hstep
      obtain rfl := Option.some.inj hstep
      intro h
      cases h.kept hclosed
  | _ => exact absurd trivial hno

/-- **No lost close during connect**: along a run a client that runs between two calls has a
valid open handle, and no end of a connection is undone, exactly when no step stores a
success after the end of a connection was handled. -/
theorem noLostClose_iff (parseString : String → Option SteamNetworkingIPAddr)
    (as : List ConnectAction) :
    (machine parseString).Always NoLostClose (machine parseString).init as
      ↔ (machine parseString).EachStep (fun s a _ => StoresFreshResult s a)
          (machine parseString).init as := by
  have hinit : HandleOpen (machine parseString).init :=
    ⟨fun hconn => absurd rfl hconn, nofun, nofun, nofun⟩
  exact Machine.always_iff_eachStep (M := machine parseString) (fun _ h => h.noLostClose)
    (fun _ _ _ hstep h hok => handleOpen_step hstep h hok)
    (fun _ _ _ hstep _ hno => not_noLostClose_step hstep hno) hinit as

/-- The connection fails right after the attempt: the store makes the client run without a
handle. -/
theorem not_noLostClose_event_before_store :
    ¬ ∀ (parseString : String → Option SteamNetworkingIPAddr) (as : List ConnectAction),
      (machine parseString).Always NoLostClose (machine parseString).init as := by
  intro h
  obtain ⟨-, hrun⟩ := h (fun _ => some UdpClient.clearedAddress)
    [.tryConnect "127.0.0.1" 7000 5, .event ⟨5, 0, .problemDetectedLocally, .connecting⟩,
      .storeRunning, .startThread]
  obtain ⟨-, hrun⟩ := hrun _ rfl
  obtain ⟨-, hrun⟩ := hrun _ rfl
  obtain ⟨-, hrun⟩ := hrun _ rfl
  have hlast : NoLostClose _ := hrun _ rfl
  exact (hlast.live rfl rfl).1 rfl

end ConnectingClient

end KbNetworking
