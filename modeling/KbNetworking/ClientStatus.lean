/-
# The status that a client reports

`m_connection_status` is written by `connect` and by the status events; `stop` clears
`m_running` and closes the connection, and leaves the status as it was.  So a client that is
stopped goes on reporting the status it had.

`statusLive_iff` proves that, besides a `Connecting` or `Connected` event for a client that
does not run, this is the only way to a status without a connection.
-/
import KbNetworking.ClientConfinement

namespace KbNetworking

open Cpp

/-! ## What the status says -/

/-- `get_connection_status`. -/
def UdpClient.getConnectionStatus (self : UdpClient) : ConnectionStatus := self.connectionStatus

/-- `is_running`. -/
def UdpClient.isRunning (self : UdpClient) : Bool := self.running

/-- The status claims a connection. -/
def ConnectionStatus.isActive : ConnectionStatus → Bool
  | .connecting => true
  | .connected => true
  | _ => false

/-- The state claims a connection. -/
def ConnectionState.isActive : ConnectionState → Bool
  | .connecting => true
  | .connected => true
  | _ => false

/-- A client that reports a connection runs and has a valid open handle, and one that does
not run reports none. -/
structure StatusLive (c : ClientContext Unit) : Prop where
  active : c.self.getConnectionStatus = .connected ∨ c.self.getConnectionStatus = .connecting →
    c.self.isRunning = true ∧ c.self.conn ≠ kInvalidConnection
      ∧ isOpen c.trace c.self.conn = true
  idle : c.self.isRunning = false →
    c.self.getConnectionStatus = .disconnected ∨ c.self.getConnectionStatus = .failedToConnect

/-- The status is active exactly while the client runs, and then its handle is open. -/
structure StatusMatches (c : ClientContext Unit) : Prop where
  isActive_eq : c.self.connectionStatus.isActive = c.self.running
  opened : c.self.running = true →
    c.self.conn ≠ kInvalidConnection ∧ isOpen c.trace c.self.conn = true

theorem StatusMatches.statusLive {c : ClientContext Unit} (h : StatusMatches c) :
    StatusLive c where
  active := by
    intro hstatus
    have hrunning : c.self.running = true := by
      rw [← h.isActive_eq]
      unfold UdpClient.getConnectionStatus at hstatus
      rcases hstatus with hstatus | hstatus <;> rw [hstatus] <;> rfl
    exact ⟨hrunning, h.opened hrunning⟩
  idle := by
    intro hidle
    have hinactive : c.self.connectionStatus.isActive = false := h.isActive_eq.trans hidle
    unfold UdpClient.getConnectionStatus
    cases hstatus : c.self.connectionStatus with
    | disconnected => exact .inl rfl
    | failedToConnect => exact .inr rfl
    | _ =>
        rw [hstatus] at hinactive
        cases hinactive

/-- A client with an active status that does not run does not report the truth. -/
theorem not_statusLive {c : ClientContext Unit}
    (hactive : c.self.connectionStatus.isActive = true) (hidle : c.self.running = false) :
    ¬ StatusLive c := by
  intro h
  have hstatus := h.idle hidle
  unfold UdpClient.getConnectionStatus at hstatus
  rcases hstatus with hstatus | hstatus <;> rw [hstatus] at hactive <;> cases hactive

/-! ## What the member functions keep -/

/-- The attempt of an idle client. -/
theorem statusMatches_attempt (parseString : String → Option SteamNetworkingIPAddr)
    (address : String) (port : UInt16) (result : Connection) (c : ClientContext Unit) :
    StatusMatches { sInstance := some ()
                    self := UdpClient.afterAttempt parseString address port result c.self
                    trace := c.trace ++ .writeInstance () true
                      :: UdpClient.attemptCalls parseString () address port result } where
  isActive_eq := by
    unfold UdpClient.afterAttempt
    cases UdpClient.attemptSucceeds parseString address port result <;> rfl
  opened := by
    intro hrunning
    have hsucceeds : UdpClient.attemptSucceeds parseString address port result = true := hrunning
    simp only [UdpClient.attemptSucceeds, Bool.and_eq_true, bne_iff_ne] at hsucceeds
    obtain ⟨hvalid, hresult⟩ := hsucceeds
    simp only [UdpClient.afterAttempt, UdpClient.attemptCalls, if_pos hvalid]
    refine ⟨hresult, ?_⟩
    rw [List.append_cons]
    refine Ledger.live_concat_of_acquires rfl ?_
    simp [ClientEffect.opens, ClientEffect.opener, hresult]

/-- A step that keeps the status, the handle and the running flag. -/
theorem StatusMatches.of_same {c c' : ClientContext Unit} (h : StatusMatches c)
    (hrunning : c'.self.running = c.self.running) (hconn : c'.self.conn = c.self.conn)
    (hstatus : c'.self.connectionStatus.isActive = c.self.connectionStatus.isActive)
    {xs : List (ClientEffect Unit)} (htrace : c'.trace = c.trace ++ xs)
    (hxs : ∀ x ∈ xs, ∀ conn, x.closes conn = false) : StatusMatches c' where
  isActive_eq := by
    rw [hstatus, hrunning]
    exact h.isActive_eq
  opened := by
    intro hnow
    rw [hrunning] at hnow
    obtain ⟨hvalid, hopen⟩ := h.opened hnow
    rw [hconn, htrace]
    exact ⟨hvalid, isOpen_append hopen fun x hx => hxs x hx _⟩

/-- A status event, unless it claims a connection for a client that does not run. -/
theorem statusMatches_event {c : ClientContext Unit} (h : StatusMatches c) {event : StatusEvent}
    (hok : event.state.isActive = true → c.self.running = true) :
    StatusMatches (UdpClient.onConnectionStatusChanged event c) := by
  rw [UdpClient.onConnectionStatusChanged_eq]
  unfold UdpClient.afterEvent UdpClient.eventCalls
  have hkeep : ∀ status : ConnectionStatus, status.isActive = c.self.connectionStatus.isActive →
      StatusMatches { c with self := { c.self with connectionStatus := status }
                             trace := c.trace ++ [] } := by
    intro status hstatus
    exact h.of_same rfl rfl hstatus rfl (by simp)
  cases hstate : event.state with
  | none => exact hkeep c.self.connectionStatus rfl
  | findingRoute => exact hkeep c.self.connectionStatus rfl
  | connecting =>
      refine hkeep .connecting ?_
      rw [h.isActive_eq, hok (by rw [hstate]; rfl)]
      rfl
  | connected =>
      refine hkeep .connected ?_
      rw [h.isActive_eq, hok (by rw [hstate]; rfl)]
      rfl
  | closedByPeer => exact ⟨rfl, nofun⟩
  | problemDetectedLocally => exact ⟨rfl, nofun⟩

/-! ## Runs of the only client -/

/-- `StatusLive` of the only client. -/
def ReportsStatus (p : ClientProcess Unit) : Prop := p.Sole StatusLive fun _ _ => True

/-- The step does not stop a running client, and does not tell one that does not run of a
connection. -/
def KeepsStatus (p : ClientProcess Unit) : ClientAction Unit → Prop
  | .call _ .stop => ∀ self, p.objects () = some self → self.running = false
  | .event event => event.state.isActive = true → p.sInstance = some () →
      ∀ self, p.objects () = some self → self.running = true
  | _ => True

variable {parseString : String → Option SteamNetworkingIPAddr} {p p' : ClientProcess Unit}
  {a : ClientAction Unit}

theorem statusMatches_step (hstep : (clientClass Unit parseString).step p a = some p')
    (h : p.Sole StatusMatches fun _ _ => True) (hok : KeepsStatus p a) :
    p'.Sole StatusMatches fun _ _ => True := by
  refine ObjectClass.sole_step hstep h ?_ ?_ ?_ ?_
  · exact fun _ => ⟨rfl, nofun⟩
  · exact fun _ _ _ _ _ _ => trivial
  · rintro operation self c rfl hself hmatches hc
    rcases ClientOperation.run_cases hc with ⟨address, port, result, -, -, rfl⟩ | ⟨rfl, rfl⟩
        | ⟨isSet, xs, rfl, hxs⟩
    · exact statusMatches_attempt parseString address port result (p.context self)
    · have hidle : self.running = false := hok self hself
      have hself : UdpClient.afterStop self = self := by
        rw [UdpClient.afterStop, hidle, if_neg Bool.false_ne_true]
      have hcalls : UdpClient.stopCalls (ι := Unit) self = [] := by
        rw [UdpClient.stopCalls, hidle, Bool.false_and, if_neg Bool.false_ne_true]
      rw [UdpClient.stop_eq, Process.context_self, hself, hcalls]
      refine hmatches.of_same rfl rfl rfl rfl fun x hx conn => ?_
      rw [List.mem_singleton.mp hx]
      rfl
    · refine hmatches.of_same rfl rfl rfl rfl fun x hx conn => ?_
      have htraffic := (hxs x hx).1
      cases x <;> first | rfl | cases htraffic
  · rintro event self rfl hinstance hself hmatches
    exact statusMatches_event hmatches fun hactive => hok hactive hinstance self hself

/-- A step that is not allowed leaves a client that does not run and reports a
connection. -/
theorem not_reportsStatus_step (hstep : (clientClass Unit parseString).step p a = some p')
    (h : p.Sole StatusMatches fun _ _ => True) (hno : ¬ KeepsStatus p a) :
    ¬ ReportsStatus p' := by
  cases a with
  | construct i => exact absurd trivial hno
  | destroy i => exact absurd trivial hno
  | call i operation =>
      cases operation with
      | stop =>
          simp only [KeepsStatus, not_forall, Bool.not_eq_false] at hno
          obtain ⟨self, hself, hrunning⟩ := hno
          have hmatches : StatusMatches (p.context self) := h.of_some hself
          have hdone := ObjectClass.step_call_of_ok (ObjectClass.step_cases hstep).1 hself
            (show (clientClass Unit parseString).call () .stop (p.context self)
              = .ok (UdpClient.stop () (p.context self)) from rfl)
          rw [Option.some.inj (hstep.symm.trans hdone)]
          intro hreports
          have hlive : StatusLive (UdpClient.stop () (p.context self)) :=
            hreports.of_some (Process.put_objects_self p () _)
          rw [UdpClient.stop_eq] at hlive
          refine not_statusLive ?_ (UdpClient.running_afterStop self) hlive
          -- the status is the one of the running client
          have hstatus : (UdpClient.afterStop self).connectionStatus = self.connectionStatus := by
            unfold UdpClient.afterStop
            split <;> rfl
          exact (congrArg ConnectionStatus.isActive hstatus).trans
            (hmatches.isActive_eq.trans hrunning)
      | _ => exact absurd trivial hno
  | event event =>
      simp only [KeepsStatus, not_forall, Bool.not_eq_true] at hno
      obtain ⟨hactive, hinstance, self, hself, hidle⟩ := hno
      rw [ObjectClass.step_event hstep, Process.throughInstance_of_some hinstance hself]
      intro hreports
      have hlive : StatusLive (UdpClient.onConnectionStatusChanged event (p.context self)) :=
        hreports.of_some (Process.put_objects_self p () _)
      rw [UdpClient.onConnectionStatusChanged_eq] at hlive
      refine not_statusLive ?_ ?_ hlive <;>
        · unfold UdpClient.afterEvent
          cases hstate : event.state <;> rw [hstate] at hactive <;>
            first | rfl | exact hidle | cases hactive

/-- **Connected status means a live connection**: along a run of the only client the status
tells the truth in every state exactly when no step stops a running client, and none tells
a client that does not run of a connection. -/
theorem statusLive_iff (parseString : String → Option SteamNetworkingIPAddr)
    (as : List (ClientAction Unit)) :
    (clientProcess Unit parseString).Always ReportsStatus (clientProcess Unit parseString).init as
      ↔ (clientProcess Unit parseString).EachStep (fun p a _ => KeepsStatus p a)
          (clientProcess Unit parseString).init as := by
  have hinit : (clientProcess Unit parseString).init.Sole StatusMatches fun _ _ => True := trivial
  exact Machine.always_iff_eachStep (M := clientProcess Unit parseString)
    (fun p h => h.mono (fun _ => StatusMatches.statusLive) fun _ _ => id)
    (fun p a p' hstep h hok => statusMatches_step hstep h hok)
    (fun p a p' hstep h hno => not_reportsStatus_step hstep h hno) hinit as

/-- A client that is stopped while it connects goes on reporting that it does. -/
theorem not_statusLive_after_stop :
    ¬ ∀ (parseString : String → Option SteamNetworkingIPAddr) (as : List (ClientAction Unit)),
      (clientProcess Unit parseString).Always ReportsStatus
        (clientProcess Unit parseString).init as := by
  intro h
  obtain ⟨-, hrun⟩ := h (fun _ => some UdpClient.clearedAddress)
    [.construct (), .call () (.connect "127.0.0.1" 7000 5), .call () .stop]
  obtain ⟨-, hrun⟩ := hrun _ rfl
  obtain ⟨-, hrun⟩ := hrun _ rfl
  have hreports : ReportsStatus _ := hrun _ rfl
  exact not_statusLive rfl rfl hreports

end KbNetworking
