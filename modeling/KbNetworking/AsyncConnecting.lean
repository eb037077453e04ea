/-
# Connecting and waiting

`AsyncUdpPacketClient::connect` calls `UdpClient::connect` and then samples the status of the
client every 50 ms, until it is no longer `connecting` or 1000 ms are over.  Meanwhile the
network thread hands status events to the client; the events between two samples are an
argument here.

The loop has two exits.  When the status has changed the client is connected or does not run;
when the time is over the client goes on running and its attempt goes on.  So `connect` returns
false and the next one is refused.  `connectSettles_iff` proves that, besides a client that
still has a thread, this is the only way to fail.
-/
import KbNetworking.ClientOutcomes

namespace KbNetworking

open Cpp

/-! ## The wait loop -/

/-- The static `connection_status_changed_callback`, in a process with one client. -/
def UdpClient.connectionStatusChangedCallback (event : StatusEvent) (c : ClientContext Unit) :
    ClientContext Unit :=
  match c.sInstance with
  | none => c
  | some () => onConnectionStatusChanged event c

/-- Several events, one after the other. -/
def UdpClient.handleEvents (events : List StatusEvent) (c : ClientContext Unit) :
    ClientContext Unit :=
  events.foldl (fun c event => connectionStatusChangedCallback event c) c

/-- Where `connect` leaves the client, what it returns, and the samples it took. -/
structure AsyncConnectResult where
  context : ClientContext Unit
  value : Bool
  samples : List ConnectionStatus

namespace AsyncUdpPacketClient

/-- `k_max_wait_ms`. -/
def kMaxWaitMs : ℕ := 1000

/-- `k_sleep_duration`. -/
def kSleepDuration : ℕ := 50

/-- `max_iters`. -/
def maxIters : ℕ := kMaxWaitMs / kSleepDuration

/-- The loop from the sample with this number on; `events k` are handled between the samples
`k - 1` and `k`, those after the last sample before `connect` returns. -/
def waitLoop (events : ℕ → List StatusEvent) (iter : ℕ) (c : ClientContext Unit) :
    AsyncConnectResult :=
  let c := UdpClient.handleEvents (events iter) c
  let connectionStatus := c.self.getConnectionStatus
  let done : AsyncConnectResult :=
    { context := UdpClient.handleEvents (events (iter + 1)) c
      value := connectionStatus = .connected
      samples := [connectionStatus] }
  if maxIters ≤ iter then done
  else if connectionStatus = .connecting then
    let rest := waitLoop events (iter + 1) c
    { rest with samples := connectionStatus :: rest.samples }
  else done
termination_by maxIters - iter

/-- `connect`. -/
def connect (parseString : String → Option SteamNetworkingIPAddr) (address : String)
    (port : UInt16) (result : Connection) (events : ℕ → List StatusEvent)
    (c : ClientContext Unit) : Checked AsyncConnectResult :=
  if c.self.isRunning then .ok { context := c, value := false, samples := [] }
  else do
    let (c, res) ← UdpClient.connect parseString () address port result c
    if res then return waitLoop events 0 c
    else return { context := c, value := false, samples := [] }

end AsyncUdpPacketClient

/-! ## What a call should come to -/

/-- The loop ends, the result is that of the last sample, and after a failure the client does
not run and has given up its handle. -/
structure ConnectSettles (r : AsyncConnectResult) : Prop where
  bounded : r.samples.length ≤ AsyncUdpPacketClient.maxIters + 1
  value_iff : r.value = true ↔ r.samples.getLast? = some .connected
  retriable : r.value = false → r.context.self.isRunning = false
  released : r.value = false → r.samples ≠ [] → r.context.self.conn = kInvalidConnection

/-- An event of the batch tells of the end of a connection. -/
def TellsEnd (batch : List StatusEvent) : Prop := ∃ event ∈ batch, event.state.isClosed = true

/-- The last event of the batch that tells of a connection says that it is established. -/
def TellsConnected (batch : List StatusEvent) : Prop :=
  (batch.filter (·.state.isActive)).getLast?.map (·.state) = some .connected

/-- The client is told of a connection before the last sample, or of the end of one before
`connect` returns. -/
def HearsInTime (events : ℕ → List StatusEvent) : Prop :=
  (∃ k ≤ AsyncUdpPacketClient.maxIters, TellsConnected (events k))
    ∨ ∃ k ≤ AsyncUdpPacketClient.maxIters + 1, TellsEnd (events k)

/-! ## What the events do while the client waits -/

/-- A client that waits: it can be reached by events, a running one has an active status, and
one that does not run has no handle. -/
structure Waits (c : ClientContext Unit) : Prop where
  attached : c.sInstance = some ()
  active : c.self.running = true → c.self.connectionStatus.isActive = true
  released : c.self.running = false → c.self.conn = kInvalidConnection

theorem connectionStatusChangedCallback_of_attached {c : ClientContext Unit}
    (h : c.sInstance = some ()) (event : StatusEvent) :
    UdpClient.connectionStatusChangedCallback event c
      = { sInstance := some ()
          self := UdpClient.afterEvent event c.self
          trace := c.trace ++ UdpClient.eventCalls event } := by
  unfold UdpClient.connectionStatusChangedCallback
  rw [h]
  dsimp only
  rw [UdpClient.onConnectionStatusChanged_eq, h]

/-- Only the end of a connection clears the running flag. -/
theorem running_afterEvent (event : StatusEvent) (self : UdpClient) :
    (UdpClient.afterEvent event self).running = (self.running && !event.state.isClosed) := by
  unfold UdpClient.afterEvent
  cases event.state <;> simp [ConnectionState.isClosed]

theorem waits_event {c : ClientContext Unit} (h : Waits c) (event : StatusEvent) :
    Waits (UdpClient.connectionStatusChangedCallback event c) := by
  rw [connectionStatusChangedCallback_of_attached h.attached]
  refine ⟨rfl, ?_, ?_⟩
  · dsimp only
    intro hrunning
    rw [running_afterEvent, Bool.and_eq_true, Bool.not_eq_true'] at hrunning
    have hactive := h.active hrunning.1
    unfold UdpClient.afterEvent
    cases hstate : event.state with
    | closedByPeer =>
        rw [hstate] at hrunning
        cases hrunning.2
    | problemDetectedLocally =>
        rw [hstate] at hrunning
        cases hrunning.2
    | connecting => rfl
    | connected => rfl
    | none => exact hactive
    | findingRoute => exact hactive
  · dsimp only
    unfold UdpClient.afterEvent
    cases event.state with
    | closedByPeer => exact fun _ => rfl
    | problemDetectedLocally => exact fun _ => rfl
    | _ => exact h.released

theorem waits_events {c : ClientContext Unit} (h : Waits c) (batch : List StatusEvent) :
    Waits (UdpClient.handleEvents batch c) := by
  induction batch generalizing c with
  | nil => exact h
  | cons event batch ih => exact ih (waits_event h event)

/-- After some events the client runs exactly if it ran before and none tells of an end. -/
theorem running_handleEvents {c : ClientContext Unit} (h : Waits c) (batch : List StatusEvent) :
    (UdpClient.handleEvents batch c).self.running = true
      ↔ c.self.running = true ∧ ¬ TellsEnd batch := by
  induction batch generalizing c with
  | nil => simp [UdpClient.handleEvents, TellsEnd]
  | cons event batch ih =>
      have hstep : UdpClient.handleEvents (event :: batch) c
          = UdpClient.handleEvents batch (UdpClient.connectionStatusChangedCallback event c) := rfl
      rw [hstep, ih (waits_event h event), connectionStatusChangedCallback_of_attached h.attached]
      dsimp only
      rw [running_afterEvent]
      simp only [TellsEnd, Bool.and_eq_true, Bool.not_eq_true', List.mem_cons, exists_eq_or_imp,
        not_or, Bool.not_eq_true]
      exact and_assoc

/-- A client that does not run is not set running by an event. -/
theorem running_events_of_idle {c : ClientContext Unit} (h : Waits c)
    (hidle : c.self.running = false) (batch : List StatusEvent) :
    (UdpClient.handleEvents batch c).self.running = false := by
  rw [← Bool.not_eq_true, running_handleEvents h, hidle]
  exact fun hno => Bool.false_ne_true hno.1

theorem handleEvents_concat (batch : List StatusEvent) (event : StatusEvent)
    (c : ClientContext Unit) :
    UdpClient.handleEvents (batch ++ [event]) c
      = UdpClient.connectionStatusChangedCallback event (UdpClient.handleEvents batch c) :=
  List.foldl_concat ..

/-- An event that tells of a connection is the last one that does. -/
theorem tellsConnected_concat (batch : List StatusEvent) (event : StatusEvent) :
    TellsConnected (batch ++ [event])
      ↔ if event.state.isActive then event.state = .connected else TellsConnected batch := by
  unfold TellsConnected
  cases hactive : event.state.isActive with
  | true => simp [List.filter_append, hactive]
  | false => simp [List.filter_append, hactive]

/-- While a client connects and hears of no end, it becomes connected exactly if the last
event that tells of a connection says so. -/
theorem connectionStatus_handleEvents {c : ClientContext Unit} (h : Waits c)
    (hconnecting : c.self.connectionStatus = .connecting) {batch : List StatusEvent}
    (hend : ¬ TellsEnd batch) :
    (UdpClient.handleEvents batch c).self.connectionStatus = .connected
      ↔ TellsConnected batch := by
  induction batch using List.reverseRecOn with
  | nil => simp [UdpClient.handleEvents, TellsConnected, hconnecting]
  | append_singleton batch event ih =>
      have hbefore : ¬ TellsEnd batch := by
        rintro ⟨e, he, hclosed⟩
        exact hend ⟨e, List.mem_append_left _ he, hclosed⟩
      have hopen : event.state.isClosed = false := by
        rw [← Bool.not_eq_true]
        intro hclosed
        exact hend ⟨event, by simp, hclosed⟩
      rw [handleEvents_concat, tellsConnected_concat,
        connectionStatusChangedCallback_of_attached (waits_events h batch).attached]
      dsimp only
      rw [connectionStatus_afterEvent, hopen]
      cases hstate : event.state with
      | connecting => simp [ConnectionState.isActive]
      | connected => simp [ConnectionState.isActive]
      | none => exact ih hbefore
      | findingRoute => exact ih hbefore
      | closedByPeer =>
          rw [hstate] at hopen
          cases hopen
      | problemDetectedLocally =>
          rw [hstate] at hopen
          cases hopen

/-- **What one sample can say** of a client that connects. -/
theorem sample_cases {c : ClientContext Unit} (h : Waits c) (hrunning : c.self.running = true)
    (hstatus : c.self.connectionStatus = .connecting) (batch : List StatusEvent) :
    (TellsEnd batch ∧ (UdpClient.handleEvents batch c).self.running = false)
      ∨ (TellsConnected batch
        ∧ (UdpClient.handleEvents batch c).self.connectionStatus = .connected)
      ∨ (¬ TellsEnd batch ∧ ¬ TellsConnected batch
        ∧ (UdpClient.handleEvents batch c).self.running = true
        ∧ (UdpClient.handleEvents batch c).self.connectionStatus = .connecting) := by
  by_cases hend : TellsEnd batch
  · refine .inl ⟨hend, ?_⟩
    rw [← Bool.not_eq_true, running_handleEvents h]
    exact fun hno => hno.2 hend
  have hconnected := connectionStatus_handleEvents h hstatus hend
  by_cases htells : TellsConnected batch
  · exact .inr (.inl ⟨htells, hconnected.mpr htells⟩)
  have hrunning' := (running_handleEvents h batch).mpr ⟨hrunning, hend⟩
  refine .inr (.inr ⟨hend, htells, hrunning', ?_⟩)
  have hactive := (waits_events h batch).active hrunning'
  cases hnow : (UdpClient.handleEvents batch c).self.connectionStatus with
  | connecting => rfl
  | connected => exact absurd (hconnected.mp hnow) htells
  | disconnected =>
      rw [hnow] at hactive
      cases hactive
  | failedToConnect =>
      rw [hnow] at hactive
      cases hactive

/-! ## What the loop does -/

namespace AsyncUdpPacketClient

variable (events : ℕ → List StatusEvent)

theorem samples_waitLoop (iter : ℕ) (c : ClientContext Unit) :
    (waitLoop events iter c).samples ≠ [] := by
  unfold waitLoop
  dsimp only
  split
  · exact List.cons_ne_nil _ _
  · split <;> exact List.cons_ne_nil _ _

/-- The loop takes at most one sample more than the time allows. -/
theorem length_samples_waitLoop {iter : ℕ} (hiter : iter ≤ maxIters) (c : ClientContext Unit) :
    (waitLoop events iter c).samples.length + iter ≤ maxIters + 1 := by
  fun_induction waitLoop events iter c with
  | case1 iter c c' connectionStatus done hlast =>
      change 1 + iter ≤ maxIters + 1
      omega
  | case2 iter c c' connectionStatus hlast hconnecting rest ih =>
      have hrest : rest.samples.length + (iter + 1) ≤ maxIters + 1 := ih (by omega)
      rw [List.length_cons]
      omega
  | case3 iter c c' connectionStatus done hlast hconnecting =>
      change 1 + iter ≤ maxIters + 1
      omega

theorem value_waitLoop (iter : ℕ) (c : ClientContext Unit) :
    (waitLoop events iter c).value = true
      ↔ (waitLoop events iter c).samples.getLast? = some .connected := by
  fun_induction waitLoop events iter c with
  | case1 iter c c' connectionStatus done hlast => simp [done]
  | case2 iter c c' connectionStatus hlast hconnecting rest ih =>
      have hrest := samples_waitLoop events (iter + 1) c'
      rw [List.getLast?_cons_of_ne_nil hrest]
      exact ih
  | case3 iter c c' connectionStatus done hlast hconnecting => simp [done]

theorem waits_waitLoop {c : ClientContext Unit} (h : Waits c) (iter : ℕ) :
    Waits (waitLoop events iter c).context := by
  fun_induction waitLoop events iter c with
  | case1 iter c c' connectionStatus done hlast => exact waits_events (waits_events h _) _
  | case2 iter c c' connectionStatus hlast hconnecting rest ih =>
      exact ih (waits_events h _)
  | case3 iter c c' connectionStatus done hlast hconnecting =>
      exact waits_events (waits_events h _) _

/-- A client that is told of an end before a sample does not run again. -/
theorem running_waitLoop_of_idle {c : ClientContext Unit} (h : Waits c) (iter : ℕ)
    (hidle : (UdpClient.handleEvents (events iter) c).self.running = false) :
    (waitLoop events iter c).context.self.running = false := by
  fun_induction waitLoop events iter c with
  | case1 iter c c' connectionStatus done hlast =>
      exact running_events_of_idle (waits_events h _) hidle _
  | case2 iter c c' connectionStatus hlast hconnecting rest ih =>
      exact ih (waits_events h _) (running_events_of_idle (waits_events h _) hidle _)
  | case3 iter c c' connectionStatus done hlast hconnecting =>
      exact running_events_of_idle (waits_events h _) hidle _

/-- A sample that says `connecting` is followed by the next one, if time is left. -/
theorem waitLoop_of_connecting {iter : ℕ} {c : ClientContext Unit} (hiter : iter < maxIters)
    (hstatus : (UdpClient.handleEvents (events iter) c).self.getConnectionStatus = .connecting) :
    waitLoop events iter c
      = { waitLoop events (iter + 1) (UdpClient.handleEvents (events iter) c) with
          samples := .connecting
            :: (waitLoop events (iter + 1) (UdpClient.handleEvents (events iter) c)).samples } := by
  conv_lhs => rw [waitLoop]
  simp only [hstatus, if_neg (Nat.not_le.mpr hiter), if_true]

/-- Any other sample, and the last one, end the loop. -/
theorem waitLoop_of_last {iter : ℕ} {c : ClientContext Unit}
    (hlast : maxIters ≤ iter
      ∨ (UdpClient.handleEvents (events iter) c).self.getConnectionStatus ≠ .connecting) :
    waitLoop events iter c
      = { context := UdpClient.handleEvents (events (iter + 1))
            (UdpClient.handleEvents (events iter) c)
          value := (UdpClient.handleEvents (events iter) c).self.getConnectionStatus = .connected
          samples := [(UdpClient.handleEvents (events iter) c).self.getConnectionStatus] } := by
  rw [waitLoop]
  dsimp only
  rcases hlast with hlast | hlast
  · rw [if_pos hlast]
  · rw [if_neg hlast, ite_self]

/-- **The loop**: a failure leaves the client at rest exactly if it is told of a connection or
of an end in time. -/
theorem running_waitLoop_iff {c : ClientContext Unit} (h : Waits c)
    (hrunning : c.self.running = true) (hstatus : c.self.connectionStatus = .connecting)
    {iter : ℕ} (hiter : iter ≤ maxIters) :
    ((waitLoop events iter c).value = false →
        (waitLoop events iter c).context.self.running = false)
      ↔ (∃ k, iter ≤ k ∧ k ≤ maxIters ∧ TellsConnected (events k))
        ∨ ∃ k, iter ≤ k ∧ k ≤ maxIters + 1 ∧ TellsEnd (events k) := by
  have hc' := waits_events h (events iter)
  rcases sample_cases h hrunning hstatus (events iter) with
      ⟨hend, hidle⟩ | ⟨htells, hconnected⟩ | ⟨hend, htells, hrunning', hconnecting⟩
  · exact iff_of_true (fun _ => running_waitLoop_of_idle events h iter hidle)
      (.inr ⟨iter, le_rfl, by omega, hend⟩)
  · refine iff_of_true (fun hvalue => ?_) (.inl ⟨iter, le_rfl, hiter, htells⟩)
    have hlast : (UdpClient.handleEvents (events iter) c).self.getConnectionStatus
        ≠ .connecting := by
      rw [UdpClient.getConnectionStatus, hconnected]
      intro hsame
      cases hsame
    rw [waitLoop_of_last events (.inr hlast), UdpClient.getConnectionStatus, hconnected] at hvalue
    cases hvalue
  -- the sample says `connecting`, so the later batches decide
  by_cases hlast : maxIters ≤ iter
  · have htimeout : TellsEnd (events (iter + 1))
        ↔ ((waitLoop events iter c).value = false →
          (waitLoop events iter c).context.self.running = false) := by
      have hlater : (UdpClient.handleEvents (events (iter + 1))
          (UdpClient.handleEvents (events iter) c)).self.running = false
            ↔ TellsEnd (events (iter + 1)) := by
        rw [← Bool.not_eq_true, running_handleEvents hc', and_iff_right hrunning', not_not]
      rw [waitLoop_of_last events (.inl hlast), UdpClient.getConnectionStatus, hconnecting]
      dsimp only
      rw [hlater]
      exact ⟨fun htold _ => htold, fun htold => htold rfl⟩
    rw [← htimeout]
    constructor
    · exact fun htold => .inr ⟨iter + 1, by omega, by omega, htold⟩
    · rintro (⟨k, hk, hkmax, htold⟩ | ⟨k, hk, hkmax, htold⟩)
      · obtain rfl : k = iter := by omega
        exact absurd htold htells
      · rcases Nat.eq_or_lt_of_le hk with rfl | hlt
        · exact absurd htold hend
        · obtain rfl : k = iter + 1 := by omega
          exact htold
  · have hrest := running_waitLoop_iff hc' hrunning' hconnecting (by omega : iter + 1 ≤ maxIters)
    rw [waitLoop_of_connecting events (by omega) hconnecting, hrest]
    have hshift : ∀ (Q : List StatusEvent → Prop) (bound : ℕ), ¬ Q (events iter) →
        ((∃ k, iter + 1 ≤ k ∧ k ≤ bound ∧ Q (events k))
          ↔ ∃ k, iter ≤ k ∧ k ≤ bound ∧ Q (events k)) := by
      intro Q bound hno
      constructor
      · rintro ⟨k, hk, hrest⟩
        exact ⟨k, by omega, hrest⟩
      · rintro ⟨k, hk, hbound, hQ⟩
        rcases Nat.eq_or_lt_of_le hk with rfl | hlt
        · exact absurd hQ hno
        · exact ⟨k, hlt, hbound, hQ⟩
    exact or_congr (hshift TellsConnected maxIters htells) (hshift TellsEnd (maxIters + 1) hend)
termination_by maxIters - iter

end AsyncUdpPacketClient

/-! ## Calls of `connect` -/

/-- A client that has just tried to connect waits. -/
theorem waits_afterAttempt {parseString : String → Option SteamNetworkingIPAddr}
    {address : String} {port : UInt16} {result : Connection}
    (hsucceeds : UdpClient.attemptSucceeds parseString address port result = true)
    (self : UdpClient) (trace : List (ClientEffect Unit)) :
    Waits { sInstance := some ()
            self := UdpClient.afterAttempt parseString address port result self
            trace := trace } where
  attached := rfl
  active := by
    intro _
    simp only [UdpClient.afterAttempt, if_pos hsucceeds]
    rfl
  released := by
    intro hidle
    cases hsucceeds.symm.trans hidle

/-- A client that waits from the start settles exactly if it hears in time. -/
theorem connectSettles_waitLoop (events : ℕ → List StatusEvent) {c : ClientContext Unit}
    (h : Waits c) (hrunning : c.self.running = true)
    (hstatus : c.self.connectionStatus = .connecting) :
    ConnectSettles (AsyncUdpPacketClient.waitLoop events 0 c) ↔ HearsInTime events := by
  have hloop := AsyncUdpPacketClient.running_waitLoop_iff events h hrunning hstatus
    (Nat.zero_le AsyncUdpPacketClient.maxIters)
  simp only [Nat.zero_le, true_and] at hloop
  rw [HearsInTime, ← hloop]
  constructor
  · exact ConnectSettles.retriable
  · intro hretriable
    have hwaits := AsyncUdpPacketClient.waits_waitLoop events h 0
    exact
      { bounded := AsyncUdpPacketClient.length_samples_waitLoop events (Nat.zero_le _) c
        value_iff := AsyncUdpPacketClient.value_waitLoop events 0 c
        retriable := hretriable
        released := fun hvalue _ => hwaits.released (hretriable hvalue) }

/-- The call on a client that does not run: it ends the program when the client has a thread,
gives up when the attempt fails, and waits otherwise. -/
theorem asyncConnect_eq (parseString : String → Option SteamNetworkingIPAddr)
    (address : String) (port : UInt16) (result : Connection) (events : ℕ → List StatusEvent)
    {c : ClientContext Unit} (hidle : c.self.isRunning = false) :
    AsyncUdpPacketClient.connect parseString address port result events c
      = if c.self.networkThread.joinable then .error .terminate
        else
          let tried : ClientContext Unit :=
            { sInstance := some ()
              self := UdpClient.afterAttempt parseString address port result c.self
              trace := c.trace ++ .writeInstance () true
                :: UdpClient.attemptCalls parseString () address port result }
          .ok (if UdpClient.attemptSucceeds parseString address port result then
              AsyncUdpPacketClient.waitLoop events 0 tried
            else { context := tried, value := false, samples := [] }) := by
  have hrunning : c.self.running = false := hidle
  rw [AsyncUdpPacketClient.connect, hidle, if_neg Bool.false_ne_true, UdpClient.connect_eq,
    hrunning, if_neg Bool.false_ne_true]
  cases c.self.networkThread.joinable with
  | true => rfl
  | false => cases UdpClient.attemptSucceeds parseString address port result <;> rfl

/-- **A failed connect can be retried**: a call on a client that does not run returns as it
should exactly when the client has no thread left over, and is told of a connection or of an
end in time if the attempt gets so far. -/
theorem connectSettles_iff (parseString : String → Option SteamNetworkingIPAddr)
    (address : String) (port : UInt16) (result : Connection) (events : ℕ → List StatusEvent)
    (c : ClientContext Unit) (hidle : c.self.isRunning = false) :
    (∃ r, AsyncUdpPacketClient.connect parseString address port result events c = .ok r
        ∧ ConnectSettles r)
      ↔ c.self.networkThread.joinable = false
        ∧ (UdpClient.attemptSucceeds parseString address port result = true →
          HearsInTime events) := by
  rw [asyncConnect_eq parseString address port result events hidle]
  cases hjoinable : c.self.networkThread.joinable with
  | true =>
      refine iff_of_false ?_ (fun h => Bool.false_ne_true h.1.symm)
      rintro ⟨r, hr, -⟩
      cases hr
  | false =>
      rw [if_neg Bool.false_ne_true, and_iff_right rfl]
      simp only [Except.ok.injEq, exists_eq_left']
      cases hsucceeds : UdpClient.attemptSucceeds parseString address port result with
      | false =>
          refine iff_of_true ?_ nofun
          exact ⟨Nat.zero_le _, iff_of_false nofun nofun, fun _ => hsucceeds,
            fun _ hsamples => absurd rfl hsamples⟩
      | true =>
          have hwaits := waits_afterAttempt hsucceeds c.self (c.trace ++ .writeInstance () true
            :: UdpClient.attemptCalls parseString () address port result)
          rw [if_pos rfl, connectSettles_waitLoop events hwaits hsucceeds
            (by simp only [UdpClient.afterAttempt, if_pos hsucceeds])]
          exact ⟨fun hhears _ => hhears, fun hhears => hhears rfl⟩

/-- A new client, which is told in the third pause that it is connected. -/
theorem connectSettles_connected :
    ∃ r, AsyncUdpPacketClient.connect (fun _ => some UdpClient.clearedAddress) "127.0.0.1" 7000 5
        (fun k => if k = 3 then
          [{ conn := 5, listenSocket := 0, state := .connected, oldState := .connecting }] else [])
        { sInstance := none, self := {}, trace := [] } = .ok r ∧ ConnectSettles r :=
  (connectSettles_iff _ _ _ _ _ _ rfl).mpr ⟨rfl, fun _ => .inl ⟨3, by decide, rfl⟩⟩

/-- A new client whose server does not answer, and which is told nothing. -/
theorem not_connectSettles_after_timeout :
    ¬ ∀ (parseString : String → Option SteamNetworkingIPAddr) (address : String) (port : UInt16)
      (result : Connection) (events : ℕ → List StatusEvent) (c : ClientContext Unit),
      c.self.isRunning = false →
      ∃ r, AsyncUdpPacketClient.connect parseString address port result events c = .ok r
        ∧ ConnectSettles r := by
  intro h
  obtain ⟨r, hr, hsettles⟩ := h (fun _ => some UdpClient.clearedAddress) "127.0.0.1" 7000 5
    (fun _ => []) { sInstance := none, self := {}, trace := [] } rfl
  rw [asyncConnect_eq _ _ _ _ _ rfl] at hr
  obtain rfl := Except.ok.inj hr
  have hhears := (connectSettles_waitLoop _ (waits_afterAttempt rfl _ _) rfl rfl).mp hsettles
  rcases hhears with ⟨k, -, htells⟩ | ⟨k, -, event, hevent, -⟩
  · cases htells
  · cases hevent

end KbNetworking
