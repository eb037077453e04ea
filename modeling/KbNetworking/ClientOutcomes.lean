/-
# How an attempt to connect ended

`connection_status_t` has one value for an attempt that failed and one for a connection that
was lost.  `try_connect` stores `failed_to_connect` when it fails at once.  The handler of
the status events stores it too when the connection ends, and tells the two cases apart by
the previous state; but only the log differs, and its last assignment stores `disconnected`
in both.

`outcomeShown_iff` proves that this is one of the two ways to a wrong status; the other is an
event for a client whose attempt is over, which the handler does not compare with its handle.
-/
import KbNetworking.ClientStatus

namespace KbNetworking

open Cpp

/-! ## What the transport says of an attempt -/

/-- How far the last attempt of a client has come. -/
inductive AttemptOutcome : Type where
  | idle
  | pending (conn : Connection)
  | established (conn : Connection)
  | failed
  | lost
  deriving DecidableEq, Repr

namespace AttemptOutcome

/-- The status should say how it ended. -/
def isOver : AttemptOutcome → Bool
  | .failed => true
  | .lost => true
  | _ => false

/-- After `connect` on an idle client. -/
def attempted (parseString : String → Option SteamNetworkingIPAddr) (address : String)
    (port : UInt16) (result : Connection) : AttemptOutcome :=
  if UdpClient.attemptSucceeds parseString address port result then .pending result else .failed

/-- After `stop`: an attempt or a connection that the user ends has neither failed nor been
lost. -/
def stopped : AttemptOutcome → AttemptOutcome
  | .pending _ => .idle
  | .established _ => .idle
  | outcome => outcome

/-- The end of a connection that was not known to be established. -/
def ended (oldState : ConnectionState) : AttemptOutcome :=
  match oldState with
  | .connecting => .failed
  | .connected => .lost
  | _ => .idle

/-- After a status event: only one for the handle of the attempt says something of it. -/
def told (event : StatusEvent) : AttemptOutcome → AttemptOutcome
  | .pending conn =>
      if event.conn = conn then
        if event.state = .connected then .established conn
        else if event.state.isClosed then ended event.oldState
        else .pending conn
      else .pending conn
  | .established conn =>
      if event.conn = conn ∧ event.state.isClosed = true then .lost else .established conn
  | outcome => outcome

/-- After a member call that returned. -/
def called (parseString : String → Option SteamNetworkingIPAddr) (self : UdpClient)
    (outcome : AttemptOutcome) : ClientOperation → AttemptOutcome
  | .connect address port result =>
      if self.running then outcome else attempted parseString address port result
  | .stop => outcome.stopped
  | _ => outcome

/-- What a step of the process says of the attempt; a step that faults says nothing. -/
def note (parseString : String → Option SteamNetworkingIPAddr) (outcome : AttemptOutcome)
    (p : ClientProcess Unit) (a : ClientAction Unit) (p' : ClientProcess Unit) :
    AttemptOutcome :=
  if p'.fault.isSome then outcome
  else
    match a with
    | .construct _ => .idle
    | .destroy _ => .idle
    | .call _ operation =>
        match p.objects () with
        | some self => outcome.called parseString self operation
        | none => outcome
    | .event event => if p.sInstance = some () then outcome.told event else outcome

end AttemptOutcome

/-- The only client of the process, with the outcome of its last attempt. -/
def clientWithOutcome (parseString : String → Option SteamNetworkingIPAddr) :
    Machine (AttemptOutcome × ClientProcess Unit) (ClientAction Unit) :=
  (clientProcess Unit parseString).observed .idle (AttemptOutcome.note parseString)

/-! ## What the status should say -/

/-- The status tells a failed attempt from a lost connection. -/
structure OutcomeShown (outcome : AttemptOutcome) (c : ClientContext Unit) : Prop where
  failed : outcome = .failed → c.self.getConnectionStatus = .failedToConnect
  lost : outcome = .lost → c.self.getConnectionStatus = .disconnected

/-- `OutcomeShown` of the only client. -/
def ReportsOutcome (s : AttemptOutcome × ClientProcess Unit) : Prop :=
  s.2.Sole (OutcomeShown s.1) fun _ _ => True

/-- The event does not end a pending attempt from the state `Connecting`, and an attempt that
is over is not told of a connection; one that failed is not told of another end either. -/
def StatusEvent.KeepsOutcome (event : StatusEvent) : AttemptOutcome → Prop
  | .pending conn =>
      ¬ (event.conn = conn ∧ event.state.isClosed = true ∧ event.oldState = .connecting)
  | .failed => event.state.isClosed = false ∧ event.state.isActive = false
  | .lost => event.state.isActive = false
  | _ => True

/-- The step hands the client no other event. -/
def KeepsOutcome (s : AttemptOutcome × ClientProcess Unit) : ClientAction Unit → Prop
  | .event event => s.2.sInstance = some () → s.2.objects () ≠ none → event.KeepsOutcome s.1
  | _ => True

/-! ## What the member functions do to the status -/

/-- An outcome of which the status says nothing. -/
theorem outcomeShown_of_open {outcome : AttemptOutcome} (hopen : outcome.isOver = false)
    (c : ClientContext Unit) : OutcomeShown outcome c := by
  constructor <;>
    · rintro rfl
      cases hopen

theorem OutcomeShown.of_status {outcome : AttemptOutcome} {c c' : ClientContext Unit}
    (h : OutcomeShown outcome c) (hstatus : c'.self.connectionStatus = c.self.connectionStatus) :
    OutcomeShown outcome c' where
  failed := fun hfailed => hstatus.trans (h.failed hfailed)
  lost := fun hlost => hstatus.trans (h.lost hlost)

/-- `try_connect` that fails at once stores `failed_to_connect`. -/
theorem outcomeShown_attempt (parseString : String → Option SteamNetworkingIPAddr)
    (address : String) (port : UInt16) (result : Connection) {c : ClientContext Unit}
    {self : UdpClient}
    (hself : c.self = UdpClient.afterAttempt parseString address port result self) :
    OutcomeShown (.attempted parseString address port result) c := by
  unfold AttemptOutcome.attempted
  cases hsucceeds : UdpClient.attemptSucceeds parseString address port result with
  | true =>
      rw [if_pos rfl]
      exact outcomeShown_of_open rfl c
  | false =>
      rw [if_neg Bool.false_ne_true]
      refine ⟨fun _ => ?_, nofun⟩
      rw [UdpClient.getConnectionStatus, hself, UdpClient.afterAttempt, hsucceeds]
      rfl

/-- `stop` leaves the status as it is. -/
theorem outcomeShown_stop {outcome : AttemptOutcome} {c : ClientContext Unit}
    (h : OutcomeShown outcome c) : OutcomeShown outcome.stopped (UdpClient.stop () c) := by
  have hstatus : (UdpClient.stop () c).self.connectionStatus = c.self.connectionStatus := by
    rw [UdpClient.stop_eq, UdpClient.afterStop]
    dsimp only
    cases c.self.running <;> rfl
  cases outcome with
  | pending conn =>
      rw [AttemptOutcome.stopped]
      exact outcomeShown_of_open rfl _
  | established conn =>
      rw [AttemptOutcome.stopped]
      exact outcomeShown_of_open rfl _
  | idle => exact h.of_status hstatus
  | failed => exact h.of_status hstatus
  | lost => exact h.of_status hstatus

theorem outcomeShown_call {parseString : String → Option SteamNetworkingIPAddr}
    {outcome : AttemptOutcome} {c c' : ClientContext Unit} (h : OutcomeShown outcome c)
    {operation : ClientOperation} (hrun : operation.run parseString () c = .ok c') :
    OutcomeShown (outcome.called parseString c.self operation) c' := by
  cases operation with
  | connect address port result =>
      rcases ClientOperation.run_connect hrun with ⟨hrunning, rfl⟩ | ⟨hidle, -, rfl⟩
      · rw [AttemptOutcome.called, if_pos hrunning]
        exact h
      · rw [AttemptOutcome.called, hidle, if_neg Bool.false_ne_true]
        exact outcomeShown_attempt parseString address port result rfl
  | stop =>
      obtain rfl := Except.ok.inj hrun
      exact outcomeShown_stop h
  | _ =>
      rcases ClientOperation.run_cases hrun with ⟨address, port, result, hconnect, -, -⟩
          | ⟨hstop, -⟩ | ⟨isSet, xs, rfl, -⟩
      · cases hconnect
      · cases hstop
      · exact h.of_status rfl

/-- The status that the handler leaves. -/
theorem connectionStatus_afterEvent (event : StatusEvent) (self : UdpClient) :
    (UdpClient.afterEvent event self).connectionStatus
      = if event.state.isClosed then .disconnected
        else if event.state = .connecting then .connecting
        else if event.state = .connected then .connected
        else self.connectionStatus := by
  unfold UdpClient.afterEvent
  cases event.state <;> rfl

/-- The handler leaves `disconnected` after the end of a connection. -/
theorem getConnectionStatus_of_isClosed {event : StatusEvent} (c : ClientContext Unit)
    (hclosed : event.state.isClosed = true) :
    (UdpClient.onConnectionStatusChanged event c).self.getConnectionStatus = .disconnected := by
  rw [UdpClient.getConnectionStatus, UdpClient.onConnectionStatusChanged_eq,
    connectionStatus_afterEvent, if_pos hclosed]

/-- The handler leaves an active status when it is told of a connection. -/
theorem getConnectionStatus_of_isActive {event : StatusEvent} (c : ClientContext Unit)
    (hactive : event.state.isActive = true) :
    (UdpClient.onConnectionStatusChanged event c).self.getConnectionStatus.isActive = true := by
  rw [UdpClient.getConnectionStatus, UdpClient.onConnectionStatusChanged_eq,
    connectionStatus_afterEvent]
  cases hstate : event.state <;> rw [hstate] at hactive <;> first | rfl | cases hactive

/-- Other events leave the status as it is. -/
theorem connectionStatus_of_neither {event : StatusEvent} (c : ClientContext Unit)
    (hclosed : event.state.isClosed = false) (hinactive : event.state.isActive = false) :
    (UdpClient.onConnectionStatusChanged event c).self.connectionStatus
      = c.self.connectionStatus := by
  rw [UdpClient.onConnectionStatusChanged_eq, connectionStatus_afterEvent]
  cases hstate : event.state with
  | none => rfl
  | findingRoute => rfl
  | _ => simp_all [ConnectionState.isClosed, ConnectionState.isActive]

/-- An event for a pending attempt: the status is wrong exactly when the connection ends while
it connects. -/
theorem outcomeShown_told_pending (conn : Connection) (event : StatusEvent)
    (c : ClientContext Unit) :
    OutcomeShown (AttemptOutcome.told event (.pending conn))
        (UdpClient.onConnectionStatusChanged event c)
      ↔ ¬ (event.conn = conn ∧ event.state.isClosed = true ∧ event.oldState = .connecting) := by
  rw [AttemptOutcome.told]
  by_cases hconn : event.conn = conn
  · rw [if_pos hconn]
    cases hclosed : event.state.isClosed with
    | false =>
        refine iff_of_true ?_ (by simp)
        rw [if_neg Bool.false_ne_true]
        split <;> exact outcomeShown_of_open rfl _
    | true =>
        have hstate : event.state ≠ .connected := by
          intro hstate
          rw [hstate] at hclosed
          cases hclosed
        rw [if_neg hstate, if_pos rfl]
        have hstatus := getConnectionStatus_of_isClosed c hclosed
        cases hold : event.oldState with
        | connecting =>
            refine iff_of_false (fun h => ?_) (fun h => h ⟨hconn, rfl, rfl⟩)
            cases hstatus.symm.trans (h.failed rfl)
        | connected => exact iff_of_true ⟨nofun, fun _ => hstatus⟩ (by simp)
        | _ => exact iff_of_true (outcomeShown_of_open rfl _) (by simp)
  · rw [if_neg hconn]
    exact iff_of_true (outcomeShown_of_open rfl _) fun h => hconn h.1

/-- **One event**: the handler leaves the right status exactly on the events that keep the
outcome. -/
theorem outcomeShown_told {outcome : AttemptOutcome} {c : ClientContext Unit}
    (h : OutcomeShown outcome c) (event : StatusEvent) :
    OutcomeShown (outcome.told event) (UdpClient.onConnectionStatusChanged event c)
      ↔ event.KeepsOutcome outcome := by
  cases outcome with
  | idle => exact iff_of_true (outcomeShown_of_open rfl _) trivial
  | pending conn => exact outcomeShown_told_pending conn event c
  | established conn =>
      refine iff_of_true ?_ trivial
      rw [AttemptOutcome.told]
      split
      · rename_i hended
        exact ⟨nofun, fun _ => getConnectionStatus_of_isClosed c hended.2⟩
      · exact outcomeShown_of_open rfl _
  | failed =>
      constructor
      · intro hshown
        have hstatus := hshown.failed rfl
        constructor
        · by_contra hclosed
          rw [Bool.not_eq_false] at hclosed
          cases (getConnectionStatus_of_isClosed c hclosed).symm.trans hstatus
        · by_contra hactive
          rw [Bool.not_eq_false] at hactive
          have hstill := getConnectionStatus_of_isActive c hactive
          rw [hstatus] at hstill
          cases hstill
      · rintro ⟨hclosed, hinactive⟩
        exact h.of_status (connectionStatus_of_neither c hclosed hinactive)
  | lost =>
      constructor
      · intro hshown
        have hstatus := hshown.lost rfl
        change event.state.isActive = false
        by_contra hactive
        rw [Bool.not_eq_false] at hactive
        have hstill := getConnectionStatus_of_isActive c hactive
        rw [hstatus] at hstill
        cases hstill
      · intro hinactive
        cases hclosed : event.state.isClosed with
        | true => exact ⟨nofun, fun _ => getConnectionStatus_of_isClosed c hclosed⟩
        | false => exact h.of_status (connectionStatus_of_neither c hclosed hinactive)

/-! ## Runs of the only client -/

variable {parseString : String → Option SteamNetworkingIPAddr}
  {s s' : AttemptOutcome × ClientProcess Unit} {a : ClientAction Unit}

variable (parseString) in
/-- An event that is handed to the client. -/
theorem note_handed (outcome : AttemptOutcome) {p : ClientProcess Unit} (hfault : p.fault = none)
    (hinstance : p.sInstance = some ()) (event : StatusEvent) (c : ClientContext Unit) :
    outcome.note parseString p (.event event) (p.put () c) = outcome.told event := by
  simp [AttemptOutcome.note, hfault, hinstance]

theorem reportsOutcome_step (hstep : (clientWithOutcome parseString).step s a = some s')
    (h : ReportsOutcome s) (hok : KeepsOutcome s a) : ReportsOutcome s' := by
  obtain ⟨outcome, p⟩ := s
  obtain ⟨p', hclient, rfl⟩ := Machine.observed_step hstep
  have hfailed : ∀ e, ReportsOutcome
      (outcome.note parseString p a (p.fail e), p.fail e) := by
    intro e
    have hsame : outcome.note parseString p a (p.fail e) = outcome := rfl
    rw [hsame]
    exact h
  rcases ObjectClass.step_cases hclient with
      ⟨hfault, ⟨⟨⟩, rfl, hnew, rfl⟩ | ⟨⟨⟩, self, c, rfl, hself, hc, rfl⟩
      | ⟨⟨⟩, self, e, rfl, hself, he, rfl⟩ | ⟨⟨⟩, operation, self, c, rfl, hself, hc, rfl⟩
      | ⟨⟨⟩, operation, self, e, rfl, hself, he, rfl⟩ | ⟨event, rfl, rfl⟩⟩
  · refine Process.sole_put ?_
    have hidle : outcome.note parseString p (.construct ()) (p.put () (p.context {})) = .idle := by
      simp [AttemptOutcome.note, hfault]
    exact hidle ▸ outcomeShown_of_open rfl _
  · exact Process.sole_remove_put trivial
  · exact hfailed e
  · refine Process.sole_put ?_
    have hcalled : outcome.note parseString p (.call () operation) (p.put () c)
        = outcome.called parseString self operation := by
      simp [AttemptOutcome.note, hfault, hself]
    rw [hcalled]
    exact outcomeShown_call (h.of_some hself) hc
  · exact hfailed e
  · cases hinstance : p.sInstance with
    | none =>
        rw [Process.throughInstance_of_none hinstance]
        have hsame : outcome.note parseString p (.event event) p = outcome := by
          simp [AttemptOutcome.note, hinstance]
        rw [hsame]
        exact h
    | some i =>
        cases hself : p.objects () with
        | none =>
            rw [Process.throughInstance_of_missing hinstance hself]
            exact hfailed .useAfterFree
        | some self =>
            rw [Process.throughInstance_of_some hinstance hself]
            refine Process.sole_put ?_
            have htold := note_handed parseString outcome hfault hinstance event
              ((clientClass Unit parseString).handle event (p.context self))
            rw [htold]
            exact (outcomeShown_told (h.of_some hself) event).mpr
              (hok hinstance (by rw [hself]; exact nofun))

/-- An event that should not have been handed to the client leaves it with a wrong status. -/
theorem not_reportsOutcome_step (hstep : (clientWithOutcome parseString).step s a = some s')
    (h : ReportsOutcome s) (hno : ¬ KeepsOutcome s a) : ¬ ReportsOutcome s' := by
  obtain ⟨outcome, p⟩ := s
  obtain ⟨p', hclient, rfl⟩ := Machine.observed_step hstep
  cases a with
  | construct i => exact absurd trivial hno
  | destroy i => exact absurd trivial hno
  | call i operation => exact absurd trivial hno
  | event event =>
      simp only [KeepsOutcome, not_forall] at hno
      obtain ⟨hinstance, hobject, hno⟩ := hno
      obtain ⟨self, hself⟩ := Option.ne_none_iff_exists'.mp hobject
      intro hreports
      refine hno ((outcomeShown_told (h.of_some hself) event).mp ?_)
      have hevent : (clientClass Unit parseString).step p (.event event) = some p' := hclient
      have hfault : p.fault = none := (ObjectClass.step_cases hevent).1
      have hp' := ObjectClass.step_event hevent
      rw [Process.throughInstance_of_some hinstance hself] at hp'
      subst hp'
      have hshown := hreports.of_some (Process.put_objects_self p () _)
      have htold := note_handed parseString outcome hfault hinstance event
        ((clientClass Unit parseString).handle event (p.context self))
      rw [htold] at hshown
      exact hshown

/-- **Failed attempt or lost connection**: along a run of the only client the status tells the
two apart in every state exactly when no event ends a pending attempt from the state
`Connecting`, and none reaches a client whose attempt is over. -/
theorem outcomeShown_iff (parseString : String → Option SteamNetworkingIPAddr)
    (as : List (ClientAction Unit)) :
    (clientWithOutcome parseString).Always ReportsOutcome (clientWithOutcome parseString).init as
      ↔ (clientWithOutcome parseString).EachStep (fun s a _ => KeepsOutcome s a)
          (clientWithOutcome parseString).init as := by
  have hinit : ReportsOutcome (clientWithOutcome parseString).init := trivial
  exact Machine.always_iff_eachStep (M := clientWithOutcome parseString) (fun _ h => h)
    (fun _ _ _ hstep h hok => reportsOutcome_step hstep h hok)
    (fun _ _ _ hstep h hno => not_reportsOutcome_step hstep h hno) hinit as

/-- An attempt that times out while it connects is reported as a lost connection. -/
theorem not_outcomeShown_after_timeout :
    ¬ ∀ (parseString : String → Option SteamNetworkingIPAddr) (as : List (ClientAction Unit)),
      (clientWithOutcome parseString).Always ReportsOutcome
        (clientWithOutcome parseString).init as := by
  intro h
  obtain ⟨-, hrun⟩ := h (fun _ => some UdpClient.clearedAddress)
    [.construct (), .call () (.connect "127.0.0.1" 7000 5),
      .event { conn := 5, listenSocket := 0, state := .problemDetectedLocally,
               oldState := .connecting }]
  obtain ⟨-, hrun⟩ := hrun _ rfl
  obtain ⟨-, hrun⟩ := hrun _ rfl
  have hreports : ReportsOutcome _ := hrun _ rfl
  have hstatus := OutcomeShown.failed hreports rfl
  cases hstatus

end KbNetworking
