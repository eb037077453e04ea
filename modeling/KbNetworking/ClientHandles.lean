/-
# The connection handle of a client

A client opens a handle in `connect` and closes it in two places: in `stop`, and when it is
told that its connection has ended.  Both clear `m_conn` and `m_running`, and everything that
uses a handle looks at `m_conn` first.

`handles_owned` proves that the fields and the transport keep in step: if every end of a
connection is reported for a handle that is open, then in every state of every run the open
handle is the one in `m_conn`, and no handle is used or closed while it is not open.
-/
import KbNetworking.ClientConfinement

namespace KbNetworking

open Cpp

/-! ## What is kept -/

/-- The handle that the entry uses is open. -/
def UsesOpenHandle (before : List (ClientEffect Unit)) (x : ClientEffect Unit) : Prop :=
  ∀ conn, x.usedHandle = some conn → isOpen before conn = true

/-- The only open handle is the one of the client, it is valid exactly while the client runs,
and every handle was open when it was used. -/
structure HandleOwned (c : ClientContext Unit) : Prop where
  isOpen_iff : ∀ conn, isOpen c.trace conn = true ↔ conn = c.self.conn ∧ conn ≠ kInvalidConnection
  running_iff : c.self.running = true ↔ c.self.conn ≠ kInvalidConnection
  usesOpen : Ledger.EachEntry UsesOpenHandle c.trace

/-- No handle is open, and every handle was open when it was used. -/
structure NothingOpen (trace : List (ClientEffect Unit)) : Prop where
  isOpen_eq : ∀ conn, isOpen trace conn = false
  usesOpen : Ledger.EachEntry UsesOpenHandle trace

/-- A client without a handle has left none open. -/
theorem HandleOwned.nothingOpen {c : ClientContext Unit} (h : HandleOwned c)
    (hconn : c.self.conn = kInvalidConnection) : NothingOpen c.trace where
  isOpen_eq := by
    intro conn
    rw [← Bool.not_eq_true, h.isOpen_iff, hconn]
    exact fun ⟨heq, hne⟩ => hne heq
  usesOpen := h.usesOpen

/-- A client that does not run has no handle. -/
theorem HandleOwned.conn_of_idle {c : ClientContext Unit} (h : HandleOwned c)
    (hidle : c.self.running = false) : c.self.conn = kInvalidConnection := by
  by_contra hconn
  rw [h.running_iff.mpr hconn] at hidle
  cases hidle

/-- While nothing is open a client without a handle owns what is open. -/
theorem NothingOpen.handleOwned {c : ClientContext Unit} (h : NothingOpen c.trace)
    (hconn : c.self.conn = kInvalidConnection) (hidle : c.self.running = false) :
    HandleOwned c where
  isOpen_iff := by
    intro conn
    rw [h.isOpen_eq, hconn]
    exact iff_of_false Bool.false_ne_true fun ⟨heq, hne⟩ => hne heq
  running_iff := by
    rw [hidle, hconn]
    exact iff_of_false Bool.false_ne_true (absurd rfl)
  usesOpen := h.usesOpen

/-! ## What the entries do -/

theorem usesOpenHandle_of_none {before : List (ClientEffect Unit)} {x : ClientEffect Unit}
    (h : x.usedHandle = none) : UsesOpenHandle before x := by
  intro conn hused
  cases h.symm.trans hused

/-- A write to the pointer opens and closes nothing. -/
theorem isOpen_writeInstance (trace : List (ClientEffect Unit)) (attach : Bool)
    (conn : Connection) :
    isOpen (trace ++ [.writeInstance () attach]) conn = isOpen trace conn := by
  refine Ledger.live_append_of_unrelated fun x hx => ?_
  rw [List.mem_singleton.mp hx]
  exact ⟨rfl, rfl⟩

theorem nothingOpen_writeInstance {trace : List (ClientEffect Unit)} (h : NothingOpen trace)
    (attach : Bool) : NothingOpen (trace ++ [.writeInstance () attach]) where
  isOpen_eq := by
    intro conn
    rw [isOpen_writeInstance]
    exact h.isOpen_eq conn
  usesOpen := h.usesOpen.concat (usesOpenHandle_of_none rfl)

/-- Closing the only open handle leaves nothing open. -/
theorem nothingOpen_close {trace : List (ClientEffect Unit)} {closed : Connection}
    (hopen : ∀ conn, isOpen trace conn = true → conn = closed)
    (huses : Ledger.EachEntry UsesOpenHandle trace) (hclosed : isOpen trace closed = true)
    (site : ClientCloseSite) : NothingOpen (trace ++ [.closeConnection site closed]) where
  isOpen_eq := by
    intro conn
    unfold isOpen at hopen ⊢
    rw [Ledger.live_concat]
    split
    · rfl
    · rename_i hcloses
      rw [Bool.or_eq_false_iff]
      refine ⟨?_, rfl⟩
      rw [← Bool.not_eq_true]
      intro hlive
      exact hcloses (by simp [ClientEffect.closes, hopen conn hlive])
  usesOpen := by
    refine huses.concat ?_
    rintro conn ⟨⟩
    exact hclosed

/-- Data moved over the open handle changes nothing. -/
theorem handleOwned_traffic {c c' : ClientContext Unit} (h : HandleOwned c)
    (hconn : c'.self.conn = c.self.conn) (hrunning : c'.self.running = c.self.running)
    {xs : List (ClientEffect Unit)} (htrace : c'.trace = c.trace ++ xs)
    (hxs : ∀ x ∈ xs, x.isTraffic = true ∧ ∀ conn, x.usedHandle = some conn →
      conn = c.self.conn ∧ conn ≠ kInvalidConnection) : HandleOwned c' := by
  have hunrelated : ∀ conn, ∀ x ∈ xs, x.opens conn = false ∧ x.closes conn = false := by
    intro conn x hx
    have htraffic := (hxs x hx).1
    cases x <;> first | exact ⟨rfl, rfl⟩ | cases htraffic
  refine ⟨fun conn => ?_, ?_, ?_⟩
  · unfold isOpen
    rw [htrace, Ledger.live_append_of_unrelated (hunrelated conn), hconn]
    exact h.isOpen_iff conn
  · rw [hrunning, hconn]
    exact h.running_iff
  · rw [htrace]
    refine h.usesOpen.append_of_split ?_
    intro ys x zs hsplit conn hused
    have hopen := (h.isOpen_iff conn).mpr ((hxs x (by simp [hsplit])).2 conn hused)
    exact isOpen_append hopen fun y hy => (hunrelated conn y (by simp [hsplit, hy])).2

/-! ## What the member functions keep -/

/-- An attempt of an idle client opens at most the handle that it stores. -/
theorem handleOwned_attempt (parseString : String → Option SteamNetworkingIPAddr)
    (address : String) (port : UInt16) (result : Connection) {c : ClientContext Unit}
    (h : HandleOwned c) (hidle : c.self.running = false) :
    HandleOwned { sInstance := some ()
                  self := UdpClient.afterAttempt parseString address port result c.self
                  trace := c.trace ++ .writeInstance () true
                    :: UdpClient.attemptCalls parseString () address port result } := by
  have hnothing := nothingOpen_writeInstance (h.nothingOpen (h.conn_of_idle hidle)) true
  rw [List.append_cons]
  unfold UdpClient.attemptCalls UdpClient.afterAttempt UdpClient.attemptSucceeds
  cases hvalid : isValidIpAddress parseString (UdpClient.addressWithPort address port) with
  | false =>
      simp only [Bool.false_and, Bool.false_eq_true, if_false, List.append_nil]
      exact hnothing.handleOwned (h.conn_of_idle hidle) rfl
  | true =>
      simp only [Bool.true_and, if_true]
      refine ⟨fun conn => ?_, by simp, hnothing.usesOpen.concat (usesOpenHandle_of_none rfl)⟩
      unfold isOpen
      rw [Ledger.live_concat, ← isOpen, hnothing.isOpen_eq]
      simp only [ClientEffect.closes, ClientEffect.opens, ClientEffect.opener, Bool.false_or,
        Bool.false_eq_true, if_false]
      grind

/-- `stop` closes the handle of the client and leaves nothing open. -/
theorem nothingOpen_stop {c : ClientContext Unit} (h : HandleOwned c) :
    NothingOpen (UdpClient.stop () c).trace
      ∧ (UdpClient.stop () c).self.conn = kInvalidConnection := by
  rw [UdpClient.stop_eq, UdpClient.stopCalls, UdpClient.afterStop]
  dsimp only
  rw [List.append_cons]
  cases hrunning : c.self.running with
  | false =>
      simp only [Bool.false_and, Bool.false_eq_true, if_false, List.append_nil]
      have hconn := h.conn_of_idle hrunning
      exact ⟨nothingOpen_writeInstance (h.nothingOpen hconn) false, hconn⟩
  | true =>
      have hconn := h.running_iff.mp hrunning
      simp only [hconn, Bool.true_and, bne_iff_ne, ne_eq, not_false_eq_true, if_true, and_true]
      refine nothingOpen_close ?_ (h.usesOpen.concat (usesOpenHandle_of_none rfl)) ?_ .stop
      · intro conn hopen
        rw [isOpen_writeInstance] at hopen
        exact ((h.isOpen_iff conn).mp hopen).1
      · rw [isOpen_writeInstance]
        exact (h.isOpen_iff c.self.conn).mpr ⟨rfl, hconn⟩

theorem handleOwned_stop {c : ClientContext Unit} (h : HandleOwned c) :
    HandleOwned (UdpClient.stop () c) := by
  obtain ⟨hnothing, hconn⟩ := nothingOpen_stop h
  refine hnothing.handleOwned hconn ?_
  rw [UdpClient.stop_eq]
  exact UdpClient.running_afterStop c.self

/-- A status event: the end of a connection is the end of the one the client has. -/
theorem handleOwned_event {c : ClientContext Unit} (h : HandleOwned c) {event : StatusEvent}
    (hopen : event.state.isClosed = true → isOpen c.trace event.conn = true) :
    HandleOwned (UdpClient.onConnectionStatusChanged event c) := by
  rw [UdpClient.onConnectionStatusChanged_eq, UdpClient.afterEvent, UdpClient.eventCalls]
  have hkeep : ∀ status : ConnectionStatus,
      HandleOwned { c with self := { c.self with connectionStatus := status }
                           trace := c.trace ++ [] } := by
    intro status
    rw [List.append_nil]
    exact ⟨h.isOpen_iff, h.running_iff, h.usesOpen⟩
  have hend : event.state.isClosed = true →
      NothingOpen (c.trace ++ [.closeConnection .closedOrProblem event.conn]) := by
    intro hclosed
    have hevent := (h.isOpen_iff event.conn).mp (hopen hclosed)
    refine nothingOpen_close ?_ h.usesOpen (hopen hclosed) .closedOrProblem
    intro conn hlive
    exact ((h.isOpen_iff conn).mp hlive).1.trans hevent.1.symm
  cases hstate : event.state with
  | closedByPeer => exact (hend (by rw [hstate]; rfl)).handleOwned rfl rfl
  | problemDetectedLocally => exact (hend (by rw [hstate]; rfl)).handleOwned rfl rfl
  | none => exact hkeep c.self.connectionStatus
  | findingRoute => exact hkeep c.self.connectionStatus
  | connecting => exact hkeep .connecting
  | connected => exact hkeep .connected

/-! ## Runs of the only client -/

/-- The open handle is the one of the client, and without a client nothing is open. -/
def HandlesMatch (p : ClientProcess Unit) : Prop :=
  p.Sole HandleOwned fun _ trace => NothingOpen trace

/-- After `stop` and after the destructor nothing is open. -/
def StopClosesAll (_ : ClientProcess Unit) (a : ClientAction Unit) (p' : ClientProcess Unit) :
    Prop :=
  a = .call () .stop ∨ a = .destroy () → ∀ conn, isOpen p'.trace conn = false

/-- The end of a connection is reported for a handle that is open. -/
def EndsOpenConnection (p : ClientProcess Unit) : ClientAction Unit → Prop
  | .event event => event.state.isClosed = true → isOpen p.trace event.conn = true
  | _ => True

variable {parseString : String → Option SteamNetworkingIPAddr} {p p' : ClientProcess Unit}
  {a : ClientAction Unit}

theorem handlesMatch_step (hstep : (clientClass Unit parseString).step p a = some p')
    (h : HandlesMatch p) (hends : EndsOpenConnection p a) : HandlesMatch p' := by
  refine ObjectClass.sole_step hstep h ?_ ?_ ?_ ?_
  · intro hnothing
    exact hnothing.handleOwned rfl rfl
  · intro self c _ _ howned hc
    obtain ⟨-, -, hc⟩ := bind_eq_ok.mp hc
    obtain rfl := Except.ok.inj hc
    exact (nothingOpen_stop howned).1
  · intro operation self c _ _ howned hc
    rcases ClientOperation.run_cases hc with ⟨address, port, result, -, hidle, rfl⟩ | ⟨-, rfl⟩
        | ⟨isSet, xs, rfl, hxs⟩
    · exact handleOwned_attempt parseString address port result howned hidle
    · exact handleOwned_stop howned
    · exact handleOwned_traffic howned rfl rfl rfl hxs
  · rintro event self rfl _ _ howned
    exact handleOwned_event howned hends

/-- A client that is stopped or destroyed has closed its handle; a destructor that ends the
program found a client that does not run. -/
theorem stopClosesAll_step (hstep : (clientClass Unit parseString).step p a = some p')
    (h : HandlesMatch p) : StopClosesAll p a p' := by
  rintro (rfl | rfl) conn
  · obtain ⟨self, hself, ⟨c, hc, rfl⟩ | ⟨e, he, -⟩⟩ := ObjectClass.step_call hstep
    · obtain rfl := Except.ok.inj hc
      exact (nothingOpen_stop (h.of_some hself)).1.isOpen_eq conn
    · cases he
  · rcases ObjectClass.step_cases hstep with
        ⟨-, ⟨i, ha, -⟩ | ⟨⟨⟩, self, c, -, hself, hc, rfl⟩ | ⟨⟨⟩, self, e, -, hself, he, rfl⟩
        | ⟨i, operation, self, c, ha, -⟩ | ⟨i, operation, self, e, ha, -⟩ | ⟨e, ha, -⟩⟩
    · cases ha
    · obtain ⟨-, -, hc⟩ := bind_eq_ok.mp hc
      obtain rfl := Except.ok.inj hc
      exact (nothingOpen_stop (h.of_some hself)).1.isOpen_eq conn
    · have howned : HandleOwned (p.context self) := h.of_some hself
      have hidle : self.running = false := by
        by_contra hrunning
        rw [Bool.not_eq_false] at hrunning
        have hjoined :
            (UdpClient.stop () (p.context self)).self.networkThread.joinable = false := by
          rw [UdpClient.stop_eq, Process.context_self, UdpClient.afterStop, if_pos hrunning]
          exact Thread.joinable_joinIfJoinable _
        have hdone : UdpClient.destroy () (p.context self)
            = .ok (UdpClient.stop () (p.context self)) := by
          unfold UdpClient.destroy
          dsimp only
          rw [Thread.destroy_of_not_joinable hjoined]
          rfl
        cases hdone.symm.trans he
      exact (howned.nothingOpen (howned.conn_of_idle hidle)).isOpen_eq conn
    · cases ha
    · cases ha
    · cases ha

/-- **Handle ownership**: along every run of the only client in which the end of a connection
is reported for an open handle, the open handle is the one in `m_conn`, valid exactly while
the client runs, every handle is open when it is used or closed, and every `stop` leaves
nothing open. -/
theorem handles_owned (parseString : String → Option SteamNetworkingIPAddr)
    (as : List (ClientAction Unit))
    (hends : (clientProcess Unit parseString).EachStep (fun p a _ => EndsOpenConnection p a)
      (clientProcess Unit parseString).init as) :
    (clientProcess Unit parseString).Always HandlesMatch (clientProcess Unit parseString).init as
      ∧ (clientProcess Unit parseString).EachStep StopClosesAll
        (clientProcess Unit parseString).init as := by
  have hinit : HandlesMatch (clientProcess Unit parseString).init :=
    ⟨fun _ => rfl, Ledger.eachEntry_nil _⟩
  constructor
  · exact Machine.always_of_invariant (M := clientProcess Unit parseString)
      (fun _ _ _ hstep h hok => handlesMatch_step hstep h hok) hinit hends
  · exact Machine.eachStep_of_invariant (M := clientProcess Unit parseString)
      (fun _ _ _ hstep h hok => handlesMatch_step hstep h hok)
      (fun _ _ _ hstep h _ => stopClosesAll_step hstep h) hinit hends

instance (p : ClientProcess Unit) (a : ClientAction Unit) : Decidable (EndsOpenConnection p a) :=
  match a with
  | .event event => inferInstanceAs (Decidable
      (event.state.isClosed = true → isOpen p.trace event.conn = true))
  | .construct _ => .isTrue trivial
  | .destroy _ => .isTrue trivial
  | .call _ _ => .isTrue trivial

/-- A client that connects, sends, stops, connects again and is left by its peer. -/
theorem handles_owned_reconnect :
    let client := clientProcess Unit fun _ => some UdpClient.clearedAddress
    let as : List (ClientAction Unit) := [.construct (), .call () (.connect "127.0.0.1" 7000 5),
      .call () (.sendRaw [1, 2, 3] true true), .call () .stop,
      .call () (.connect "127.0.0.1" 7000 5),
      .event { conn := 5, listenSocket := 0, state := .closedByPeer, oldState := .connected }]
    client.Always HandlesMatch client.init as ∧ client.EachStep StopClosesAll client.init as :=
  handles_owned _ _ (by decide)

end KbNetworking
