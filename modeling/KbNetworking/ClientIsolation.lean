/-
# Clients that do not notice each other

A status event for a handle concerns the client that opened the handle.  The static callback
hands it to the client that `s_instance` points to, which the last `connect`, `stop` or
destructor of any client decided.

`clients_isolated` proves when this does no harm: if the transport returns handles that are
not open and reports events of handles that were opened, and every event arrives while the
pointer is what the client that opened its handle left there, then events change no other
client, a running client receives the events of its handle, and every client goes through
the same states as in the run in which the others do nothing.
-/
import KbNetworking.ClientConfinement

namespace KbNetworking

open Cpp

variable {ι : Type} [DecidableEq ι] {parseString : String → Option SteamNetworkingIPAddr}

/-! ## What is assumed of the transport, and what of the run -/

/-- The client that opened the handle of the event. -/
def eventOwner (trace : List (ClientEffect ι)) (event : StatusEvent) : Option ι :=
  openedBy trace event.conn

/-- The transport returns a handle that is not open, and reports events of handles that were
opened. -/
def FairTransport (p : ClientProcess ι) : ClientAction ι → Prop
  | .call _ (.connect _ _ result) => isOpen p.trace result = false
  | .event event => (eventOwner p.trace event).isSome = true
  | _ => True

/-- An event arrives while the pointer is what the client that opened its handle left
there. -/
def UnmovedPointer (p : ClientProcess ι) : ClientAction ι → Prop
  | .event event => ∀ i, eventOwner p.trace event = some i →
      p.sInstance = ownPointer ClientEffect.writes p.trace i
  | _ => True

/-! ## Handles and their clients -/

/-- A client's handle is open and was opened by it, and a running client points to itself. -/
structure Owned (trace : List (ClientEffect ι)) (i : ι) (client : UdpClient) : Prop where
  conn : client.conn ≠ kInvalidConnection →
    openedBy trace client.conn = some i ∧ isOpen trace client.conn = true
  running : client.running = true → ownPointer ClientEffect.writes trace i = some i

/-- Entries about other handles leave a client its handle. -/
theorem Owned.conn_append {trace xs : List (ClientEffect ι)} {i : ι} {client : UdpClient}
    (h : Owned trace i client)
    (hentries : client.conn ≠ kInvalidConnection →
      ∀ x ∈ xs, x.opener client.conn = none ∧ x.closes client.conn = false)
    (hconn : client.conn ≠ kInvalidConnection) :
    openedBy (trace ++ xs) client.conn = some i ∧ isOpen (trace ++ xs) client.conn = true := by
  obtain ⟨hopened, hopen⟩ := h.conn hconn
  refine ⟨?_, Ledger.live_append_of_not_released (fun x hx => (hentries hconn x hx).2) hopen⟩
  unfold openedBy
  rw [Ledger.lastBy_append_of_unrelated fun x hx => (hentries hconn x hx).1]
  exact hopened

/-- Entries about other handles, by other clients, leave a client what it owns. -/
theorem Owned.append {trace xs : List (ClientEffect ι)} {i : ι} {client : UdpClient}
    (h : Owned trace i client)
    (hentries : client.conn ≠ kInvalidConnection →
      ∀ x ∈ xs, x.opener client.conn = none ∧ x.closes client.conn = false)
    (hwrites : Ledger.lastBy ClientEffect.writes xs i = none) :
    Owned (trace ++ xs) i client where
  conn := h.conn_append hentries
  running := by
    intro hrunning
    rw [ObjectClass.ownPointer_append, hwrites]
    exact h.running hrunning

/-- What a client owns depends on its handle and its running flag. -/
theorem Owned.congr {trace : List (ClientEffect ι)} {i : ι} {client client' : UdpClient}
    (h : Owned trace i client) (hconn : client'.conn = client.conn)
    (hrunning : client'.running = client.running) : Owned trace i client' := by
  refine ⟨?_, ?_⟩
  · rw [hconn]
    exact h.conn
  · rw [hrunning]
    exact h.running

/-- A client without a handle that does not run owns nothing. -/
theorem owned_of_idle {trace : List (ClientEffect ι)} {i : ι} {client : UdpClient}
    (hconn : client.conn = kInvalidConnection) (hrunning : client.running = false) :
    Owned trace i client where
  conn := fun h => absurd hconn h
  running := by
    intro h
    rw [hrunning] at h
    cases h

/-- Every client owns its handle. -/
def HandlesOwned (p : ClientProcess ι) : Prop :=
  ∀ i client, p.objects i = some client → Owned p.trace i client

variable {p p' : ClientProcess ι}

/-- Two clients have different handles. -/
theorem HandlesOwned.conn_ne (h : HandlesOwned p) {i j : ι} {client other : UdpClient}
    (hclient : p.objects i = some client) (hother : p.objects j = some other) (hj : j ≠ i)
    (hconn : other.conn ≠ kInvalidConnection) : client.conn ≠ other.conn := by
  intro heq
  have howner := ((h i client hclient).conn (heq ▸ hconn)).1
  rw [heq, ((h j other hother).conn hconn).1] at howner
  exact hj (Option.some.inj howner)

/-- A member function of client `i` leaves every client its handle when it leaves `i` its
handle and its entries concern no handle of another client. -/
theorem HandlesOwned.put (h : HandlesOwned p) {i : ι} {c : ClientContext ι}
    {xs : List (ClientEffect ι)} (htrace : c.trace = p.trace ++ xs)
    (hself : Owned (p.trace ++ xs) i c.self)
    (hwrites : ∀ j, j ≠ i → Ledger.lastBy ClientEffect.writes xs j = none)
    (hothers : ∀ j other, j ≠ i → p.objects j = some other → other.conn ≠ kInvalidConnection →
      ∀ x ∈ xs, x.opener other.conn = none ∧ x.closes other.conn = false) :
    HandlesOwned (p.put i c) := by
  unfold HandlesOwned
  rw [Process.put_trace, htrace]
  refine Process.forall_objects_put hself ?_
  intro j other hj hother
  exact (h j other hother).append (hothers j other hj hother) (hwrites j hj)

/-- A member function that adds no entry leaves the other clients alone. -/
theorem HandlesOwned.put_silent (h : HandlesOwned p) {i : ι} {c : ClientContext ι}
    (htrace : c.trace = p.trace) (hself : Owned p.trace i c.self) :
    HandlesOwned (p.put i c) := by
  unfold HandlesOwned
  rw [Process.put_trace, htrace]
  exact Process.forall_objects_put hself fun j other _ hother => h j other hother

/-- `stop` closes the handle of its client and no other. -/
theorem HandlesOwned.stop (h : HandlesOwned p) {i : ι} {client : UdpClient}
    (hclient : p.objects i = some client) :
    HandlesOwned (p.put i (UdpClient.stop i (p.context client))) := by
  rw [UdpClient.stop_eq]
  have hcalls : ∀ x ∈ UdpClient.stopCalls (ι := ι) client, ∀ conn, x.opener conn = none := by
    intro x hx conn
    unfold UdpClient.stopCalls at hx
    split at hx
    · rw [List.mem_singleton.mp hx]
      rfl
    · cases hx
  refine h.put rfl ?_ ?_ ?_
  · cases hrunning : client.running with
    | true =>
        refine owned_of_idle ?_ (UdpClient.running_afterStop client)
        simp [UdpClient.afterStop, hrunning]
    | false =>
        -- an idle client keeps what it has, and only detaches
        have hstopped : UdpClient.afterStop client = client := by
          simp [UdpClient.afterStop, hrunning]
        have hsilent : UdpClient.stopCalls (ι := ι) client = [] := by
          simp [UdpClient.stopCalls, hrunning]
        rw [Process.context_self, hstopped, hsilent]
        refine ⟨(h i client hclient).conn_append ?_, fun hrun => ?_⟩
        · intro hconn x hx
          rw [List.mem_singleton.mp hx]
          exact ⟨rfl, rfl⟩
        · rw [hrunning] at hrun
          cases hrun
  · intro j hj
    exact lastBy_writeInstance_of_ne hj false (writes_stopCalls client)
  · intro j other hj hother hconn x hx
    rcases List.mem_cons.mp hx with rfl | hx
    · exact ⟨rfl, rfl⟩
    · refine ⟨hcalls x hx _, ?_⟩
      unfold UdpClient.stopCalls at hx
      split at hx
      · rw [List.mem_singleton.mp hx]
        exact beq_eq_false_iff_ne.mpr (h.conn_ne hclient hother hj hconn)
      · cases hx

/-- A `connect` gives its client a handle that no other client has. -/
theorem HandlesOwned.attempt (h : HandlesOwned p) {i : ι} {client : UdpClient}
    (hclient : p.objects i = some client) {address : String} {port : UInt16}
    {result : Connection} (hfresh : isOpen p.trace result = false) :
    HandlesOwned (p.put i
      { sInstance := some i
        self := UdpClient.afterAttempt parseString address port result client
        trace := p.trace ++ .writeInstance i true
          :: UdpClient.attemptCalls parseString i address port result }) := by
  have hcalls := writes_attemptCalls parseString i address port result
  refine h.put rfl ⟨?_, ?_⟩ ?_ ?_
  · unfold UdpClient.afterAttempt UdpClient.attemptCalls
    dsimp only
    split
    · intro hresult
      rw [List.append_cons]
      refine ⟨?_, Ledger.live_concat_of_acquires rfl ?_⟩
      · unfold openedBy
        rw [Ledger.lastBy_concat]
        simp [ClientEffect.opener, hresult]
      · simp [ClientEffect.opens, ClientEffect.opener, hresult]
    · refine (h i client hclient).conn_append ?_
      intro hconn x hx
      rw [List.mem_singleton.mp hx]
      exact ⟨rfl, rfl⟩
  · intro _
    rw [ObjectClass.ownPointer_append, lastBy_writeInstance_self i true hcalls]
    rfl
  · intro j hj
    exact lastBy_writeInstance_of_ne hj true hcalls
  · intro j other hj hother hconn x hx
    rcases List.mem_cons.mp hx with rfl | hx
    · exact ⟨rfl, rfl⟩
    · unfold UdpClient.attemptCalls at hx
      split at hx
      · rw [List.mem_singleton.mp hx]
        refine ⟨if_neg ?_, rfl⟩
        rintro ⟨rfl, -⟩
        rw [((h j other hother).conn hconn).2] at hfresh
        cases hfresh
      · cases hx

/-- The other operations leave the handle and the running flag of their client alone, and
add no entry about a handle or the pointer. -/
theorem ClientOperation.run_silent {i : ι} {operation : ClientOperation}
    {c c' : ClientContext ι} (hrun : operation.run parseString i c = .ok c')
    (hconnect : ∀ address port result, operation ≠ .connect address port result)
    (hstop : operation ≠ .stop) :
    ∃ xs, c'.trace = c.trace ++ xs ∧ c'.self.conn = c.self.conn
      ∧ c'.self.running = c.self.running
      ∧ ∀ x ∈ xs, ∀ j conn, x.writes j = none ∧ x.opener conn = none ∧ x.closes conn = false := by
  rcases ClientOperation.run_cases hrun with ⟨address, port, result, rfl, -⟩ | ⟨rfl, -⟩
      | ⟨isSet, xs, rfl, hxs⟩
  · exact absurd rfl (hconnect address port result)
  · exact absurd rfl hstop
  · refine ⟨xs, rfl, rfl, rfl, fun x hx j conn => ?_⟩
    have htraffic := (hxs x hx).1
    cases x <;> first | exact ⟨rfl, rfl, rfl⟩ | cases htraffic

/-- A member call leaves every client its handle. -/
theorem HandlesOwned.call (h : HandlesOwned p) {i : ι} {client : UdpClient}
    (hclient : p.objects i = some client) {operation : ClientOperation} {c : ClientContext ι}
    (hrun : operation.run parseString i (p.context client) = .ok c)
    (hfair : FairTransport p (.call i operation)) : HandlesOwned (p.put i c) := by
  by_cases hconnect : ∃ address port result, operation = .connect address port result
  · obtain ⟨address, port, result, rfl⟩ := hconnect
    rcases ClientOperation.run_connect hrun with ⟨-, rfl⟩ | ⟨-, -, rfl⟩
    · exact h.put_silent rfl (h i client hclient)
    · exact h.attempt hclient hfair
  · by_cases hstop : operation = .stop
    · subst hstop
      obtain rfl := Except.ok.inj hrun
      exact h.stop hclient
    · obtain ⟨xs, htrace, hconn, hrunning, hxs⟩ := ClientOperation.run_silent hrun
        (fun address port result heq => hconnect ⟨address, port, result, heq⟩) hstop
      have hwrites : ∀ j, Ledger.lastBy ClientEffect.writes xs j = none :=
        fun j => Ledger.lastBy_eq_none fun x hx => (hxs x hx j 0).1
      refine h.put htrace ?_ (fun j _ => hwrites j) ?_
      · refine ((h i client hclient).congr hconn hrunning).append ?_ (hwrites i)
        exact fun _ x hx => (hxs x hx i _).2
      · exact fun j other _ _ _ x hx => (hxs x hx j other.conn).2

/-! ## Runs -/

/-- What a run may assume of each step: the transport is fair and the pointer unmoved. -/
theorem atHome_of_unmovedPointer {a : ClientAction ι} (hfair : FairTransport p a)
    (hok : UnmovedPointer p a) : ObjectClass.AtHome ClientEffect.writes eventOwner p a := by
  cases a with
  | event event =>
      obtain ⟨i, hi⟩ := Option.isSome_iff_exists.mp hfair
      exact ⟨i, hi, hok i hi⟩
  | _ => trivial

/-- An event that arrives at home takes the handle of its owner at most. -/
theorem HandlesOwned.event (h : HandlesOwned p) {event : StatusEvent} {i : ι}
    {client : UdpClient} (hclient : p.objects i = some client)
    (howner : openedBy p.trace event.conn = some i) :
    HandlesOwned (p.put i (UdpClient.onConnectionStatusChanged event (p.context client))) := by
  rw [UdpClient.onConnectionStatusChanged_eq]
  have hentries : ∀ x ∈ UdpClient.eventCalls (ι := ι) event,
      x = .closeConnection .closedOrProblem event.conn := by
    intro x hx
    unfold UdpClient.eventCalls at hx
    split at hx
    · exact List.mem_singleton.mp hx
    · cases hx
  refine h.put rfl ?_ ?_ ?_
  · cases hclosed : event.state.isClosed with
    | true =>
        unfold UdpClient.afterEvent
        cases hstate : event.state <;> rw [hstate] at hclosed <;>
          first | exact owned_of_idle rfl rfl | cases hclosed
    | false =>
        have hsilent : UdpClient.eventCalls (ι := ι) event = [] := by
          simp [UdpClient.eventCalls, hclosed]
        rw [hsilent, List.append_nil]
        refine (h i client hclient).congr ?_ ?_
        · unfold UdpClient.afterEvent
          cases hstate : event.state <;> rw [hstate] at hclosed <;> first | rfl | cases hclosed
        · unfold UdpClient.afterEvent
          cases hstate : event.state <;> rw [hstate] at hclosed <;> first | rfl | cases hclosed
  · intro j _
    refine Ledger.lastBy_eq_none fun x hx => ?_
    rw [hentries x hx]
    rfl
  · intro j other hj hother hconn x hx
    rw [hentries x hx]
    refine ⟨rfl, beq_eq_false_iff_ne.mpr ?_⟩
    intro heq
    rw [heq, ((h j other hother).conn hconn).1] at howner
    exact hj (Option.some.inj howner)

theorem handlesOwned_step {a : ClientAction ι}
    (hstep : (clientClass ι parseString).step p a = some p') (h : HandlesOwned p)
    (hfair : FairTransport p a) (hok : UnmovedPointer p a) : HandlesOwned p' := by
  rcases ObjectClass.step_cases hstep with
      ⟨-, ⟨i, rfl, -, rfl⟩ | ⟨i, client, c, rfl, hclient, hc, rfl⟩ | ⟨i, client, e, rfl, -, -, rfl⟩
      | ⟨i, operation, client, c, rfl, hclient, hc, rfl⟩ | ⟨i, operation, client, e, rfl, -, -, rfl⟩
      | ⟨event, rfl, rfl⟩⟩
  -- a new client owns nothing
  · exact h.put_silent rfl (owned_of_idle rfl rfl)
  -- the destructor stops the client before it goes
  · obtain ⟨-, -, hc⟩ := bind_eq_ok.mp hc
    obtain rfl := Except.ok.inj hc
    intro j other hother
    exact h.stop hclient j other (Process.of_remove_objects hother).2
  · exact h
  · exact h.call hclient hc hfair
  · exact h
  -- an event arrives while the pointer is what its owner left there
  · obtain ⟨k, hk, hpointer⟩ := atHome_of_unmovedPointer hfair hok
    rcases Process.throughInstance_cases p ((clientClass ι parseString).handle event) with
        heq | ⟨i, client, hi, hclient, heq⟩ | heq
    · rw [heq]
      exact h
    · rcases (clientClass_confined (ι := ι) parseString).ownPointer_cases p.trace k with
          hnone | hsome
      · rw [hi, hnone] at hpointer
        cases hpointer
      · rw [hi, hsome] at hpointer
        obtain rfl := Option.some.inj hpointer
        rw [heq]
        exact h.event hclient hk
    · rw [heq]
      exact h

/-- An event changes no client but the one that opened its handle, and a running client with
that handle receives it. -/
def EventStaysHome (p : ClientProcess ι) (a : ClientAction ι) (p' : ClientProcess ι) : Prop :=
  ∀ event, a = .event event →
    (∀ i, openedBy p.trace event.conn = some i → ∀ j, j ≠ i → p'.objects j = p.objects j)
    ∧ ∀ i client, p.objects i = some client → client.running = true →
        client.conn = event.conn →
        p'.objects i
          = some (UdpClient.onConnectionStatusChanged event (p.context client)).self

theorem eventStaysHome_step {a : ClientAction ι}
    (hstep : (clientClass ι parseString).step p a = some p') (h : HandlesOwned p)
    (hfair : FairTransport p a) (hok : UnmovedPointer p a) : EventStaysHome p a p' := by
  rintro event rfl
  have hhome := atHome_of_unmovedPointer hfair hok
  rw [ObjectClass.step_event hstep]
  constructor
  · intro i hi j hj
    exact ObjectClass.objects_event_of_ne (clientClass_confined parseString) hi hhome hj
  · intro i client hclient hrunning hconn
    -- the invalid handle was opened by nobody, so the client owns the handle of the event
    have hvalid : client.conn ≠ kInvalidConnection := by
      intro heq
      have hnone : eventOwner p.trace event = none := by
        unfold eventOwner
        rw [← hconn, heq, openedBy_invalid]
      have hsome : (eventOwner p.trace event).isSome = true := hfair
      rw [hnone] at hsome
      cases hsome
    have howner : eventOwner p.trace event = some i := by
      unfold eventOwner
      rw [← hconn]
      exact ((h i client hclient).conn hvalid).1
    have hpointer := (hok i howner).trans ((h i client hclient).running hrunning)
    rw [Process.throughInstance_of_some hpointer hclient, Process.put_objects_self]
    rfl

/-- The clients do not notice each other in the run: events stay home, and every client ends
the run as it does in the run of the steps that concern it. -/
structure ClientsIsolated (parseString : String → Option SteamNetworkingIPAddr)
    (as : List (ClientAction ι)) : Prop where
  events : (clientProcess ι parseString).EachStep EventStaysHome
    (clientProcess ι parseString).init as
  alone : ∀ i p,
    (clientProcess ι parseString).run (clientProcess ι parseString).init as = some p →
      ∃ q, (clientProcess ι parseString).run (clientProcess ι parseString).init
          ((clientProcess ι parseString).project (ObjectClass.concerns eventOwner i)
            (clientProcess ι parseString).init as) = some q
        ∧ q.objects i = p.objects i

/-- **Client instances do not interfere** in a run with a fair transport in which every
event arrives while the pointer is what the client that opened its handle left there. -/
theorem clients_isolated (parseString : String → Option SteamNetworkingIPAddr)
    (as : List (ClientAction ι))
    (hfair : (clientProcess ι parseString).EachStep (fun p a _ => FairTransport p a)
      (clientProcess ι parseString).init as)
    (hok : (clientProcess ι parseString).EachStep (fun p a _ => UnmovedPointer p a)
      (clientProcess ι parseString).init as) : ClientsIsolated parseString as := by
  have hguard := hfair.and hok
  constructor
  · refine Machine.eachStep_of_invariant (I := HandlesOwned)
      (fun p a p' hstep h hg => handlesOwned_step hstep h hg.1 hg.2)
      (fun p a p' hstep h hg => eventStaysHome_step hstep h hg.1 hg.2) ?_ hguard
    intro i client hclient
    cases hclient
  · intro i p hrun
    refine ObjectClass.exists_run_alone (clientClass_confined parseString) ?_ i hrun
    exact hguard.mono fun p a p' _ hg => atHome_of_unmovedPointer hg.1 hg.2

/-! ## Two clients -/

instance (p : ClientProcess ι) (a : ClientAction ι) : Decidable (FairTransport p a) :=
  match a with
  | .call _ (.connect _ _ result) => inferInstanceAs (Decidable (isOpen p.trace result = false))
  | .call _ .stop => .isTrue trivial
  | .call _ (.sendRaw _ _ _) => .isTrue trivial
  | .call _ (.poll _) => .isTrue trivial
  | .call _ (.setOnDataReceived _) => .isTrue trivial
  | .event event => inferInstanceAs (Decidable ((eventOwner p.trace event).isSome = true))
  | .construct _ => .isTrue trivial
  | .destroy _ => .isTrue trivial

instance [Fintype ι] (p : ClientProcess ι) (a : ClientAction ι) : Decidable (UnmovedPointer p a) :=
  match a with
  | .event event => inferInstanceAs (Decidable (∀ i, eventOwner p.trace event = some i →
      p.sInstance = ownPointer ClientEffect.writes p.trace i))
  | .construct _ => .isTrue trivial
  | .destroy _ => .isTrue trivial
  | .call _ _ => .isTrue trivial

/-- A parser that takes every address to the loopback address, port 7000. -/
def loopbackParser (_ : String) : Option SteamNetworkingIPAddr :=
  some { ip := #v[0, 0, 0, 0, 0, 0, 0, 0, 0, 0, 0xFF, 0xFF, 127, 0, 0, 1], port := 7000 }

/-- Two clients one after the other: the first is stopped before the second connects. -/
theorem clients_isolated_in_turn :
    ClientsIsolated loopbackParser
      [.construct true, .call true (.connect "127.0.0.1" 7000 1),
        .event { conn := 1, listenSocket := 0, state := .connected, oldState := .connecting },
        .call true .stop,
        .construct false, .call false (.connect "127.0.0.1" 7000 2),
        .event { conn := 2, listenSocket := 0, state := .connected, oldState := .connecting }] :=
  clients_isolated loopbackParser _ (by decide) (by decide)

/-- Two clients at once: the peer of the first goes away, and the second stops running. -/
theorem not_clients_isolated_at_once :
    ¬ ∀ (parseString : String → Option SteamNetworkingIPAddr) (as : List (ClientAction Bool)),
      (clientProcess Bool parseString).EachStep (fun p a _ => FairTransport p a)
          (clientProcess Bool parseString).init as → ClientsIsolated parseString as := by
  intro h
  have hevents := (h loopbackParser [.construct true, .construct false,
    .call true (.connect "127.0.0.1" 7000 1), .call false (.connect "127.0.0.1" 7000 2),
    .event { conn := 1, listenSocket := 0, state := .closedByPeer, oldState := .connected }]
    (by decide)).events
  obtain ⟨-, hevents⟩ := hevents _ rfl
  obtain ⟨-, hevents⟩ := hevents _ rfl
  obtain ⟨-, hevents⟩ := hevents _ rfl
  obtain ⟨-, hevents⟩ := hevents _ rfl
  obtain ⟨hhome, -⟩ := hevents _ rfl
  have hunchanged := (hhome _ rfl).1 true rfl false Bool.false_ne_true
  have hrunning := congrArg (Option.map UdpClient.running) hunchanged
  cases hrunning

end KbNetworking
