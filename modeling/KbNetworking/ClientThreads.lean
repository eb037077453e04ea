/-
# The network thread of a client

Assigning over a joinable `std::thread`, or destroying one, calls `std::terminate`.  Only
`stop` joins the thread of a client, and only while the client runs; but a `connect` that
fails and the end of the connection leave a client that does not run and has a thread.

`lifecycleSafe_iff` proves that these are the only two ways to such a client: the threads
are safe in every state of a run exactly when every `connect` of an idle client succeeds
and no running client is told that its connection has ended.
-/
import KbNetworking.ClientProcess

namespace KbNetworking

open Cpp

variable {ι : Type} {parseString : String → Option SteamNetworkingIPAddr}

/-! ## What is safe -/

/-- No thread was assigned over or destroyed while it was joinable, and none would be by a
`connect` or the destructor of a client that does not run. -/
structure LifecycleSafe (parseString : String → Option SteamNetworkingIPAddr)
    (p : ClientProcess ι) : Prop where
  notTerminated : p.fault ≠ some .terminate
  connectSafe : ∀ i self, p.objects i = some self → self.running = false →
    ∀ address port result,
      ∃ r, UdpClient.connect parseString i address port result (p.context self) = .ok r
  destroySafe : ∀ i self, p.objects i = some self → self.running = false →
    ∃ c, UdpClient.destroy i (p.context self) = .ok c

/-- The step leaves no idle client with a thread: a `connect` of an idle client gets a valid
address and a handle, and no running client is handed the end of a connection. -/
def KeepsThread (parseString : String → Option SteamNetworkingIPAddr) (p : ClientProcess ι) :
    ClientAction ι → Prop
  | .call i (.connect address port result) => ∀ self, p.objects i = some self →
      self.running = false →
        isValidIpAddress parseString (UdpClient.addressWithPort address port) = true
          ∧ result ≠ kInvalidConnection
  | .event event => event.state.isClosed = true →
      ∀ i self, p.sInstance = some i → p.objects i = some self → self.running = false
  | _ => True

/-- Exactly the running clients have a thread. -/
structure ThreadsMatch (p : ClientProcess ι) : Prop where
  notTerminated : p.fault ≠ some .terminate
  joinable_eq : ∀ i self, p.objects i = some self → self.networkThread.joinable = self.running

/-- An idle client with a thread is not safe: its next `connect` terminates. -/
theorem not_lifecycleSafe_of_joinable {p : ClientProcess ι} {i : ι} {self : UdpClient}
    (hself : p.objects i = some self) (hidle : self.running = false)
    (hjoinable : self.networkThread.joinable = true) : ¬ LifecycleSafe parseString p := by
  intro h
  obtain ⟨r, hr⟩ := h.connectSafe i self hself hidle "" 0 0
  rw [UdpClient.connect_eq] at hr
  simp only [Process.context_self, hidle, hjoinable, Bool.false_eq_true, if_false, if_true] at hr
  cases hr

/-! ## What the member functions do to the thread -/

namespace UdpClient

theorem messageAt_error {slots : List (List UInt8)} {i : ℕ} {e : Fault}
    (h : messageAt slots i = .error e) : e ≠ .terminate := by
  unfold messageAt at h
  split at h
  · cases h
  · rw [← Except.error.inj h]
    split <;> exact nofun

theorem deliverLoop_error {ω : Type} {conn : Connection}
    {callback : IncomingViewMessage → Checked (List ω)} (hcallback : ∀ m, ∃ r, callback m = .ok r)
    {slots : List (List UInt8)} {i todo : ℕ} {out : List ω} {e : Fault}
    (h : deliverLoop conn callback slots i todo out = .error e) : e ≠ .terminate := by
  induction todo generalizing i out with
  | zero => cases h
  | succ todo ih =>
      rcases bind_eq_error.mp h with h | ⟨data, -, h⟩
      · exact messageAt_error h
      · obtain ⟨r, hr⟩ := hcallback { conn := conn, buffer := data }
        rw [hr, ok_bind] at h
        exact ih h

theorem releaseLoop_error {slots : List (List UInt8)} {i todo : ℕ} {out : List ℕ} {e : Fault}
    (h : releaseLoop slots i todo out = .error e) : e ≠ .terminate := by
  induction todo generalizing i out with
  | zero => cases h
  | succ todo ih =>
      rcases bind_eq_error.mp h with h | ⟨data, -, h⟩
      · exact messageAt_error h
      · exact ih h

/-- A poll does not call `std::terminate`. -/
theorem poll_error {received : Received} {c : ClientContext ι} {e : Fault}
    (h : poll received c = .error e) : e ≠ .terminate := by
  unfold poll at h
  split at h
  · rcases bind_eq_error.mp h with h | ⟨entries, -, h⟩
    · rcases bind_eq_error.mp h with h | ⟨output, -, h⟩
      · unfold pollMessages at h
        split at h
        · cases h
        · rcases bind_eq_error.mp h with h | ⟨outputs, -, h⟩
          · unfold deliverMessages at h
            split at h
            · cases h
            · rename_i call hcall
              refine deliverLoop_error ?_ h
              intro m
              unfold userCallback at hcall
              split at hcall
              · rw [← Option.some.inj hcall]
                exact ⟨_, rfl⟩
              · cases hcall
          · rcases bind_eq_error.mp h with h | ⟨released, -, h⟩
            · exact releaseLoop_error h
            · cases h
      · cases h
    · cases h
  · cases h

/-- A poll changes nothing of the client. -/
theorem poll_self {received : Received} {c c' : ClientContext ι}
    (h : poll received c = .ok c') : c'.self = c.self := by
  unfold poll at h
  split at h
  · obtain ⟨entries, -, h⟩ := bind_eq_ok.mp h
    rw [← Except.ok.inj h]
  · rw [Except.ok.inj h]

end UdpClient

/-- A `connect` that is allowed keeps the thread of the client matched to its running flag. -/
theorem afterAttempt_matches {address : String} {port : UInt16} {result : Connection}
    (hvalid : isValidIpAddress parseString (UdpClient.addressWithPort address port) = true)
    (hresult : result ≠ kInvalidConnection) (self : UdpClient) :
    (UdpClient.afterAttempt parseString address port result self).networkThread.joinable
      = (UdpClient.afterAttempt parseString address port result self).running := by
  simp [UdpClient.afterAttempt, UdpClient.attemptSucceeds, hvalid, hresult]

/-- `stop` keeps the thread of the client matched to its running flag. -/
theorem stop_matches {me : ι} {c : ClientContext ι}
    (h : c.self.networkThread.joinable = c.self.running) :
    (UdpClient.stop me c).self.networkThread.joinable = (UdpClient.stop me c).self.running := by
  rw [UdpClient.stop_eq]
  unfold UdpClient.afterStop
  dsimp only
  split
  · exact Thread.joinable_joinIfJoinable _
  · exact h

theorem destroy_of_matches {me : ι} {c : ClientContext ι}
    (h : c.self.networkThread.joinable = c.self.running) :
    UdpClient.destroy me c = .ok (UdpClient.stop me c) := by
  have hidle : (UdpClient.stop me c).self.running = false := by
    rw [UdpClient.stop_eq]
    exact UdpClient.running_afterStop c.self
  unfold UdpClient.destroy
  dsimp only
  rw [Thread.destroy_of_not_joinable ((stop_matches h).trans hidle)]
  rfl

/-- A member call keeps the thread of its client matched to its running flag. -/
theorem run_matches {p : ClientProcess ι} {i : ι} {self : UdpClient}
    {operation : ClientOperation} {c : ClientContext ι} (hself : p.objects i = some self)
    (h : self.networkThread.joinable = self.running)
    (hok : KeepsThread parseString p (.call i operation))
    (hrun : operation.run parseString i (p.context self) = .ok c) :
    c.self.networkThread.joinable = c.self.running := by
  cases operation with
  | connect address port result =>
      rcases ClientOperation.run_connect hrun with ⟨-, rfl⟩ | ⟨hidle, -, rfl⟩
      · exact h
      · obtain ⟨hvalid, hresult⟩ := hok self hself hidle
        exact afterAttempt_matches hvalid hresult self
  | stop =>
      obtain rfl := Except.ok.inj hrun
      exact stop_matches h
  | sendRaw data reliable sent =>
      obtain rfl := Except.ok.inj hrun
      unfold UdpClient.sendRaw
      split <;> exact h
  | poll received =>
      rw [UdpClient.poll_self hrun]
      exact h
  | setOnDataReceived isSet =>
      obtain rfl := Except.ok.inj hrun
      exact h

theorem networkThread_onConnectionStatusChanged (event : StatusEvent) (c : ClientContext ι) :
    (UdpClient.onConnectionStatusChanged event c).self.networkThread = c.self.networkThread := by
  rw [UdpClient.onConnectionStatusChanged_eq]
  unfold UdpClient.afterEvent
  dsimp only
  split <;> rfl

/-- The end of a connection clears the running flag; other events leave it alone. -/
theorem running_onConnectionStatusChanged (event : StatusEvent) (c : ClientContext ι) :
    (UdpClient.onConnectionStatusChanged event c).self.running
      = (!event.state.isClosed && c.self.running) := by
  rw [UdpClient.onConnectionStatusChanged_eq]
  unfold UdpClient.afterEvent
  cases event.state <;> rfl

/-- A status event keeps the thread of the client matched to its running flag, unless it
tells a running client that its connection has ended. -/
theorem onConnectionStatusChanged_matches {event : StatusEvent} {c : ClientContext ι}
    (h : c.self.networkThread.joinable = c.self.running)
    (hok : event.state.isClosed = true → c.self.running = false) :
    (UdpClient.onConnectionStatusChanged event c).self.networkThread.joinable
      = (UdpClient.onConnectionStatusChanged event c).self.running := by
  rw [networkThread_onConnectionStatusChanged, running_onConnectionStatusChanged, h]
  cases hclosed : event.state.isClosed with
  | true => rw [hok hclosed, Bool.and_false]
  | false => rw [Bool.not_false, Bool.true_and]

/-! ## Runs -/

theorem lifecycleSafe_of_threadsMatch {p : ClientProcess ι} (h : ThreadsMatch p) :
    LifecycleSafe parseString p where
  notTerminated := h.notTerminated
  connectSafe := by
    intro i self hself hidle address port result
    have hjoinable : self.networkThread.joinable = false := (h.joinable_eq i self hself).trans hidle
    rw [UdpClient.connect_eq]
    simp only [Process.context_self, hidle, hjoinable, Bool.false_eq_true, if_false]
    exact ⟨_, rfl⟩
  destroySafe := by
    intro i self hself hidle
    exact ⟨_, destroy_of_matches (h.joinable_eq i self hself)⟩

variable [DecidableEq ι] {p p' : ClientProcess ι}

theorem threadsMatch_put (h : ThreadsMatch p) {i : ι} {c : ClientContext ι}
    (hc : c.self.networkThread.joinable = c.self.running) : ThreadsMatch (p.put i c) where
  notTerminated := h.notTerminated
  joinable_eq := Process.forall_objects_put hc fun j self _ => h.joinable_eq j self

theorem threadsMatch_step {a : ClientAction ι}
    (hstep : (clientClass ι parseString).step p a = some p') (h : ThreadsMatch p)
    (hok : KeepsThread parseString p a) : ThreadsMatch p' := by
  have hfail : ∀ e, e ≠ .terminate → ThreadsMatch (p.fail e) := by
    intro e he
    refine ⟨?_, h.joinable_eq⟩
    rw [Process.fail_fault, Ne, Option.some.injEq]
    exact he
  rcases ObjectClass.step_cases hstep with
      ⟨-, ⟨i, rfl, -, rfl⟩ | ⟨i, self, c, rfl, hself, hc, rfl⟩ | ⟨i, self, e, rfl, hself, he, rfl⟩
      | ⟨i, operation, self, c, rfl, hself, hc, rfl⟩ | ⟨i, operation, self, e, rfl, hself, he, rfl⟩
      | ⟨event, rfl, rfl⟩⟩
  -- a new client neither runs nor has a thread
  · exact threadsMatch_put h rfl
  -- the destructor stops the client, which joins its thread
  · obtain ⟨-, -, hc⟩ := bind_eq_ok.mp hc
    obtain rfl := Except.ok.inj hc
    have hput : ThreadsMatch (p.put i (UdpClient.stop i (p.context self))) :=
      threadsMatch_put h (stop_matches (h.joinable_eq i self hself))
    exact ⟨hput.notTerminated, fun j other hother =>
      hput.joinable_eq j other (Process.of_remove_objects hother).2⟩
  · cases (destroy_of_matches (h.joinable_eq i self hself)).symm.trans he
  · exact threadsMatch_put h (run_matches hself (h.joinable_eq i self hself) hok hc)
  -- a call that faults: `connect` would have to find an idle client with a thread
  · refine hfail e ?_
    cases operation with
    | connect address port result =>
        obtain ⟨hidle, hjoinable, -⟩ := ClientOperation.run_connect_error he
        have hmatch := h.joinable_eq i self hself
        rw [Process.context_self] at hidle hjoinable
        rw [hidle, hjoinable] at hmatch
        cases hmatch
    | poll received => exact UdpClient.poll_error he
    | stop => cases he
    | sendRaw data reliable sent => cases he
    | setOnDataReceived isSet => cases he
  -- an event of a client that does not run leaves it without a thread
  · rcases Process.throughInstance_cases p ((clientClass ι parseString).handle event) with
        heq | ⟨i, self, hinstance, hself, heq⟩ | heq
    · rw [heq]
      exact h
    · rw [heq]
      refine threadsMatch_put h ?_
      refine onConnectionStatusChanged_matches (h.joinable_eq i self hself) ?_
      intro hclosed
      exact hok hclosed i self hinstance hself
    · rw [heq]
      exact hfail _ nofun

/-- A step that is not allowed leaves an idle client with a thread. -/
theorem not_lifecycleSafe_step {a : ClientAction ι}
    (hstep : (clientClass ι parseString).step p a = some p') (h : ThreadsMatch p)
    (hno : ¬ KeepsThread parseString p a) : ¬ LifecycleSafe parseString p' := by
  cases a with
  | construct i => exact absurd trivial hno
  | destroy i => exact absurd trivial hno
  | call i operation =>
      cases operation with
      | connect address port result =>
          simp only [KeepsThread, not_forall] at hno
          obtain ⟨self, hself, hidle, hfails⟩ := hno
          have hjoinable : self.networkThread.joinable = false :=
            (h.joinable_eq i self hself).trans hidle
          have hattempt : UdpClient.attemptSucceeds parseString address port result = false := by
            unfold UdpClient.attemptSucceeds
            rw [Bool.and_eq_false_iff, bne_eq_false_iff_eq, ← Bool.not_eq_true]
            tauto
          obtain ⟨self', hself', hcall⟩ := ObjectClass.step_call hstep
          obtain rfl := Option.some.inj (hself.symm.trans hself')
          rcases hcall with ⟨c, hc, rfl⟩ | ⟨e, he, -⟩
          · rcases ClientOperation.run_connect hc with ⟨hrunning, -⟩ | ⟨-, -, rfl⟩
            · rw [Process.context_self, hidle] at hrunning
              cases hrunning
            · -- the attempt failed, and the thread was started all the same
              exact not_lifecycleSafe_of_joinable (Process.put_objects_self p i _) hattempt rfl
          · obtain ⟨-, hthread, -⟩ := ClientOperation.run_connect_error he
            rw [Process.context_self, hjoinable] at hthread
            cases hthread
      | _ => exact absurd trivial hno
  | event event =>
      simp only [KeepsThread, not_forall, Bool.not_eq_false] at hno
      obtain ⟨hclosed, i, self, hinstance, hself, hrunning⟩ := hno
      rw [ObjectClass.step_event hstep, Process.throughInstance_of_some hinstance hself]
      have hjoinable : self.networkThread.joinable = true :=
        (h.joinable_eq i self hself).trans hrunning
      refine not_lifecycleSafe_of_joinable (Process.put_objects_self p i _) ?_ ?_
      · show (UdpClient.onConnectionStatusChanged event (p.context self)).self.running = false
        rw [running_onConnectionStatusChanged, hclosed, Bool.not_true, Bool.false_and]
      · exact (networkThread_onConnectionStatusChanged event _).symm ▸ hjoinable

/-- **Client thread lifecycle**: the threads are safe in every state of a run exactly when
every `connect` of an idle client succeeds and no running client is handed the end of a
connection. -/
theorem lifecycleSafe_iff (parseString : String → Option SteamNetworkingIPAddr)
    (as : List (ClientAction ι)) :
    (clientProcess ι parseString).Always (LifecycleSafe parseString)
        (clientProcess ι parseString).init as
      ↔ (clientProcess ι parseString).EachStep (fun p a _ => KeepsThread parseString p a)
          (clientProcess ι parseString).init as := by
  refine Machine.always_iff_eachStep (I := ThreadsMatch)
    (fun p h => lifecycleSafe_of_threadsMatch h)
    (fun p a p' hstep h hok => threadsMatch_step hstep h hok)
    (fun p a p' hstep h hno => not_lifecycleSafe_step hstep h hno) ?_ as
  constructor
  · exact nofun
  · intro i self hself
    cases hself

/-- A failed `connect` followed by the destructor terminates the program. -/
theorem not_lifecycleSafe_failed_connect :
    ¬ ∀ (parseString : String → Option SteamNetworkingIPAddr) (as : List (ClientAction Unit)),
      (clientProcess Unit parseString).Always (LifecycleSafe parseString)
        (clientProcess Unit parseString).init as := by
  intro h
  obtain ⟨-, hrun⟩ := h (fun _ => none)
    [.construct (), .call () (.connect "not an address" 7000 0), .destroy ()]
  obtain ⟨-, hrun⟩ := hrun _ rfl
  obtain ⟨-, hrun⟩ := hrun _ rfl
  have hlast := hrun _ rfl
  exact hlast.notTerminated rfl

end KbNetworking
