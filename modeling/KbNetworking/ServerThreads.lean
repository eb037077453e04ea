/-
# The network thread of a server

`start_async` gives a started server a thread, and `stop` joins it; both look at
`m_is_running`, which `start_manual`, `stop` and `on_fatal_message` write.  Assigning over a
joinable thread, or destroying one, would call `std::terminate`.

`serverThreads_safe` proves, over every run of the only server, that this does not happen:
the thread is joinable only while the server runs, every thread that was started is joined
exactly once by the time the server is stopped, a start of a running server changes nothing,
and a start after a stop or a failed start is attempted.  What the statement says of the
past is kept in a history variable.
-/
import KbNetworking.ServerPolling
import KbNetworking.ServerRouting

namespace KbNetworking

open Cpp

/-! ## What is kept of the past -/

/-- How many threads were started and how many joined, and whether the last stop or the last
start that was attempted left the server at rest. -/
structure ServerHistory where
  started : ℕ := 0
  joined : ℕ := 0
  atRest : Bool := true

/-- What a start returns; `none` when the call is no start or ends the program. -/
def ServerOperation.startResult (c : ServerContext Unit) : ServerOperation → Option Bool
  | .startManual port reply => some (UdpServer.startManual () port reply c).2
  | .startAsync port reply => (UdpServer.startAsync () port reply c).toOption.map Prod.snd
  | _ => none

def ServerOperation.isStartAsync : ServerOperation → Bool
  | .startAsync _ _ => true
  | _ => false

/-- `stop` comes to `m_network_thread.join()`. -/
def UdpServer.joinsThread (self : UdpServer) : Bool :=
  self.isRunning && self.networkThread.joinable

namespace ServerHistory

/-- After `stop` or the destructor of this server. -/
def stopped (k : ServerHistory) (self : UdpServer) : ServerHistory :=
  { k with joined := k.joined + if self.joinsThread then 1 else 0, atRest := true }

/-- After another member call in this context. -/
def called (k : ServerHistory) (operation : ServerOperation) (c : ServerContext Unit) :
    ServerHistory :=
  match operation.startResult c with
  | some true =>
      { k with started := k.started + if operation.isStartAsync then 1 else 0, atRest := false }
  | some false => if c.self.isRunning then k else { k with atRest := true }
  | none => k

/-- What a step adds to the past. -/
def note (k : ServerHistory) (p : ServerProcess Unit) (a : ServerAction Unit)
    (_ : ServerProcess Unit) : ServerHistory :=
  match p.objects () with
  | none => k
  | some self =>
      match a with
      | .destroy _ => k.stopped self
      | .call _ operation =>
          if operation.isStop then k.stopped self else k.called operation (p.context self)
      | _ => k

end ServerHistory

/-- The only server of the process, with its history. -/
def serverWithHistory : Machine (ServerHistory × ServerProcess Unit) (ServerAction Unit) :=
  (serverProcess Unit).observed {} ServerHistory.note

/-! ## What is safe -/

/-- The start is attempted: it makes its calls on the transport and returns whether they
succeed. -/
structure StartAttempted (c : ServerContext Unit) (port : UInt16) (reply : StartReply) :
    Prop where
  manual : ∃ c', UdpServer.startManual () port reply c = (c', UdpServer.startSucceeds reply)
    ∧ c'.trace = c.trace ++ UdpServer.startCalls port reply
  async : ∃ c', UdpServer.startAsync () port reply c = .ok (c', UdpServer.startSucceeds reply)
    ∧ c'.trace = c.trace ++ UdpServer.startCalls port reply

/-- The thread of the server is safe, and its starts are refused exactly when they should be. -/
structure ThreadSafe (k : ServerHistory) (c : ServerContext Unit) : Prop where
  running : c.self.networkThread.joinable = true → c.self.isRunning = true
  assignSafe : ∀ port reply, ∃ r, UdpServer.startAsync () port reply c = .ok r
  destroySafe : ∃ c', UdpServer.destroy c = .ok c'
  joinedOnce : k.started = k.joined + if c.self.networkThread.joinable then 1 else 0
  joinedAll : c.self.isRunning = false → k.started = k.joined
  refused : c.self.isRunning = true → ∀ port reply,
    UdpServer.startManual () port reply c = (c, false)
      ∧ UdpServer.startAsync () port reply c = .ok (c, false)
  attempted : k.atRest = true → ∀ port reply, StartAttempted c port reply

/-- `ThreadSafe` of the only server, in a process that was not terminated. -/
def ServerThreadSafe (s : ServerHistory × ServerProcess Unit) : Prop :=
  s.2.fault ≠ some .terminate
    ∧ s.2.Sole (ThreadSafe s.1) fun _ _ => s.1.started = s.1.joined

/-! ## What the member functions keep -/

/-- A server that does not run has no thread, and every thread was joined but its own. -/
structure ThreadKept (k : ServerHistory) (c : ServerContext Unit) : Prop where
  rested : c.self.Rested
  joinedOnce : k.started = k.joined + if c.self.networkThread.joinable then 1 else 0
  idle : k.atRest = true → c.self.isRunning = false

theorem startAttempted_of_idle {c : ServerContext Unit} (hrested : c.self.Rested)
    (hidle : c.self.isRunning = false) (port : UInt16) (reply : StartReply) :
    StartAttempted c port reply where
  manual := by
    rw [UdpServer.startManual_eq, hidle, if_neg Bool.false_ne_true]
    exact ⟨_, rfl, rfl⟩
  async := by
    rw [UdpServer.startAsync_eq, hidle, if_neg Bool.false_ne_true]
    cases hsucceeds : UdpServer.startSucceeds reply with
    | true =>
        rw [if_pos rfl, Thread.assign_of_not_joinable (hrested hidle)]
        exact ⟨_, rfl, rfl⟩
    | false =>
        rw [if_neg Bool.false_ne_true]
        exact ⟨_, rfl, rfl⟩

/-- `start_async` does not assign over a thread: only a running server has one. -/
theorem startAsync_returns {c : ServerContext Unit} (hrested : c.self.Rested) (port : UInt16)
    (reply : StartReply) : ∃ r, UdpServer.startAsync () port reply c = .ok r := by
  cases hrunning : c.self.isRunning with
  | true =>
      rw [UdpServer.startAsync_eq, if_pos hrunning]
      exact ⟨_, rfl⟩
  | false =>
      obtain ⟨c', hc', -⟩ := (startAttempted_of_idle hrested hrunning port reply).async
      exact ⟨_, hc'⟩

theorem ThreadKept.threadSafe {k : ServerHistory} {c : ServerContext Unit} (h : ThreadKept k c) :
    ThreadSafe k c where
  running := by
    intro hjoinable
    by_contra hidle
    rw [h.rested (by simpa using hidle)] at hjoinable
    cases hjoinable
  assignSafe := startAsync_returns h.rested
  destroySafe := ⟨_, UdpServer.destroy_of_rested h.rested⟩
  joinedOnce := h.joinedOnce
  joinedAll := by
    intro hidle
    rw [h.joinedOnce, h.rested hidle]
    rfl
  refused := by
    intro hrunning port reply
    rw [UdpServer.startManual_eq, UdpServer.startAsync_eq, if_pos hrunning, if_pos hrunning]
    exact ⟨rfl, rfl⟩
  attempted := fun hrest => startAttempted_of_idle h.rested (h.idle hrest)

/-- `stop` joins the thread when there is one. -/
theorem threadKept_stop {k : ServerHistory} {c : ServerContext Unit} (h : ThreadKept k c) :
    ThreadKept (k.stopped c.self) (UdpServer.stop c) := by
  obtain ⟨-, hidle, hjoined⟩ := UdpServer.stop_lifecycle h.rested
  refine ⟨fun _ => hjoined, ?_, fun _ => hidle⟩
  have hcount := h.joinedOnce
  have hjoins : c.self.joinsThread = c.self.networkThread.joinable := by
    unfold UdpServer.joinsThread
    cases hrunning : c.self.isRunning with
    | true => rw [Bool.true_and]
    | false => rw [Bool.false_and, h.rested hrunning]
  rw [hjoined, ServerHistory.stopped, hjoins]
  simpa using hcount

/-- A start is refused by a running server, and else fails or succeeds; only an asynchronous
one leaves a thread. -/
theorem start_cases {c c' : ServerContext Unit} (hrested : c.self.Rested)
    {operation : ServerOperation} {reply : StartReply}
    (hreply : operation.startReply = some reply) (hrun : operation.run () c = .ok c') :
    (c.self.isRunning = true ∧ c' = c ∧ operation.startResult c = some false)
      ∨ (c.self.isRunning = false ∧ c'.self.isRunning = false
        ∧ c'.self.networkThread.joinable = false ∧ operation.startResult c = some false)
      ∨ (c.self.isRunning = false ∧ c'.self.isRunning = true
        ∧ c'.self.networkThread.joinable = operation.isStartAsync
        ∧ operation.startResult c = some true) := by
  cases operation with
  | startManual port reply' =>
      obtain rfl := Option.some.inj hreply
      obtain rfl := Except.ok.inj hrun
      rw [ServerOperation.startResult, UdpServer.startManual_eq]
      cases hrunning : c.self.isRunning with
      | true => exact .inl ⟨rfl, rfl, rfl⟩
      | false =>
          cases hsucceeds : UdpServer.startSucceeds reply' with
          | false => exact .inr (.inl ⟨rfl, hsucceeds, hrested hrunning, rfl⟩)
          | true => exact .inr (.inr ⟨rfl, hsucceeds, hrested hrunning, rfl⟩)
  | startAsync port reply' =>
      obtain rfl := Option.some.inj hreply
      obtain ⟨started, hstart⟩ := ServerOperation.run_startAsync hrun
      rw [ServerOperation.startResult, hstart]
      rw [UdpServer.startAsync_eq] at hstart
      cases hrunning : c.self.isRunning with
      | true =>
          rw [if_pos hrunning] at hstart
          obtain ⟨rfl, rfl⟩ := Prod.mk.inj (Except.ok.inj hstart)
          exact .inl ⟨rfl, rfl, rfl⟩
      | false =>
          rw [hrunning, if_neg Bool.false_ne_true] at hstart
          cases hsucceeds : UdpServer.startSucceeds reply' with
          | false =>
              rw [hsucceeds, if_neg Bool.false_ne_true] at hstart
              obtain ⟨rfl, rfl⟩ := Prod.mk.inj (Except.ok.inj hstart)
              exact .inr (.inl ⟨rfl, hsucceeds, hrested hrunning, rfl⟩)
          | true =>
              rw [hsucceeds, if_pos rfl, Thread.assign_of_not_joinable (hrested hrunning)] at hstart
              obtain ⟨rfl, rfl⟩ := Prod.mk.inj (Except.ok.inj hstart)
              exact .inr (.inr ⟨rfl, hsucceeds, rfl, rfl⟩)
  | _ => cases hreply

/-- A start keeps the thread, and counts the one that it starts. -/
theorem threadKept_start {k : ServerHistory} {c c' : ServerContext Unit} (h : ThreadKept k c)
    {operation : ServerOperation} {reply : StartReply}
    (hreply : operation.startReply = some reply) (hrun : operation.run () c = .ok c') :
    ThreadKept (k.called operation c) c' := by
  have hcount := h.joinedOnce
  rw [ServerHistory.called]
  rcases start_cases h.rested hreply hrun with
      ⟨hrunning, rfl, hresult⟩ | ⟨hidle, hidle', hthread, hresult⟩
      | ⟨hidle, hrunning, hthread, hresult⟩
  · rw [hresult, if_pos hrunning]
    exact h
  · rw [h.rested hidle] at hcount
    rw [hresult, hidle, if_neg Bool.false_ne_true]
    refine ⟨fun _ => hthread, ?_, fun _ => hidle'⟩
    rw [hthread]
    exact hcount
  · rw [h.rested hidle] at hcount
    rw [hresult]
    refine ⟨fun hidle' => ?_, ?_, fun hrest => ?_⟩
    · cases hrunning.symm.trans hidle'
    · rw [hthread]
      simpa using hcount
    · cases hrest

/-- A call that is no start and no stop keeps what the lifecycle needs. -/
theorem threadKept_same {k : ServerHistory} {c c' : ServerContext Unit} (h : ThreadKept k c)
    (hsame : UdpServer.SameLifecycle c c') : ThreadKept k c' where
  rested := hsame.rested h.rested
  joinedOnce := by
    rw [hsame.networkThread]
    exact h.joinedOnce
  idle := by
    rw [hsame.isRunning]
    exact h.idle

theorem threadKept_call {k : ServerHistory} {c c' : ServerContext Unit} (h : ThreadKept k c)
    {operation : ServerOperation} (hstop : operation.isStop = false)
    (hrun : operation.run () c = .ok c') : ThreadKept (k.called operation c) c' := by
  cases hreply : operation.startReply with
  | some reply => exact threadKept_start h hreply hrun
  | none =>
      have hother : operation.starts c.self = false ∧ operation.startResult c = none := by
        cases operation <;> first | exact ⟨rfl, rfl⟩ | cases hreply
      rw [ServerHistory.called, hother.2]
      exact threadKept_same h (ServerOperation.run_of_neither hrun hother.1 hstop)

/-- No member call of a server at rest without a thread, or of one that runs, terminates. -/
theorem run_error {c : ServerContext Unit} (hrested : c.self.Rested)
    {operation : ServerOperation} {e : Fault} (h : operation.run () c = .error e) :
    e ≠ .terminate := by
  cases operation with
  | startAsync port reply =>
      obtain ⟨r, hr⟩ := startAsync_returns hrested port reply
      rw [ServerOperation.run, hr] at h
      cases h
  | poll batch =>
      rcases bind_eq_error.mp h with h | ⟨output, -, h⟩
      · by_cases hgroup : c.self.pollGroup = kInvalidPollGroup
        · rw [UdpServer.poll_of_invalid _ hgroup batch] at h
          rw [← Except.error.inj h]
          intro hfault
          cases hfault
        · obtain ⟨outputs, hpoll⟩ := UdpServer.poll_of_valid
            (UdpServer.userDataCallback_returns c.self) hgroup batch
          cases hpoll.symm.trans h
      · cases h
  | _ => cases h

/-- A call that faults is a poll, which the history keeps nothing of. -/
theorem note_of_error {k : ServerHistory} {p p' : ServerProcess Unit} {self : UdpServer}
    (hself : p.objects () = some self) (hrested : self.Rested) {operation : ServerOperation}
    {e : Fault} (he : operation.run () (p.context self) = .error e) :
    k.note p (.call () operation) p' = k := by
  rw [ServerHistory.note, hself]
  dsimp only
  cases operation with
  | poll batch => rfl
  | startAsync port reply =>
      have hreturns : ∃ r, UdpServer.startAsync () port reply (p.context self) = .ok r :=
        startAsync_returns hrested port reply
      obtain ⟨r, hr⟩ := hreturns
      rw [ServerOperation.run, hr] at he
      cases he
  | _ => cases he

theorem note_event (k : ServerHistory) (p p' : ServerProcess Unit)
    (event : StatusEvent × AcceptReply) : k.note p (.event event) p' = k := by
  unfold ServerHistory.note
  cases p.objects () with
  | none => rfl
  | some self => rfl

/-! ## Runs of the only server -/

/-- `ThreadKept` of the only server, in a process that was not terminated. -/
def ServerThreadKept (s : ServerHistory × ServerProcess Unit) : Prop :=
  s.2.fault ≠ some .terminate
    ∧ s.2.Sole (ThreadKept s.1) fun _ _ => s.1.started = s.1.joined

theorem serverThreadKept_step {s s' : ServerHistory × ServerProcess Unit} {a : ServerAction Unit}
    (hstep : serverWithHistory.step s a = some s') (h : ServerThreadKept s) :
    ServerThreadKept s' := by
  obtain ⟨k, p⟩ := s
  obtain ⟨p', hserver, rfl⟩ := Machine.observed_step hstep
  obtain ⟨hfault, hkept⟩ := h
  dsimp only at hfault hkept
  have hfail : ∀ e, e ≠ .terminate → (p.fail e).fault ≠ some .terminate := by
    intro e he
    rw [Process.fail_fault, Ne, Option.some.injEq]
    exact he
  rcases ObjectClass.step_cases hserver with
      ⟨-, ⟨⟨⟩, rfl, hnew, rfl⟩ | ⟨⟨⟩, self, c, rfl, hself, hc, rfl⟩
      | ⟨⟨⟩, self, e, rfl, hself, he, rfl⟩ | ⟨⟨⟩, operation, self, c, rfl, hself, hc, rfl⟩
      | ⟨⟨⟩, operation, self, e, rfl, hself, he, rfl⟩ | ⟨e, rfl, rfl⟩⟩
  · refine ⟨hfault, Process.sole_put ?_⟩
    rw [ServerHistory.note, hnew]
    exact ⟨fun _ => rfl, hkept.of_none hnew, fun _ => rfl⟩
  -- the destructor joins the thread of a running server
  · have hself' : ThreadKept k (p.context self) := hkept.of_some hself
    obtain rfl := UdpServer.destroy_eq_ok hc
    have hstopped := threadKept_stop hself'
    refine ⟨hfault, Process.sole_remove_put ?_⟩
    rw [ServerHistory.note, hself]
    have hcount := hstopped.joinedOnce
    rw [(UdpServer.stop_lifecycle hself'.rested).2.2] at hcount
    exact hcount
  · have hself' : ThreadKept k (p.context self) := hkept.of_some hself
    cases (UdpServer.destroy_of_rested hself'.rested).symm.trans he
  · have hself' : ThreadKept k (p.context self) := hkept.of_some hself
    refine ⟨hfault, Process.sole_put ?_⟩
    rw [ServerHistory.note, hself]
    dsimp only
    cases hstop : operation.isStop with
    | true =>
        obtain rfl := Except.ok.inj ((ServerOperation.run_of_isStop hstop).symm.trans hc)
        exact threadKept_stop hself'
    | false => exact threadKept_call hself' hstop hc
  -- a call that faults is a poll, and no start
  · have hself' : ThreadKept k (p.context self) := hkept.of_some hself
    have he' := run_error hself'.rested he
    refine ⟨hfail e he', (Process.sole_fail e).mpr ?_⟩
    rw [note_of_error hself hself'.rested he]
    exact hkept
  · rw [note_event]
    rcases Process.throughInstance_cases p ((serverClass Unit).handle e) with
        heq | ⟨⟨⟩, self, -, hself, heq⟩ | heq
    · rw [heq]
      exact ⟨hfault, hkept⟩
    · rw [heq]
      refine ⟨hfault, Process.sole_put (threadKept_same (hkept.of_some hself) ?_)⟩
      exact UdpServer.sameLifecycle_onConnectionStatusChanged e.1 e.2 _
    · rw [heq]
      refine ⟨hfail .useAfterFree ?_, hkept⟩
      intro hfault
      cases hfault

/-- **Server thread lifecycle**: in every state of every run of the only server its thread is
safe: joinable only while the server runs, never assigned over or destroyed while joinable,
joined once for every start that made one; a start of a running server changes nothing, and
after a stop or a failed start the next one is attempted. -/
theorem serverThreads_safe (as : List (ServerAction Unit)) :
    serverWithHistory.Always ServerThreadSafe serverWithHistory.init as := by
  have hinit : ServerThreadKept serverWithHistory.init := ⟨nofun, rfl⟩
  have hkept : serverWithHistory.Always ServerThreadKept serverWithHistory.init as :=
    Machine.always_of_step (fun _ _ _ hstep h => serverThreadKept_step hstep h) hinit as
  refine hkept.mono fun s h => ⟨h.1, ?_⟩
  exact h.2.mono (fun _ => ThreadKept.threadSafe) fun _ _ => id

end KbNetworking
