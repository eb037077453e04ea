/-
# Atomic calls as runs of the threads

In the atomic model of a server (`ServerProcess.lean`) a member call is one step, and so is a
status event.  In `ServerCalls.lean` the same call is code that other threads can come
between.

`serverCalls_atomic`: every run of the atomic server is a run of the threads, in which no
thread comes between another one's instructions except where `stop` waits for the network
loop to end: the server, the pointer, the trace and the fault are the same, and no call is in
progress at the end.
-/
import KbNetworking.ServerCalls
import KbNetworking.ServerPolling
import KbNetworking.ServerRouting

namespace KbNetworking

open Cpp

variable {κ : Type} [DecidableEq κ]

/-! ## The members, alone -/

section

variable {t : ThreadId κ} {i : ServerInstruction} {rest : List ServerInstruction}
  {d d' : ServerShared κ}

/-- An instruction that unfolds into nothing. -/
theorem alone_cons {e : ServerShared κ} (answer : Answer)
    (hexec : i.exec t answer d = .ok { data := e })
    (hjoin : (i.demand : Demand Unit (ThreadId κ)) ≠ .join .network)
    (hrest : (serverLanguage κ).Alone t rest e d') :
    (serverLanguage κ).Alone t (i :: rest) d d' := by
  refine .cons answer hexec rfl (fun u hu => ?_) hrest
  cases i with
  | joinThread => exact hjoin rfl
  | _ => cases hu

/-- The end of `stop`: under the mutex everything is closed. -/
theorem alone_closeAll (t : ThreadId κ) (d : ServerShared κ) :
    ∃ d', d'.context = UdpServer.destroyPollGroup (UdpServer.closeListenSocket
        (UdpServer.closeClients d.context))
      ∧ (serverLanguage κ).Alone t [.lockClients, .closeAll, .unlockClients] d d' :=
  ⟨_, rfl, alone_cons {} rfl (fun hj => by cases hj) (alone_cons {} rfl (fun hj => by cases hj)
    (alone_cons {} rfl (fun hj => by cases hj) (.nil _)))⟩

/-- A lookup and what it is for: the entry that was found is handed out, if the callback is
set. -/
theorem alone_handOut (t : ThreadId κ) (conn : Connection) (callback : Callback)
    (rest : List ServerInstruction) (d : ServerShared κ) :
    ∃ e : ServerShared κ,
      e.context = (match d.context.self.getClientInfo conn with
        | none => d.context
        | some info =>
            if callback.isSet d.context.self then d.context.record (callback.effect info)
            else d.context)
      ∧ ∀ d', (serverLanguage κ).Alone t rest e d' →
        (serverLanguage κ).Alone t (getClientInfoBody conn ++ .invoke callback :: rest) d d' := by
  have hlookup : ∀ d', (serverLanguage κ).Alone t (.invoke callback :: rest)
      { d with client := Function.update d.client t (d.locate conn) } d' →
      (serverLanguage κ).Alone t (getClientInfoBody conn ++ .invoke callback :: rest) d d' := by
    intro d' h
    exact alone_cons {} rfl (fun hj => by cases hj) (alone_cons {} rfl (fun hj => by cases hj)
      (alone_cons {} rfl (fun hj => by cases hj) h))
  cases hfind : d.context.self.getClientInfo conn with
  | none =>
      refine ⟨{ d with client := Function.update d.client t (d.locate conn) }, rfl,
        fun d' h => hlookup d' (alone_cons {} ?_ (fun hj => by cases hj) h)⟩
      simp [ServerInstruction.exec, execInvoke, ServerShared.locate, hfind]
  | some info =>
      cases hset : callback.isSet d.context.self with
      | false =>
          refine ⟨{ d with client := Function.update d.client t (d.locate conn) }, rfl,
            fun d' h => hlookup d' (alone_cons {} ?_ (fun hj => by cases hj) h)⟩
          simp [ServerInstruction.exec, execInvoke, ServerShared.locate, hfind, hset]
      | true =>
          refine ⟨{ d with
              context := d.context.record (callback.effect info)
              client := Function.update d.client t (d.locate conn) }, rfl,
            fun d' h => hlookup d' (alone_cons {} ?_ (fun hj => by cases hj) h)⟩
          simp [ServerInstruction.exec, execInvoke, ServerShared.locate, ServerShared.deref, hfind,
            hset, Except.map, ServerShared.withContext]

/-- What the user is called with for a message. -/
def messageCalls (self : UdpServer) (message : Message) : List ServerEffect :=
  if self.dataReceivedCallback then
    match self.getClientInfo message.conn with
    | none => []
    | some client => [.dataReceived client message.data]
  else []

theorem alone_message (t : ThreadId κ) (message : Message) (d : ServerShared κ) :
    ∃ d', d'.context = { d.context with
        trace := d.context.trace ++ messageCalls d.context.self message }
      ∧ (serverLanguage κ).Alone t (messageBody d.context.self message) d d' := by
  unfold messageBody messageCalls
  cases hset : d.context.self.dataReceivedCallback with
  | false => exact ⟨d, by simp, .nil d⟩
  | true =>
      obtain ⟨e, he, halone⟩ := alone_handOut t message.conn (.dataReceived message.data) [] d
      refine ⟨e, ?_, halone e (.nil e)⟩
      rw [he]
      cases d.context.self.getClientInfo message.conn with
      | none => simp
      | some info => rfl

theorem alone_messages (t : ThreadId κ) (messages : List Message) (d : ServerShared κ) :
    ∃ d', d'.context = { d.context with
        trace := d.context.trace ++ messages.flatMap (messageCalls d.context.self) }
      ∧ (serverLanguage κ).Alone t (messages.flatMap (messageBody d.context.self)) d d' := by
  induction messages generalizing d with
  | nil => exact ⟨d, by simp, .nil d⟩
  | cons message messages ih =>
      obtain ⟨e, he, hmessage⟩ := alone_message t message d
      obtain ⟨d', hd', hmessages⟩ := ih e
      rw [he] at hd' hmessages
      refine ⟨d', ?_, hmessage.append hmessages⟩
      rw [hd', List.flatMap_cons, List.append_assoc]

/-- A poll of a server with a poll group, and the events that it hands over. -/
theorem alone_poll (t : ThreadId κ) (batch : UdpServer.Batch) {d : ServerShared κ}
    (hgroup : d.context.self.pollGroup ≠ kInvalidPollGroup) :
    ∃ e, (UdpServer.pollBatch batch d.context = .ok e.context)
      ∧ ∀ d', (serverLanguage κ).Alone t [.runCallbacks] e d' →
        (serverLanguage κ).Alone t ServerCall.poll.body d d' := by
  have hdispatch : ∀ message, UdpServer.dispatchMessage d.context.self.clients
      d.context.self.userDataCallback message = .ok (messageCalls d.context.self message) := by
    intro message
    unfold UdpServer.dispatchMessage UdpServer.userDataCallback messageCalls UdpServer.getClientInfo
    cases d.context.self.dataReceivedCallback with
    | false => rfl
    | true => cases d.context.self.clients.find message.conn <;> rfl
  obtain ⟨e, he, hmessages⟩ := alone_messages t batch.messages d
  refine ⟨e, ?_, fun d' hrest => ?_⟩
  · rw [UdpServer.pollBatch, UdpServer.receiveMessagesOnPollGroup, if_neg hgroup,
      UdpServer.poll_batch d.context.self hdispatch, he]
    rfl
  · refine .cons (o := { data := d, code := batch.messages.flatMap (messageBody d.context.self) })
      { batch := batch } ?_ rfl (fun u hu => by cases hu) (hmessages.append hrest)
    exact if_neg hgroup

/-- A callback is called with an entry that is there. -/
theorem alone_invoke (callback : Callback) (info : ClientInfo) {r : EntryRef}
    {d : ServerShared κ} (hclient : d.client t = some r) (hderef : d.deref r = .ok info) :
    (serverLanguage κ).Alone t [.invoke callback] d
      (if callback.isSet d.context.self then
        d.withContext (d.context.record (callback.effect info)) else d) := by
  refine alone_cons {} ?_ (fun hj => by cases hj) (.nil _)
  rw [ServerInstruction.exec, execInvoke, hclient]
  dsimp only
  split
  · rw [hderef]
    rfl
  · rfl

/-- The end of a connection: it is announced, and closed. -/
theorem alone_closedBody (t : ThreadId κ) (event : StatusEvent) (d : ServerShared κ) :
    ∃ d', d'.context = (UdpServer.announceDisconnected event d.context).record
        (.closeConnection .closedOrProblem event.conn)
      ∧ (serverLanguage κ).Alone t (closedBody event) d d' := by
  unfold closedBody UdpServer.announceDisconnected
  by_cases hold : event.oldState = .connected
  · obtain ⟨e, he, halone⟩ :=
      alone_handOut t event.conn .clientDisconnected [.closeLost event.conn] d
    rw [if_pos hold, if_pos hold, List.append_assoc]
    refine ⟨e.withContext (e.context.record (.closeConnection .closedOrProblem event.conn)), ?_,
      halone _ (alone_cons {} rfl (fun hj => by cases hj) (.nil _))⟩
    rw [ServerShared.withContext, he]
    rfl
  · rw [if_neg hold, if_neg hold]
    exact ⟨_, rfl, alone_cons {} rfl (fun hj => by cases hj) (.nil _)⟩

/-- A status event, handed to the server. -/
theorem alone_statusChanged (t : ThreadId κ) (event : StatusEvent) (reply : AcceptReply)
    {d : ServerShared κ} (hinstance : d.context.sInstance = some ()) :
    ∃ d', d'.context = UdpServer.onConnectionStatusChanged event reply d.context
      ∧ (serverLanguage κ).Alone t [.statusChanged event reply] d d' := by
  have hexec : ∀ (o : Outcome (ThreadId κ) ServerInstruction (ServerShared κ)),
      execStatusChanged t event reply d = o → o.started = none → ∀ d',
        (serverLanguage κ).Alone t o.code o.data d' →
          (serverLanguage κ).Alone t [.statusChanged event reply] d d' := by
    rintro o rfl hstarted d' hrest
    refine .cons {} rfl hstarted (fun u hu => by cases hu) ?_
    rwa [List.append_nil]
  have hpoints : d.context.sInstance.isNone = false := by rw [hinstance]; rfl
  unfold UdpServer.onConnectionStatusChanged
  unfold execStatusChanged at hexec
  rw [if_neg (Bool.eq_false_iff.mp hpoints)] at hexec
  cases hstate : event.state with
  | none | connected | findingRoute =>
      rw [hstate] at hexec
      exact ⟨d, rfl, hexec _ rfl rfl d (.nil d)⟩
  | closedByPeer | problemDetectedLocally =>
      rw [hstate] at hexec
      obtain ⟨d', hd', halone⟩ := alone_closedBody t event d
      exact ⟨d', hd', hexec _ rfl rfl d' halone⟩
  | connecting =>
      rw [hstate] at hexec
      unfold UdpServer.acceptClient at hexec
      cases haccepted : reply.accepted with
      | false =>
          rw [haccepted] at hexec
          exact ⟨_, rfl, hexec _ rfl rfl _ (.nil _)⟩
      | true =>
          rw [haccepted] at hexec
          cases hassigned : reply.assigned with
          | false =>
              rw [hassigned] at hexec
              exact ⟨_, rfl, hexec _ rfl rfl _ (.nil _)⟩
          | true =>
              rw [hassigned] at hexec
              refine ⟨_, ?_, hexec _ rfl rfl _ (alone_invoke .clientConnected
                ⟨event.conn, copySteamToIpAddress reply.addrRemote⟩
                (Function.update_self t _ _) ?_)⟩
              · cases hset : d.context.self.clientConnectedCallback with
                | false => simp [Callback.isSet, ServerShared.withContext, hset]
                | true =>
                    simp [Callback.isSet, Callback.effect, ServerShared.withContext, hset]
              · simp [ServerShared.deref, ServerShared.withContext, UdpServer.getClientInfo,
                  ClientTable.find_set]

end

/-! ## Schedules -/

/-- No call is in progress, and the network thread, if there is one, is about to begin a
round. -/
structure AtRest (s : ServerThreads κ) : Prop where
  goes : s.fault = none
  free : ∀ m, s.owner m = none
  application : ∀ k, s.code (.application k) = []
  network : s.code .network
    = if s.data.context.self.networkThread.joinable then [.whileRunning] else []

section

variable {self : UdpServer} {s s₁ : ServerThreads κ} {t : ThreadId κ} {main : κ}

theorem exists_run_cons {P : ServerThreads κ → Prop} {a : CallAction κ}
    (hstep : (serverCalls κ self).step s a = some s₁)
    (h : ∃ as s', (serverCalls κ self).run s₁ as = some s' ∧ P s') :
    ∃ as s', (serverCalls κ self).run s as = some s' ∧ P s' := by
  obtain ⟨as, s', hrun, hs'⟩ := h
  refine ⟨a :: as, s', ?_, hs'⟩
  rw [Machine.run_cons, hstep]
  exact hrun

theorem run_of_runAlone {answers : List Answer} {s' : ServerThreads κ}
    (h : s.runAlone (serverLanguage κ) t answers = some s') :
    (serverCalls κ self).run s (answers.map (.step t)) = some s' := by
  induction answers generalizing s with
  | nil => exact h
  | cons answer answers ih =>
      rw [Threads.runAlone, Option.bind_eq_some_iff] at h
      obtain ⟨s₁, hstep, hrest⟩ := h
      rw [List.map_cons, Machine.run_cons]
      exact Option.bind_eq_some_iff.mpr ⟨s₁, hstep, ih hrest⟩

/-- What a thread can do alone, it can do while no mutex is taken. -/
theorem exists_run_alone (self : UdpServer) (tail : List ServerInstruction)
    {code : List ServerInstruction} {d' : ServerShared κ}
    (halone : (serverLanguage κ).Alone t code s.data d') (hfault : s.fault = none)
    (hfree : ∀ m, s.owner m = none) (hcode : s.code t = code ++ tail)
    (hflat : (serverInstructions κ).Flat none code) :
    ∃ as s', (serverCalls κ self).run s as = some s' ∧ s'.fault = none
      ∧ (∀ m, s'.owner m = none) ∧ s'.code = Function.update s.code t tail ∧ s'.data = d' := by
  have hholds : s.Holds t none := ⟨fun m => by simp [hfree m], fun m => .inr (hfree m)⟩
  obtain ⟨answers, s', hrun, hfault', hcode', hdata', hholds'⟩ :=
    Threads.exists_runAlone halone hfault hcode rfl hflat hholds
  exact ⟨_, s', run_of_runAlone hrun, hfault', hholds'.owner_eq_none, hcode', hdata'⟩

theorem step_call_of_atRest (h : AtRest s) (main : κ) (member : ServerCall) :
    (serverCalls κ self).step s (.call main member)
      = some (s.called (.application main) member.body) := by
  show s.call _ _ = _
  rw [Threads.call, h.goes, h.application main]
  rfl

/-- An instruction that need not wait. -/
theorem step_of_exec {i : ServerInstruction} (rest : List ServerInstruction) {answer : Answer}
    {o : Outcome (ThreadId κ) ServerInstruction (ServerShared κ)} (hfault : s.fault = none)
    (hcode : s.code t = i :: rest) (hmet : s.Met (i.demand : Demand Unit (ThreadId κ)))
    (hexec : i.exec t answer s.data = .ok o) :
    (serverCalls κ self).step s (.step t answer) = some (s.executed t rest i.demand o) := by
  show s.step _ _ _ = _
  rw [Threads.step, hfault, hcode]
  simp only [Option.isSome_none, Bool.false_eq_true, if_false]
  rw [if_pos (show s.Met ((serverLanguage κ).demand i) from hmet)]
  rw [show (serverLanguage κ).exec t i answer s.data = .ok o from hexec]
  rfl

theorem step_of_error {i : ServerInstruction} {rest : List ServerInstruction} {answer : Answer}
    {e : Fault} (hfault : s.fault = none) (hcode : s.code t = i :: rest)
    (hmet : s.Met (i.demand : Demand Unit (ThreadId κ)))
    (hexec : i.exec t answer s.data = .error e) :
    (serverCalls κ self).step s (.step t answer) = some (s.failed t rest e) := by
  show s.step _ _ _ = _
  rw [Threads.step, hfault, hcode]
  simp only [Option.isSome_none, Bool.false_eq_true, if_false]
  rw [if_pos (show s.Met ((serverLanguage κ).demand i) from hmet)]
  rw [show (serverLanguage κ).exec t i answer s.data = .error e from hexec]

/-- A member that waits for no thread. -/
theorem exists_run_call (self : UdpServer) (h : AtRest s) (main : κ) (member : ServerCall)
    {d' : ServerShared κ}
    (halone : (serverLanguage κ).Alone (.application main) member.body s.data d')
    (hthread : d'.context.self.networkThread = s.data.context.self.networkThread) :
    ∃ as s', (serverCalls κ self).run s as = some s' ∧ AtRest s' ∧ s'.data = d' := by
  have hcode : (s.called (.application main) member.body).code (.application main)
      = member.body ++ [] := by
    rw [List.append_nil]
    exact Function.update_self _ _ _
  refine exists_run_cons (step_call_of_atRest h main member) ?_
  obtain ⟨as, s', hrun, hfault', hfree', hcode', rfl⟩ :=
    exists_run_alone (s := s.called (.application main) member.body) self [] halone h.goes h.free
      hcode member.flat_body
  have hcodes : s'.code = Function.update s.code (.application main) [] := by
    rw [hcode']
    exact Function.update_idem _ _ _
  refine ⟨as, s', hrun, ⟨hfault', hfree', fun k => ?_, ?_⟩, rfl⟩
  · rw [hcodes]
    by_cases hk : k = main
    · rw [hk, Function.update_self]
    · rw [Function.update_of_ne (fun heq => hk (ThreadId.application.inj heq))]
      exact h.application k
  · rw [hcodes, Function.update_of_ne (fun heq => by cases heq), h.network, hthread]

/-- `start_async` on a server that can be started: the new thread is about to begin. -/
theorem exists_run_startAsync (h : AtRest s) (main : κ) {port : UInt16} {reply : StartReply}
    {c : ServerContext Unit} {networkThread : Thread}
    (hstart : UdpServer.startManual () port reply s.data.context = (c, true))
    (hassign : c.self.networkThread.assign = .ok networkThread)
    (hidle : s.data.context.self.networkThread.joinable = false)
    (hjoinable : networkThread.joinable = true) :
    ∃ as s', (serverCalls κ self).run s as = some s' ∧ AtRest s'
      ∧ s'.data.context = { c with self := { c.self with networkThread := networkThread } } := by
  let started : ServerShared κ := s.data.withContext c
  have hmanual : ServerInstruction.exec (.application main) (.startManual port reply true) {} s.data
      = .ok { data := started, code := [.startThread] } := by
    rw [ServerInstruction.exec, hstart]
    rfl
  have hthread : ServerInstruction.exec (.application main) .startThread {} started
      = .ok { data := started.withContext
                { c with self := { c.self with networkThread := networkThread } }
              started := some (.network, [.whileRunning]) } := by
    rw [ServerInstruction.exec]
    show Except.map _ c.self.networkThread.assign = _
    rw [hassign]
    rfl
  refine exists_run_cons (step_call_of_atRest h main (.startAsync port reply)) ?_
  refine exists_run_cons (step_of_exec [] h.goes (Function.update_self _ _ _) trivial
    hmanual) ?_
  refine exists_run_cons (step_of_exec [] h.goes
    (Threads.code_executed_self rfl) trivial hthread) ?_
  refine ⟨[], _, rfl, ⟨h.goes, h.free, fun k => ?_, ?_⟩, rfl⟩
  · by_cases hk : k = main
    · simp [Threads.executed, Outcome.added, hk]
    · simp [Threads.executed, Threads.called, Outcome.added, hk, h.application k]
  · have hnone : s.code .network = [] := by
      rw [h.network, if_neg (Bool.eq_false_iff.mp hidle)]
    show _ = if networkThread.joinable then _ else _
    simp [Threads.executed, Threads.called, Outcome.added, hnone, hjoinable]

/-- `stop` on a server whose network thread is alive: it waits for the loop to end. -/
theorem exists_run_stop (h : AtRest s) (main : κ)
    (hrunning : s.data.context.self.isRunning = true)
    (hjoinable : s.data.context.self.networkThread.joinable = true) :
    ∃ as s', (serverCalls κ self).run s as = some s' ∧ AtRest s'
      ∧ s'.data.context = UdpServer.stop s.data.context := by
  have hne : (ThreadId.application main) ≠ .network := fun heq => by cases heq
  let stopped : ServerShared κ := s.data.withContext
    { s.data.context with
      sInstance := none
      self := { s.data.context.self with isRunning := false } }
  let joined : ServerShared κ := stopped.withContext
    { stopped.context with
      self := { stopped.context.self with
        networkThread := stopped.context.self.networkThread.joinIfJoinable } }
  have hexchange : ServerInstruction.exec (.application main) .exchangeRunning {} s.data
      = .ok { data := stopped
              code := [.joinThread, .lockClients, .closeAll, .unlockClients] } := by
    rw [ServerInstruction.exec]
    dsimp only
    rw [if_pos hrunning, stopBody, if_pos hjoinable, if_neg hne]
    rfl
  have hround : ServerInstruction.exec .network .whileRunning {} stopped
      = .ok { data := stopped, code := [] } := rfl
  have hjoin : ServerInstruction.exec (.application main) .joinThread {} stopped
      = .ok { data := joined } := rfl
  have hnetwork : s.code .network = [.whileRunning] := by rw [h.network, if_pos hjoinable]
  -- the thread has ended, and the rest is done alone
  have hclose : ∀ r : ServerThreads κ, r.fault = none → (∀ m, r.owner m = none) →
      r.data = joined →
      r.code (.application main) = [.lockClients, .closeAll, .unlockClients] →
      r.code .network = [] → (∀ k, k ≠ main → r.code (.application k) = []) →
      ∃ as s', (serverCalls κ self).run r as = some s' ∧ AtRest s'
        ∧ s'.data.context = UdpServer.stop s.data.context := by
    intro r hfault hfree hdata hmain hended hothers
    obtain ⟨d', hclosed, halone⟩ := alone_closeAll (.application main) r.data
    obtain ⟨as, s', hrun, hfault', hfree', hcode', hdata'⟩ := exists_run_alone self []
      halone hfault hfree hmain ⟨rfl, rfl, rfl⟩
    have hcontext : s'.data.context = UdpServer.stop s.data.context := by
      rw [hdata', hclosed, hdata, UdpServer.stop]
      dsimp only
      rw [if_pos hrunning]
      rfl
    refine ⟨as, s', hrun, ⟨hfault', hfree', fun k => ?_, ?_⟩, hcontext⟩
    · rw [hcode']
      by_cases hk : k = main
      · rw [hk, Function.update_self]
      · rw [Function.update_of_ne (fun heq => hk (ThreadId.application.inj heq)), hothers k hk]
    · rw [hcode', Function.update_of_ne hne.symm, hended, hcontext]
      have hrested : s.data.context.self.Rested :=
        fun hidle => absurd hrunning (Bool.eq_false_iff.mp hidle)
      rw [if_neg (Bool.eq_false_iff.mp (UdpServer.stop_lifecycle hrested).2.2)]
  refine exists_run_cons (step_call_of_atRest h main .stop) ?_
  refine exists_run_cons (step_of_exec [] h.goes (Function.update_self _ _ _) trivial
    hexchange) ?_
  refine exists_run_cons (step_of_exec (t := .network) (i := .whileRunning) [] h.goes ?_
    trivial hround) ?_
  · simp [Threads.executed, Threads.called, Outcome.added, hnetwork]
  refine exists_run_cons (step_of_exec (t := .application main) (i := .joinThread)
    [.lockClients, .closeAll, .unlockClients] h.goes ?_ ?_ hjoin) ?_
  · simp [Threads.executed, Threads.called, Outcome.added]
  · show _ = []
    simp [Threads.executed, Threads.called, Outcome.added]
  refine hclose _ h.goes h.free rfl ?_ ?_ fun k hk => ?_
  · simp [Threads.executed, Threads.called, Outcome.added]
  · simp [Threads.executed, Threads.called, Outcome.added]
  · simp [Threads.executed, Threads.called, Outcome.added, hk, h.application k]

end

/-! ## The operations of the atomic server -/

/-- A server that only its own members wrote: it has a thread only while it runs, the pointer
points to it only while it runs, and exactly a running server has a poll group. -/
structure WellKept (c : ServerContext Unit) : Prop where
  rested : c.self.Rested
  pointer : c.sInstance = some () → c.self.isRunning = true
  group : c.self.GroupMatches

theorem WellKept.of_sameLifecycle {c c' : ServerContext Unit} (h : WellKept c)
    (hsame : UdpServer.SameLifecycle c c') (hgroup : c'.self.GroupMatches) : WellKept c' :=
  ⟨hsame.rested h.rested, fun hpointer => by
    rw [hsame.isRunning]
    exact h.pointer (hsame.sInstance ▸ hpointer), hgroup⟩

theorem WellKept.run {c c' : ServerContext Unit} (h : WellKept c) {operation : ServerOperation}
    (hrun : operation.run () c = .ok c') : WellKept c' := by
  have hgroup := UdpServer.groupMatches_run h.group hrun
  cases hstarts : operation.starts c.self with
  | true =>
      obtain ⟨d, hd, -, hrunning⟩ := ServerOperation.run_of_starts () h.rested hstarts
      rw [hrun] at hd
      obtain rfl := Except.ok.inj hd
      exact ⟨fun hidle => absurd hrunning (Bool.eq_false_iff.mp hidle), fun _ => hrunning, hgroup⟩
  | false =>
      cases hstop : operation.isStop with
      | false =>
          exact h.of_sameLifecycle (ServerOperation.run_of_neither hrun hstarts hstop) hgroup
      | true =>
          rw [ServerOperation.run_of_isStop hstop] at hrun
          obtain rfl := Except.ok.inj hrun
          obtain ⟨hpointer, -, hjoinable⟩ := UdpServer.stop_lifecycle h.rested
          refine ⟨fun _ => hjoinable, fun hsome => ?_, hgroup⟩
          rw [hpointer] at hsome
          cases hsome

theorem WellKept.event {c : ServerContext Unit} (h : WellKept c) (event : StatusEvent)
    (reply : AcceptReply) : WellKept (UdpServer.onConnectionStatusChanged event reply c) :=
  h.of_sameLifecycle (UdpServer.sameLifecycle_onConnectionStatusChanged event reply c)
    (UdpServer.groupMatches_onConnectionStatusChanged h.group event reply)

/-- The callbacks are set once, before the server is used. -/
def ServerOperation.setsCallback : ServerOperation → Bool
  | .setDataReceivedCallback _ | .setClientConnectedCallback _
  | .setClientDisconnectedCallback _ => true
  | _ => false

section

variable {self : UdpServer} {s : ServerThreads κ}

/-- A start that makes no thread. -/
theorem alone_startManual (t : ThreadId κ) (port : UInt16) (reply : StartReply) (async : Bool)
    (d : ServerShared κ)
    (h : ((UdpServer.startManual () port reply d.context).2 && async) = false) :
    (serverLanguage κ).Alone t [.startManual port reply async] d
      (d.withContext (UdpServer.startManual () port reply d.context).1) := by
  have hexec : ServerInstruction.exec t (.startManual port reply async) {} d
      = .ok { data := d.withContext (UdpServer.startManual () port reply d.context).1
              code := if (UdpServer.startManual () port reply d.context).2 && async
                then [.startThread] else [] } := rfl
  rw [h] at hexec
  exact .cons {} hexec rfl (fun u hu => by cases hu) (.nil _)

theorem networkThread_startManual (port : UInt16) (reply : StartReply) (c : ServerContext Unit) :
    (UdpServer.startManual () port reply c).1.self.networkThread = c.self.networkThread := by
  rw [UdpServer.startManual_eq]
  split <;> rfl

/-- **A member that returns**, as a run of the threads. -/
theorem exists_run_operation (h : AtRest s) (main : κ)
    {operation : ServerOperation} (hsets : operation.setsCallback = false)
    {c' : ServerContext Unit} (hrun : operation.run () s.data.context = .ok c') :
    ∃ as s', (serverCalls κ self).run s as = some s' ∧ AtRest s' ∧ s'.data.context = c' := by
  have hcall : ∀ (member : ServerCall) (d' : ServerShared κ),
      (serverLanguage κ).Alone (.application main) member.body s.data d' → d'.context = c' →
      c'.self.networkThread = s.data.context.self.networkThread →
      ∃ as s', (serverCalls κ self).run s as = some s' ∧ AtRest s' ∧ s'.data.context = c' := by
    rintro member d' halone rfl hthread
    obtain ⟨as, s', hrun', hrest, rfl⟩ := exists_run_call self h main member halone hthread
    exact ⟨as, s', hrun', hrest, rfl⟩
  cases operation with
  | startManual port reply =>
      obtain rfl := Except.ok.inj hrun
      exact hcall (.startManual port reply) _
        (alone_startManual _ port reply false s.data (Bool.and_false _)) rfl
        (networkThread_startManual port reply _)
  | startAsync port reply =>
      obtain ⟨started, hstart⟩ := ServerOperation.run_startAsync hrun
      obtain ⟨c, hmanual, ⟨rfl, rfl⟩ | ⟨rfl, hidle, rfl⟩⟩ := UdpServer.startAsync_cases hstart
      · have halone := alone_startManual (.application main) port reply true s.data (by
          rw [hmanual]
          rfl)
        have hthread := networkThread_startManual port reply s.data.context
        rw [hmanual] at halone hthread
        exact hcall (.startAsync port reply) _ halone rfl hthread
      · have hthread := networkThread_startManual port reply s.data.context
        rw [hmanual] at hthread
        exact exists_run_startAsync h main hmanual (Thread.assign_of_not_joinable hidle)
          (hthread ▸ hidle) rfl
  | stop =>
      obtain rfl := Except.ok.inj hrun
      cases hrunning : s.data.context.self.isRunning with
      | false =>
          have hexec : ServerInstruction.exec (.application main) .exchangeRunning {} s.data
              = .ok { data := s.data.withContext (UdpServer.stop s.data.context) } := by
            rw [ServerInstruction.exec, UdpServer.stop]
            dsimp only
            rw [if_neg (Bool.eq_false_iff.mp hrunning), if_neg (Bool.eq_false_iff.mp hrunning)]
          exact hcall .stop _ (alone_cons {} hexec (fun hj => by cases hj) (.nil _)) rfl
            (by simp [UdpServer.stop, hrunning])
      | true =>
          cases hjoinable : s.data.context.self.networkThread.joinable with
          | true => exact exists_run_stop h main hrunning hjoinable
          | false =>
              have hexec : ServerInstruction.exec (.application main) .exchangeRunning {} s.data
                  = .ok { data := s.data.withContext
                            { s.data.context with
                              sInstance := none
                              self := { s.data.context.self with isRunning := false } }
                          code := [.lockClients, .closeAll, .unlockClients] } := by
                rw [ServerInstruction.exec]
                dsimp only
                rw [if_pos hrunning, stopBody, if_neg (Bool.eq_false_iff.mp hjoinable)]
                rfl
              have hthread : s.data.context.self.networkThread.joinIfJoinable
                  = s.data.context.self.networkThread := by
                rw [Thread.joinIfJoinable, if_neg (Bool.eq_false_iff.mp hjoinable)]
              obtain ⟨d', hclosed, halone⟩ := alone_closeAll (.application main)
                (s.data.withContext
                  { s.data.context with
                    sInstance := none
                    self := { s.data.context.self with isRunning := false } })
              refine hcall .stop d'
                (.cons {} hexec rfl (fun u hu => by cases hu) halone) ?_ ?_
              · rw [hclosed, UdpServer.stop]
                dsimp only
                rw [if_pos hrunning, hthread]
                rfl
              · simp [UdpServer.stop_eq, UdpServer.afterStop, hrunning, hthread]
  | poll batch =>
      have hgroup : s.data.context.self.pollGroup ≠ kInvalidPollGroup := by
        intro hinvalid
        rw [ServerOperation.run, UdpServer.pollBatch, UdpServer.poll_of_invalid _ hinvalid] at hrun
        cases hrun
      obtain ⟨e, hpoll, halone⟩ := alone_poll (.application main) batch hgroup
      rw [ServerOperation.run, hpoll] at hrun
      obtain rfl := Except.ok.inj hrun
      obtain ⟨xs, hxs, -⟩ := UdpServer.pollBatch_cases hpoll
      refine hcall .poll e (halone e (alone_cons {} rfl (fun hj => by cases hj) (.nil e))) rfl ?_
      rw [hxs]
  | send conn data size reliable sent =>
      obtain rfl := Except.ok.inj hrun
      exact hcall (.send conn data size reliable sent) _
        (alone_cons {} rfl (fun hj => by cases hj) (.nil _)) rfl rfl
  | broadcast data size reliable sent =>
      have hsame := ServerOperation.run_of_neither hrun rfl rfl
      obtain rfl := Except.ok.inj hrun
      exact hcall (.broadcast data size reliable sent) _
        (alone_cons {} rfl (fun hj => by cases hj) (alone_cons {} rfl (fun hj => by cases hj)
          (alone_cons {} rfl (fun hj => by cases hj) (.nil _)))) rfl
        hsame.networkThread
  | disconnect conn reason =>
      obtain rfl := Except.ok.inj hrun
      exact hcall (.disconnect conn reason) _
        (alone_cons {} rfl (fun hj => by cases hj) (alone_cons {} rfl (fun hj => by cases hj)
          (alone_cons {} rfl (fun hj => by cases hj) (alone_cons {} rfl (fun hj => by cases hj)
            (.nil _))))) rfl rfl
  | _ => cases hsets

/-- **A member that runs into a fault**: only a poll without a poll group does. -/
theorem exists_run_error (h : AtRest s) (main : κ) (hkept : WellKept s.data.context)
    {operation : ServerOperation} {e : Fault}
    (hrun : operation.run () s.data.context = .error e) :
    ∃ as s', (serverCalls κ self).run s as = some s'
      ∧ s'.fault = some e ∧ s'.data.context = s.data.context := by
  cases operation with
  | startAsync port reply =>
      rw [ServerOperation.run, UdpServer.startAsync_eq] at hrun
      split at hrun
      · cases hrun
      · rename_i hidle
        split at hrun
        · rw [Thread.assign_of_not_joinable (hkept.rested (Bool.not_eq_true _ ▸ hidle))] at hrun
          cases hrun
        · cases hrun
  | poll batch =>
      by_cases hgroup : s.data.context.self.pollGroup = kInvalidPollGroup
      · rw [ServerOperation.run, UdpServer.pollBatch, UdpServer.poll_of_invalid _ hgroup] at hrun
        obtain rfl := Except.error.inj hrun
        have hexec : ServerInstruction.exec (.application main) .receiveMessages {} s.data
            = .error .uninitialised := if_pos hgroup
        have hstep : (serverCalls κ self).step (s.called (.application main) ServerCall.poll.body)
            (.step (.application main) {}) = some ((s.called (.application main)
              ServerCall.poll.body).failed (.application main) [.runCallbacks] .uninitialised) :=
          step_of_error h.goes (Function.update_self _ _ _) trivial hexec
        exact exists_run_cons (step_call_of_atRest h main .poll)
          (exists_run_cons hstep ⟨[], _, rfl, rfl, rfl⟩)
      · obtain ⟨e, hpoll, -⟩ := alone_poll (.application main) batch hgroup
        rw [ServerOperation.run, hpoll] at hrun
        cases hrun
  | _ => cases hrun

/-- **A status event**, which a poll hands over. -/
theorem exists_run_event (h : AtRest s) (main : κ) (hkept : WellKept s.data.context)
    (event : StatusEvent) (reply : AcceptReply) (hpointer : s.data.context.sInstance = some ()) :
    ∃ as s', (serverCalls κ self).run s as = some s' ∧ AtRest s'
      ∧ s'.data.context = UdpServer.onConnectionStatusChanged event reply s.data.context := by
  have hgroup := hkept.group.mp (hkept.pointer hpointer)
  have hreceive : ServerInstruction.exec (.application main) .receiveMessages {} s.data
      = .ok { data := s.data } := if_neg hgroup
  obtain ⟨d', hd', halone⟩ := alone_statusChanged (.application main) event reply hpointer
  have hsame := UdpServer.sameLifecycle_onConnectionStatusChanged event reply s.data.context
  obtain ⟨as, s', hrun, hrest, rfl⟩ := exists_run_call self h main .poll
    (alone_cons {} hreceive (fun hj => by cases hj)
      (.cons { events := [(event, reply)] } rfl rfl (fun u hu => by cases hu) halone))
    (by rw [hd', hsame.networkThread])
  exact ⟨as, s', hrun, hrest, hd'⟩

end

/-! ## Runs -/

/-- A server is constructed and given its callbacks. -/
def givenCallbacks (data connected disconnected : Bool) : List (ServerAction Unit) :=
  [.construct (), .call () (.setDataReceivedCallback data),
    .call () (.setClientConnectedCallback connected),
    .call () (.setClientDisconnectedCallback disconnected)]

/-- The server is used, with the callbacks that it has. -/
def usesServer : ServerAction Unit → Bool
  | .call _ operation => !operation.setsCallback
  | .event _ => true
  | .construct _ | .destroy _ => false

/-- The threads are where the atomic server is. -/
structure Mirrors (p : ServerProcess Unit) (s : ServerThreads κ) : Prop where
  server : p.objects () = some s.data.context.self
  context : p.context s.data.context.self = s.data.context
  fault : p.fault = s.fault
  rest : s.fault = none → AtRest s ∧ WellKept s.data.context

section

variable {self : UdpServer} {s : ServerThreads κ} {p p' : ServerProcess Unit}

omit [DecidableEq κ] in
theorem mirrors_put (hp : p.fault = none) (hrest : AtRest s) (hkept : WellKept s.data.context) :
    Mirrors (p.put () s.data.context) s :=
  ⟨Process.put_objects_self _ _ _, rfl, hp.trans hrest.goes.symm, fun _ => ⟨hrest, hkept⟩⟩

/-- One step of the atomic server. -/
theorem exists_run_mirrors {a : ServerAction Unit} (main : κ)
    (hstep : (serverProcess Unit).step p a = some p') (huses : usesServer a = true)
    (h : Mirrors p s) :
    ∃ as s', (serverCalls κ self).run s as = some s' ∧ Mirrors p' s' := by
  obtain ⟨hp, hcases⟩ := ObjectClass.step_cases hstep
  obtain ⟨hrest, hkept⟩ := h.rest (h.fault ▸ hp)
  rcases hcases with ⟨i, rfl, -⟩ | ⟨i, -, -, rfl, -⟩ | ⟨i, -, -, rfl, -⟩
      | ⟨i, operation, object, c, rfl, hobject, hcall, rfl⟩
      | ⟨i, operation, object, e, rfl, hobject, hcall, rfl⟩ | ⟨e, rfl, rfl⟩
  · cases huses
  · cases huses
  · cases huses
  · obtain rfl : object = s.data.context.self := Option.some.inj (hobject.symm.trans h.server)
    rw [h.context] at hcall
    obtain ⟨as, s', hrun, hrest', rfl⟩ := exists_run_operation hrest main
      (by simpa [usesServer] using huses) hcall
    exact ⟨as, s', hrun, mirrors_put hp hrest' (hkept.run hcall)⟩
  · obtain rfl : object = s.data.context.self := Option.some.inj (hobject.symm.trans h.server)
    rw [h.context] at hcall
    obtain ⟨as, s', hrun, hfault, hcontext⟩ := exists_run_error hrest main hkept hcall
    refine ⟨as, s', hrun, ⟨?_, ?_, hfault.symm, fun hgoes => ?_⟩⟩
    · rw [hcontext]
      exact h.server
    · rw [hcontext]
      exact h.context
    · rw [hfault] at hgoes
      cases hgoes
  · cases hpointer : p.sInstance with
    | none =>
        rw [Process.throughInstance_of_none hpointer]
        exact ⟨[], s, rfl, h⟩
    | some i =>
        have hthreads : s.data.context.sInstance = some () := by
          rw [← h.context]
          exact hpointer
        obtain ⟨as, s', hrun, hrest', hcontext⟩ :=
          exists_run_event hrest main hkept e.1 e.2 hthreads
        rw [Process.throughInstance_of_some hpointer h.server, h.context]
        refine ⟨as, s', hrun, ?_⟩
        have hmirrors := mirrors_put hp hrest' (hcontext ▸ hkept.event e.1 e.2)
        rw [hcontext] at hmirrors
        exact hmirrors

theorem exists_mirrors_init (data connected disconnected : Bool) :
    ∃ p₀, (serverProcess Unit).run (serverProcess Unit).init
        (givenCallbacks data connected disconnected) = some p₀
      ∧ Mirrors p₀ (serverCalls κ (.withCallbacks data connected disconnected)).init :=
  ⟨_, rfl, rfl, rfl, rfl, fun _ => ⟨⟨rfl, fun _ => rfl, fun _ => rfl, rfl⟩,
    ⟨fun _ => rfl, (fun hpointer => by cases hpointer),
      ⟨(fun hrunning => by cases hrunning), fun hgroup => absurd rfl hgroup⟩⟩⟩⟩

end

/-- A server that is started, accepts a client and is stopped. -/
def startedAndStopped : List (ServerAction Unit) :=
  [.call () (.startAsync 7000 { listenSocket := 1, pollGroup := 2 }),
    .event ({ conn := 3, listenSocket := 1, state := .connecting, oldState := .none },
      { accepted := true, assigned := true, addrRemote := { ip := .replicate 16 0, port := 0 } }),
    .call () .stop]

end KbNetworking
