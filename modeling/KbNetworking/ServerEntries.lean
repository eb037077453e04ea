/-
# The entries that callbacks are given

`get_client_info` returns a pointer into `m_clients` and lets go of the mutex; `poll` and
`on_connection_status_changed` read the entry through it, or through the reference that
`m_clients[conn]` returned, when they call the user.  In between another thread can take the
mutex and erase the entry.

`serverEntries_valid`: this does not happen as long as clients are disconnected only by the
thread that polls, which a user callback is on: the network thread of a server that was
started with one, and otherwise the thread that starts and stops the server.  Then no entry
is read after it was erased, and with `serverCalls_return` every call returns.
-/
import KbNetworking.ServerCallsReturn

namespace KbNetworking

open Cpp

/-! ## Who disconnects -/

def ServerCall.isDisconnect : ServerCall → Bool
  | .disconnect _ _ => true
  | _ => false

/-- The thread that polls. -/
def poller {κ : Type} (main : κ) (self : UdpServer) : ThreadId κ :=
  if self.networkThread.joinable then .network else .application main

/-- Only the thread that polls disconnects clients, itself or in its callbacks. -/
def CallAction.Careful {κ : Type} (main : κ) (s : ServerThreads κ) (a : CallAction κ) : Prop :=
  a.Orderly main s ∧ match a with
    | .call k member => member.isDisconnect = true ∨ member.isPoll = true →
        ThreadId.application k = poller main s.data.context.self
    | .step _ _ => True

/-! ## Finding before using -/

/-- The instructions that neither poll nor erase entries. -/
def ServerInstruction.isQuiet : ServerInstruction → Bool
  | .invoke _ | .receiveMessages | .runCallbacks | .statusChanged _ _ | .eraseClient _
  | .whileRunning => false
  | _ => true

/-- In this code an entry is handed out only right after it was found; `found` says whether one
has just been. -/
def FindsFirst : Bool → List ServerInstruction → Prop
  | _, [] => True
  | _, .findClient _ :: rest => FindsFirst true rest
  | found, .unlockClients :: rest => FindsFirst found rest
  | found, .invoke _ :: rest => found = true ∧ FindsFirst false rest
  | _, _ :: rest => FindsFirst false rest

theorem FindsFirst.mono {found : Bool} {xs : List ServerInstruction} (h : FindsFirst false xs) :
    FindsFirst found xs := by
  induction xs with
  | nil => trivial
  | cons i xs ih =>
      cases i with
      | unlockClients => exact ih h
      | invoke callback => cases h.1
      | _ => exact h

theorem FindsFirst.append {found : Bool} {xs ys : List ServerInstruction} (hxs : FindsFirst found xs)
    (hys : FindsFirst false ys) : FindsFirst found (xs ++ ys) := by
  induction xs generalizing found with
  | nil => exact hys.mono
  | cons i xs ih =>
      cases i with
      | invoke callback => exact ⟨hxs.1, ih hxs.2⟩
      | _ => exact ih hxs

theorem findsFirst_flatMap {β : Type} (xs : List β) {f : β → List ServerInstruction}
    (h : ∀ x ∈ xs, FindsFirst false (f x)) : FindsFirst false (xs.flatMap f) := by
  induction xs with
  | nil => trivial
  | cons x xs ih =>
      rw [List.flatMap_cons]
      exact (h x List.mem_cons_self).append (ih fun y hy => h y (List.mem_cons_of_mem x hy))

theorem findsFirst_getClientInfoBody (conn : Connection) {rest : List ServerInstruction}
    (h : FindsFirst true rest) : FindsFirst false (getClientInfoBody conn ++ rest) := h

/-- A member that neither disconnects nor polls. -/
theorem ServerCall.isQuiet_body (member : ServerCall) (hdisconnect : member.isDisconnect = false)
    (hpoll : member.isPoll = false) : ∀ j ∈ member.body, j.isQuiet = true := by
  intro j hj
  cases member with
  | disconnect => cases hdisconnect
  | poll => cases hpoll
  | _ =>
      simp only [ServerCall.body, getClientInfoBody, List.mem_cons, List.not_mem_nil,
        or_false] at hj
      rcases hj with rfl | rfl | rfl <;> rfl

theorem ServerCall.findsFirst_body (member : ServerCall) : FindsFirst false member.body := by
  cases member <;> trivial

theorem findsFirst_messageBody (self : UdpServer) (message : Message) :
    FindsFirst false (messageBody self message) := by
  unfold messageBody
  split
  · exact findsFirst_getClientInfoBody message.conn ⟨rfl, trivial⟩
  · trivial

theorem findsFirst_closedBody (event : StatusEvent) : FindsFirst false (closedBody event) := by
  unfold closedBody
  refine FindsFirst.append ?_ trivial
  split
  · exact findsFirst_getClientInfoBody event.conn ⟨rfl, trivial⟩
  · trivial

theorem findsFirst_stopBody {κ : Type} [DecidableEq κ] (t : ThreadId κ) (self : UdpServer) :
    FindsFirst false (stopBody t self) := by
  unfold stopBody
  refine FindsFirst.append ?_ trivial
  split
  · split <;> trivial
  · trivial

theorem findsFirst_map_statusChanged (events : List (StatusEvent × AcceptReply)) :
    FindsFirst false (events.map fun e => .statusChanged e.1 e.2) := by
  rw [List.map_eq_flatMap]
  exact findsFirst_flatMap _ fun e _ => trivial

/-! ## What the instructions do to the entries -/

variable {κ : Type} [DecidableEq κ]

/-- The local pointer of a thread, if it has one, can be read through. -/
def ServerShared.Points (d : ServerShared κ) (t : ThreadId κ) : Prop :=
  ∀ r, d.client t = some r → ∃ info, d.deref r = .ok info

/-- From `d` to `d'` no entry was written or erased, and no other thread's pointer moved. -/
structure SameEntries (t : ThreadId κ) (d d' : ServerShared κ) : Prop where
  clients : d'.context.self.clients = d.context.self.clients
  erased : d'.erased = d.erased
  client : ∀ u, u ≠ t → d'.client u = d.client u

omit [DecidableEq κ] in
theorem SameEntries.points {t u : ThreadId κ} {d d' : ServerShared κ} (h : SameEntries t d d')
    (hu : u ≠ t) (hpoints : d.Points u) : d'.Points u := by
  intro r hr
  rw [h.client u hu] at hr
  obtain ⟨info, hinfo⟩ := hpoints r hr
  refine ⟨info, ?_⟩
  rw [← hinfo]
  unfold ServerShared.deref UdpServer.getClientInfo
  rw [h.clients, h.erased]

section

variable {t : ThreadId κ} {i : ServerInstruction} {answer : Answer} {d : ServerShared κ}
  {o : Outcome (ThreadId κ) ServerInstruction (ServerShared κ)}

/-- What a pointer was set to just now can be read through. -/
theorem points_locate (t : ThreadId κ) (conn : Connection) (d : ServerShared κ) :
    ServerShared.Points { d with client := Function.update d.client t (d.locate conn) } t := by
  intro r hr
  change Function.update d.client t (d.locate conn) t = some r at hr
  rw [Function.update_self] at hr
  obtain ⟨info, hinfo, rfl⟩ := Option.map_eq_some_iff.mp hr
  refine ⟨info, ?_⟩
  simp only [ServerShared.deref, if_true]
  rw [hinfo]

/-- The instructions of the threads that do not poll leave the entries alone, but for the end of
`stop`. -/
theorem sameEntries_exec (hquiet : i.isQuiet = true) (hclose : i ≠ .closeAll)
    (h : i.exec t answer d = .ok o) : SameEntries t d o.data := by
  cases i with
  | invoke | receiveMessages | runCallbacks | statusChanged | eraseClient | whileRunning =>
      cases hquiet
  | closeAll => exact absurd rfl hclose
  | findClient conn =>
      obtain rfl := Except.ok.inj h
      exact ⟨rfl, rfl, fun u hu => Function.update_of_ne hu _ _⟩
  | startManual port reply async =>
      rw [ServerInstruction.exec] at h
      rcases hstart : UdpServer.startManual () port reply d.context with ⟨c, started⟩
      rw [hstart] at h
      obtain rfl := Except.ok.inj h
      rw [UdpServer.startManual_eq] at hstart
      refine ⟨?_, rfl, fun _ _ => rfl⟩
      split at hstart
      · obtain ⟨rfl, -⟩ := Prod.mk.inj hstart
        rfl
      · obtain ⟨rfl, -⟩ := Prod.mk.inj hstart
        rfl
  | startThread =>
      obtain ⟨networkThread, -, rfl⟩ := map_eq_ok.mp h
      exact ⟨rfl, rfl, fun _ _ => rfl⟩
  | exchangeRunning =>
      rw [ServerInstruction.exec] at h
      split at h
      · obtain rfl := Except.ok.inj h
        exact ⟨rfl, rfl, fun _ _ => rfl⟩
      · obtain rfl := Except.ok.inj h
        exact ⟨rfl, rfl, fun _ _ => rfl⟩
  | joinOwnThread => cases h
  | broadcastAll data size reliable sent =>
      obtain rfl := Except.ok.inj h
      exact ⟨(UdpServer.sameBut_broadcast data size reliable sent d.context).clients, rfl,
        fun _ _ => rfl⟩
  | _ =>
      obtain rfl := Except.ok.inj h
      exact ⟨rfl, rfl, fun _ _ => rfl⟩

omit [DecidableEq κ] in
/-- An admitted connection has an entry. -/
theorem UdpServer.clients_acceptClient {event : StatusEvent} {reply : AcceptReply}
    {c c' : ServerContext Unit} (h : acceptClient event reply c = (c', true)) :
    ∃ addr, c'.self.clients = c.self.clients.set event.conn addr := by
  unfold acceptClient at h
  cases haccepted : reply.accepted with
  | false =>
      rw [haccepted] at h
      cases (Prod.mk.inj h).2
  | true =>
      cases hassigned : reply.assigned with
      | false =>
          rw [haccepted, hassigned] at h
          cases (Prod.mk.inj h).2
      | true =>
          rw [haccepted, hassigned] at h
          obtain ⟨rfl, -⟩ := Prod.mk.inj h
          exact ⟨_, rfl⟩

/-- A new connection is admitted with a pointer to its entry, and otherwise nothing is handed
out before it was found. -/
theorem findsFirst_statusChanged (t : ThreadId κ) (event : StatusEvent) (reply : AcceptReply)
    (d : ServerShared κ) :
    ∃ found, FindsFirst found (execStatusChanged t event reply d).code
      ∧ (found = true → (execStatusChanged t event reply d).data.Points t) := by
  unfold execStatusChanged
  split
  · exact ⟨false, trivial, fun h => by cases h⟩
  · split
    · exact ⟨false, findsFirst_closedBody event, fun h => by cases h⟩
    · exact ⟨false, findsFirst_closedBody event, fun h => by cases h⟩
    · rcases hresult : UdpServer.acceptClient event reply d.context with ⟨c, admitted⟩
      cases admitted with
      | false => exact ⟨false, trivial, fun h => by cases h⟩
      | true =>
          obtain ⟨addr, hclients⟩ := UdpServer.clients_acceptClient hresult
          refine ⟨true, ⟨rfl, trivial⟩, fun _ r hr => ?_⟩
          change Function.update d.client t (some _) t = some r at hr
          rw [Function.update_self] at hr
          obtain rfl := Option.some.inj hr
          refine ⟨{ conn := event.conn, addr := addr }, ?_⟩
          simp [ServerShared.deref, ServerShared.withContext, UdpServer.getClientInfo, hclients,
            ClientTable.find_set]
    · exact ⟨false, trivial, fun h => by cases h⟩
    · exact ⟨false, trivial, fun h => by cases h⟩
    · exact ⟨false, trivial, fun h => by cases h⟩

theorem Unfolds.findsFirst {self : UdpServer} {code : List ServerInstruction}
    (h : Unfolds t answer self i code) (hevent : ∀ event reply, i ≠ .statusChanged event reply) :
    FindsFirst false code := by
  cases h with
  | nothing => trivial
  | starts => trivial
  | stops => exact findsFirst_stopBody t self
  | receives => exact findsFirst_flatMap _ fun message _ => findsFirst_messageBody self message
  | reports => exact findsFirst_map_statusChanged answer.events
  | closes event reply => exact absurd rfl (hevent event reply)
  | admits event reply => exact absurd rfl (hevent event reply)
  | calls => exact findsFirst_flatMap _ fun member _ => member.findsFirst_body
  | loops => trivial

/-- What an instruction unfolds into hands out what was found before, or admitted just now. -/
theorem findsFirst_exec (h : i.exec t answer d = .ok o) :
    ∃ found, FindsFirst found o.code ∧ (found = true → o.data.Points t) := by
  cases i with
  | statusChanged event reply =>
      obtain rfl := Except.ok.inj h
      exact findsFirst_statusChanged t event reply d
  | _ =>
      exact ⟨false, (unfolds_of_exec h).findsFirst (fun _ _ heq => by cases heq),
        fun hfound => by cases hfound⟩

/-- An instruction that does not poll unfolds into such instructions. -/
theorem Unfolds.isQuiet {self : UdpServer} {code : List ServerInstruction}
    (h : Unfolds t answer self i code) (hquiet : i.isQuiet = true) :
    ∀ j ∈ code, j.isQuiet = true := by
  intro j hj
  cases h with
  | nothing => cases hj
  | starts =>
      obtain rfl := List.mem_singleton.mp hj
      rfl
  | stops => rcases mem_stopBody hj with rfl | rfl | rfl | rfl | rfl <;> rfl
  | _ => cases hquiet

/-- The thread of the server is changed by its start and its join only. -/
theorem networkThread_exec (hstart : i ≠ .startThread) (hjoin : i ≠ .joinThread)
    (h : i.exec t answer d = .ok o) :
    o.data.context.self.networkThread = d.context.self.networkThread := by
  cases hcontrol : i.isControl with
  | false => exact (sameLifecycle_exec hcontrol h).1.networkThread
  | true =>
      cases i with
      | startManual port reply async =>
          rw [ServerInstruction.exec] at h
          rcases hmanual : UdpServer.startManual () port reply d.context with ⟨c, started⟩
          rw [hmanual] at h
          obtain rfl := Except.ok.inj h
          rw [UdpServer.startManual_eq] at hmanual
          split at hmanual
          · obtain ⟨rfl, -⟩ := Prod.mk.inj hmanual
            rfl
          · obtain ⟨rfl, -⟩ := Prod.mk.inj hmanual
            rfl
      | exchangeRunning =>
          rw [ServerInstruction.exec] at h
          split at h
          · obtain rfl := Except.ok.inj h
            rfl
          · obtain rfl := Except.ok.inj h
            rfl
      | closeAll =>
          obtain rfl := Except.ok.inj h
          exact (UdpServer.lifecycle_closed d.context).2
      | startThread => exact absurd rfl hstart
      | joinThread => exact absurd rfl hjoin
      | joinOwnThread => cases h
      | _ => cases hcontrol

/-- A callback fails only on a pointer that cannot be read through. -/
theorem error_of_poll (hcontrol : i.isControl = false) {e : Fault}
    (h : i.exec t answer d = .error e) :
    (i = .receiveMessages ∧ d.context.self.pollGroup = kInvalidPollGroup)
      ∨ ((∃ callback, i = .invoke callback) ∧ ¬ d.Points t) := by
  cases i with
  | startManual | startThread | exchangeRunning | joinThread | joinOwnThread | closeAll =>
      cases hcontrol
  | receiveMessages =>
      rw [ServerInstruction.exec] at h
      split at h
      · rename_i hgroup
        exact .inl ⟨rfl, hgroup⟩
      · cases h
  | invoke callback =>
      refine .inr ⟨⟨callback, rfl⟩, fun hpoints => ?_⟩
      rw [ServerInstruction.exec, execInvoke] at h
      split at h
      · cases h
      · rename_i r hr
        obtain ⟨info, hinfo⟩ := hpoints r hr
        rw [hinfo] at h
        split at h <;> cases h
  | _ => cases h

end

/-! ## What every step keeps -/

/-- Only the thread that polls hands entries out and erases them, and what it is about to hand
out is there. -/
structure EntriesKept (main : κ) (s : ServerThreads κ) : Prop where
  keeps : KeepsGoing main s
  quiet : ∀ t, t ≠ poller main s.data.context.self → ∀ i ∈ s.code t, i.isQuiet = true
  found : ∃ found, FindsFirst found (s.code (poller main s.data.context.self))
    ∧ (found = true → s.data.Points (poller main s.data.context.self))

section

variable {main : κ} {s s' : ServerThreads κ} {t : ThreadId κ} {answer : Answer}
  {i : ServerInstruction} {rest : List ServerInstruction}
  {o : Outcome (ThreadId κ) ServerInstruction (ServerShared κ)}

/-- An instruction of the thread that polls. -/
theorem findsFirst_next {found : Bool} (hfound : FindsFirst found (i :: rest))
    (hpoints : found = true → s.data.Points t) (hexec : i.exec t answer s.data = .ok o) :
    ∃ found', FindsFirst found' (o.code ++ rest) ∧ (found' = true → o.data.Points t) := by
  cases i with
  | findClient conn =>
      obtain rfl := Except.ok.inj hexec
      exact ⟨true, hfound, fun _ => points_locate t conn s.data⟩
  | unlockClients =>
      obtain rfl := Except.ok.inj hexec
      exact ⟨found, hfound, hpoints⟩
  | invoke callback =>
      obtain ⟨found', hcode, hpoints'⟩ := findsFirst_exec hexec
      exact ⟨found', hcode.append hfound.2, hpoints'⟩
  | _ =>
      obtain ⟨found', hcode, hpoints'⟩ := findsFirst_exec hexec
      exact ⟨found', hcode.append hfound, hpoints'⟩

/-- When `stop` comes to close everything, there is no other thread that polls. -/
theorem EntriesKept.ne_closeAll (h : EntriesKept main s) (hcode : s.code t = i :: rest)
    (ht : t ≠ poller main s.data.context.self) : i ≠ .closeAll := by
  rintro rfl
  obtain rfl := h.keeps.eq_main hcode rfl
  have hphase := h.keeps.phase
  rw [hcode] at hphase
  cases hphase with
  | free hfree => cases hfree _ List.mem_cons_self
  | closing hrunning hthread =>
      refine ht ?_
      unfold poller
      rw [hthread]
      rfl

/-- An instruction that leaves it to the same thread to poll. -/
theorem EntriesKept.executed (h : EntriesKept main s) (hcode : s.code t = i :: rest)
    (hstart : i ≠ .startThread) (hjoin : i ≠ .joinThread)
    (hexec : i.exec t answer s.data = .ok o)
    (hkeeps : KeepsGoing main (s.executed t rest i.demand o)) :
    EntriesKept main (s.executed t rest i.demand o) := by
  have hstarted : o.started = none :=
    (started_of_exec hexec).resolve_right fun hthread => hstart hthread.1
  have hafter : ∀ u, (s.executed t rest i.demand o).code u
      = if u = t then o.code ++ rest else s.code u := code_executed hstarted
  have hmem : i ∈ s.code t := by
    rw [hcode]
    exact List.mem_cons_self
  have hpoller : poller main o.data.context.self = poller main s.data.context.self := by
    unfold poller
    rw [networkThread_exec hstart hjoin hexec]
  refine ⟨hkeeps, ?_, ?_⟩
  · intro u hu j hj
    change u ≠ poller main o.data.context.self at hu
    rw [hpoller] at hu
    rw [hafter] at hj
    split at hj
    · rename_i ht
      subst ht
      rcases List.mem_append.mp hj with hj | hj
      · exact (unfolds_of_exec hexec).isQuiet (h.quiet u hu i hmem) j hj
      · refine h.quiet u hu j ?_
        rw [hcode]
        exact List.mem_cons_of_mem i hj
    · exact h.quiet u hu j hj
  · show ∃ found, FindsFirst found ((s.executed t rest i.demand o).code
        (poller main o.data.context.self))
      ∧ (found = true → o.data.Points (poller main o.data.context.self))
    rw [hpoller, hafter]
    obtain ⟨found, hfound, hpoints⟩ := h.found
    split
    · rename_i ht
      rw [ht] at hfound hpoints ⊢
      rw [hcode] at hfound
      exact findsFirst_next hfound hpoints hexec
    · rename_i ht
      have hsame := sameEntries_exec (h.quiet t (Ne.symm ht) i hmem)
        (h.ne_closeAll hcode (Ne.symm ht)) hexec
      exact ⟨found, hfound, fun hf => hsame.points ht (hpoints hf)⟩

/-- The rest of `start_async`: the network thread polls now. -/
theorem EntriesKept.startThread (h : EntriesKept main s) (answer : Answer)
    (hcode : s.code (.application main) = .startThread :: rest)
    (hexec : ServerInstruction.exec (.application main) .startThread answer s.data = .ok o)
    (hkeeps : KeepsGoing main (s.executed (.application main) rest .nothing o)) :
    EntriesKept main (s.executed (.application main) rest .nothing o) := by
  obtain ⟨rfl, hthread⟩ : rest = [] ∧ s.data.context.self.networkThread.joinable = false := by
    have hphase := h.keeps.phase
    rw [hcode] at hphase
    cases hphase with
    | free hfree => cases hfree _ List.mem_cons_self
    | startingThread hrunning hthread => exact ⟨rfl, hthread⟩
  have hnetwork : s.code .network = [] := by
    by_contra hne
    rw [h.keeps.threaded hne] at hthread
    cases hthread
  have hmain : poller main s.data.context.self = .application main := by
    unfold poller
    rw [hthread]
    rfl
  rw [ServerInstruction.exec, Thread.assign_of_not_joinable hthread] at hexec
  obtain rfl := Except.ok.inj hexec
  refine ⟨hkeeps, ?_, ⟨false, ?_, fun hfound => by cases hfound⟩⟩
  · intro u hu j hj
    cases u with
    | network => exact absurd rfl hu
    | application k =>
        by_cases hk : k = main
        · simp [Threads.executed, Outcome.added, hk] at hj
        · refine h.quiet (.application k) ?_ j
            (by simpa [Threads.executed, Outcome.added, hk] using hj)
          rw [hmain]
          exact fun heq => hk (ThreadId.application.inj heq)
  · show FindsFirst false ((s.executed _ _ _ _).code .network)
    simp only [Threads.executed, Outcome.added, hnetwork, if_true, ne_eq,
      ThreadId.network_ne, not_false_eq_true, Function.update_of_ne]
    trivial

/-- The join of `stop`: `main` polls now, if anyone does. -/
theorem EntriesKept.join (h : EntriesKept main s) (answer : Answer) (hnetwork : s.code .network = [])
    (hcode : s.code (.application main) = .joinThread :: rest)
    (hexec : ServerInstruction.exec (.application main) .joinThread answer s.data = .ok o)
    (hkeeps : KeepsGoing main (s.executed (.application main) rest (.join .network) o)) :
    EntriesKept main (s.executed (.application main) rest (.join .network) o) := by
  obtain ⟨rfl, hthread⟩ : rest = [.lockClients, .closeAll, .unlockClients]
      ∧ s.data.context.self.networkThread.joinable = true := by
    have hphase := h.keeps.phase
    rw [hcode] at hphase
    cases hphase with
    | free hfree => cases hfree _ List.mem_cons_self
    | joining hrunning hthread => exact ⟨rfl, hthread⟩
  have hpoller : poller main s.data.context.self = .network := by
    unfold poller
    rw [hthread]
    rfl
  obtain rfl := Except.ok.inj hexec
  have hafter : ∀ u, u ≠ .application main →
      (s.executed (.application main) [.lockClients, .closeAll, .unlockClients] (.join .network)
        { data := s.data.withContext { s.data.context with self := { s.data.context.self with
          networkThread := s.data.context.self.networkThread.joinIfJoinable } } }).code u
        = s.code u :=
    fun u hu => (code_executed (i := .joinThread) rfl u).trans (if_neg hu)
  have hmain : poller main { s.data.context.self with
      networkThread := s.data.context.self.networkThread.joinIfJoinable } = .application main := by
    unfold poller
    rw [Thread.joinable_joinIfJoinable]
    rfl
  refine ⟨hkeeps, ?_, ⟨false, ?_, fun hfound => by cases hfound⟩⟩
  · intro u hu j hj
    change u ≠ poller main { s.data.context.self with
      networkThread := s.data.context.self.networkThread.joinIfJoinable } at hu
    rw [hmain] at hu
    rw [hafter u hu] at hj
    by_cases hnet : u = .network
    · rw [hnet, hnetwork] at hj
      cases hj
    · exact h.quiet u (by rw [hpoller]; exact hnet) j hj
  · show FindsFirst false (Threads.code _ (poller main { s.data.context.self with
        networkThread := s.data.context.self.networkThread.joinIfJoinable }))
    rw [hmain, Threads.code_executed_self rfl]
    trivial

/-- No instruction fails. -/
theorem EntriesKept.exec_ne_error (h : EntriesKept main s) (hcode : s.code t = i :: rest)
    (hmet : s.Met i.demand) (e : Fault) : i.exec t answer s.data ≠ .error e := by
  intro he
  have hmem : i ∈ s.code t := by
    rw [hcode]
    exact List.mem_cons_self
  cases hcontrol : i.isControl with
  | true => exact (h.keeps.step_control answer hcode hcontrol hmet).1 e he
  | false =>
      rcases error_of_poll hcontrol he with ⟨rfl, hgroup⟩ | ⟨⟨callback, rfl⟩, hpoints⟩
      · exact h.keeps.receiving t hmem hgroup
      · obtain ⟨found, hfound, hfoundPoints⟩ := h.found
        have ht : t = poller main s.data.context.self := by
          by_contra ht
          cases h.quiet t ht _ hmem
        rw [← ht, hcode] at hfound
        rw [← ht] at hfoundPoints
        exact hpoints (hfoundPoints hfound.1)

/-- A step of a thread. -/
theorem entriesKept_step (h : EntriesKept main s) (horderly : answer.Orderly)
    (hstep : s.step (serverLanguage κ) t answer = some s') : EntriesKept main s' := by
  have hkeeps := keepsGoing_step h.keeps horderly hstep
  obtain ⟨hfault, i, rest, hcode, hmet, ⟨e, he, rfl⟩ | ⟨o, hexec, rfl⟩⟩ := Threads.step_cases hstep
  · exact absurd he (h.exec_ne_error hcode hmet e)
  · have hkeeps' := hkeeps.resolve_left fun hf => by
      change s.fault = _ at hf
      rw [hfault] at hf
      cases hf
    by_cases hstart : i = .startThread
    · subst hstart
      obtain rfl := h.keeps.eq_main hcode rfl
      exact h.startThread answer hcode hexec hkeeps'
    · by_cases hjoin : i = .joinThread
      · subst hjoin
        obtain rfl := h.keeps.eq_main hcode rfl
        exact h.join answer hmet hcode hexec hkeeps'
      · exact h.executed hcode hstart hjoin hexec hkeeps'

/-- A call of a member. -/
theorem entriesKept_call (h : EntriesKept main s) {k : κ} {member : ServerCall}
    (hcareful : (CallAction.call k member).Careful main s)
    (hcall : s.call (.application k) member.body = some s') : EntriesKept main s' := by
  have hkeeps := keepsGoing_call h.keeps hcareful.1 hcall
  obtain ⟨-, -, rfl⟩ := Threads.call_cases hcall
  have hafter := Threads.code_called (s := s) (t := .application k) member.body
  refine ⟨hkeeps, ?_, ?_⟩
  · intro u hu j hj
    rw [hafter] at hj
    split at hj
    · rename_i heq
      subst heq
      have hquiet : member.isDisconnect = false ∧ member.isPoll = false := by
        by_contra hnot
        refine hu (hcareful.2 ?_)
        cases hdisconnect : member.isDisconnect with
        | true => exact .inl rfl
        | false =>
            refine .inr ?_
            by_contra hpoll
            exact hnot ⟨hdisconnect, by simpa using hpoll⟩
      exact member.isQuiet_body hquiet.1 hquiet.2 j hj
    · exact h.quiet u hu j hj
  · show ∃ found, FindsFirst found ((s.called _ member.body).code
        (poller main s.data.context.self))
      ∧ (found = true → s.data.Points (poller main s.data.context.self))
    rw [hafter]
    split
    · exact ⟨false, member.findsFirst_body, fun hfound => by cases hfound⟩
    · exact h.found

end

/-- A client connects and sends, and the callback that gets its message disconnects it. -/
def disconnectInCallback : List (CallAction Bool) :=
  let admitted : StatusEvent × AcceptReply :=
    (⟨5, 1, .connecting, .none⟩, ⟨true, true, ⟨.replicate 16 0, 9⟩⟩)
  [.call true (.startAsync 7000 { listenSocket := 1, pollGroup := 2 }), .step (.application true) {},
    .step (.application true) {}, .step .network {}, .step .network {},
    .step .network { events := [admitted] }, .step .network {}, .step .network {},
    .step .network {}, .step .network { batch := ⟨[⟨5, [75, 66]⟩], by decide⟩ },
    .step .network {}, .step .network {}, .step .network {},
    .step .network { calls := [.disconnect 5 0] }, .step .network {}, .step .network {},
    .step .network {}, .step .network {}]

/-- The same disconnect by another thread, between the lookup and the callback: the callback is
given an entry that is gone. -/
example : ((serverCalls Bool (.withCallbacks true false false)).run
    (serverCalls Bool (.withCallbacks true false false)).init
      (disconnectInCallback.take 13 ++ [.call false (.disconnect 5 0), .step (.application false) {},
        .step (.application false) {}, .step (.application false) {}, .step (.application false) {},
        .step .network {}])).map (fun s => s.fault)
    = some (some .useAfterFree) := by rfl

end KbNetworking
