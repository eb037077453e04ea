/-
# Every call of a server returns

The threads of an application may call one server at the same time, and its network thread
may call it from the user's callbacks.  They wait for each other at `m_client_mutex`, and
`stop` waits for the network thread.  They never wait in a circle:

* no member calls out while it holds the mutex, so its owner can always go on;
* `stop` joins the network thread before it takes the mutex, and clears `m_is_running` before
  that, so the loop ends at the next round.

`serverCalls_return`: when one thread of the application starts, stops and polls the server
(and polls it only while it runs) and no callback does, then from every state that is
reached, whatever the threads, the transport and the callbacks do next, the calls that are in
progress return; and no call ends the program by joining itself, by assigning over a thread,
or by reading a message that was never received.
-/
import KbNetworking.ServerCalls
import KbNetworking.ServerRouting

namespace KbNetworking

open Cpp

/-! ## Who may call what -/

/-- The members that neither start, stop nor poll. -/
def ServerCall.isTraffic : ServerCall → Bool
  | .send _ _ _ _ _ | .broadcast _ _ _ _ | .disconnect _ _ | .getClientInfo _ => true
  | _ => false

def ServerCall.isPoll : ServerCall → Bool
  | .poll => true
  | _ => false

/-- The instructions of the members that start and stop. -/
def ServerInstruction.isControl : ServerInstruction → Bool
  | .startManual _ _ _ | .startThread | .exchangeRunning | .joinThread | .joinOwnThread
  | .closeAll => true
  | _ => false

/-- The callbacks make no calls but traffic. -/
def Answer.Orderly (answer : Answer) : Prop := ∀ call ∈ answer.calls, call.isTraffic = true

/-- One thread of the application, `main`, starts and stops the server and polls it while it
runs; the others, and the callbacks, only send, disconnect and look up. -/
def CallAction.Orderly {κ : Type} (main : κ) (s : ServerThreads κ) : CallAction κ → Prop
  | .call k member => member.isTraffic = true ∨
      (k = main ∧ (member.isPoll = true → s.data.context.self.isRunning = true))
  | .step _ answer => answer.Orderly

theorem orderly_nothing : ({} : Answer).Orderly := fun member hmember => by cases hmember

theorem ThreadId.network_ne {κ : Type} (k : κ) : (network : ThreadId κ) ≠ .application k :=
  fun h => by cases h

/-- A thread is about to begin another round of the network loop. -/
def NewRound {κ : Type} (s : ServerThreads κ) (t : ThreadId κ) : Prop :=
  s.data.context.self.isRunning = true ∧ ∃ rest, s.code t = .whileRunning :: rest

variable {κ : Type} [DecidableEq κ]

/-- What is in progress goes on: no call and no round of the network loop begins. -/
def GoesOn (s s' : ServerThreads κ) : Prop :=
  Threads.Proceeds (serverLanguage κ) (fun s t answer => answer.Orderly ∧ ¬ NewRound s t) s s'

/-- No thread of the application is in a call. -/
def AllReturned (s : ServerThreads κ) : Prop := ∀ k, s.code (.application k) = []

/-! ## Going on only finitely long -/

/-- Instructions unfold into instructions of a lower level. -/
def ServerInstruction.level : ServerInstruction → ℕ
  | .runCallbacks => 3
  | .receiveMessages | .statusChanged _ _ | .startManual _ _ _ => 2
  | .invoke _ | .exchangeRunning | .startThread => 1
  | _ => 0

theorem mem_getClientInfoBody {conn : Connection} {j : ServerInstruction}
    (h : j ∈ getClientInfoBody conn) : j = .lockClients ∨ j = .findClient conn ∨ j = .unlockClients := by
  simpa [getClientInfoBody] using h

theorem mem_messageBody {self : UdpServer} {message : Message} {j : ServerInstruction}
    (h : j ∈ messageBody self message) :
    j ∈ getClientInfoBody message.conn ∨ j = .invoke (.dataReceived message.data) := by
  unfold messageBody at h
  split at h
  · simpa [or_assoc] using h
  · cases h

theorem mem_closedBody {event : StatusEvent} {j : ServerInstruction} (h : j ∈ closedBody event) :
    j ∈ getClientInfoBody event.conn ∨ j = .invoke .clientDisconnected
      ∨ j = .closeLost event.conn := by
  unfold closedBody at h
  rcases List.mem_append.mp h with h | h
  · split at h
    · rcases List.mem_append.mp h with h | h
      · exact .inl h
      · exact .inr (.inl (List.mem_singleton.mp h))
    · cases h
  · exact .inr (.inr (List.mem_singleton.mp h))

theorem mem_stopBody {t : ThreadId κ} {self : UdpServer} {j : ServerInstruction}
    (h : j ∈ stopBody t self) : j = .joinOwnThread ∨ j = .joinThread ∨ j = .lockClients
      ∨ j = .closeAll ∨ j = .unlockClients := by
  unfold stopBody at h
  rcases List.mem_append.mp h with h | h
  · split at h
    · split at h
      · exact .inl (List.mem_singleton.mp h)
      · exact .inr (.inl (List.mem_singleton.mp h))
    · cases h
  · simp only [List.mem_cons, List.not_mem_nil, or_false] at h
    exact .inr (.inr h)

theorem level_getClientInfoBody {conn : Connection} {j : ServerInstruction}
    (h : j ∈ getClientInfoBody conn) : j.level = 0 := by
  rcases mem_getClientInfoBody h with rfl | rfl | rfl <;> rfl

theorem level_traffic {member : ServerCall} (h : member.isTraffic = true) {j : ServerInstruction}
    (hj : j ∈ member.body) : j.level = 0 := by
  cases member with
  | send | broadcast | disconnect | getClientInfo =>
      simp only [ServerCall.body, getClientInfoBody, List.mem_cons, List.not_mem_nil,
        or_false] at hj
      rcases hj with rfl | rfl | rfl | rfl <;> rfl
  | _ => cases h

/-- What an instruction unfolds into is lower, unless it begins another round. -/
theorem Unfolds.level_lt {t : ThreadId κ} {answer : Answer} {self : UdpServer}
    {i : ServerInstruction} {code : List ServerInstruction} (h : Unfolds t answer self i code)
    (horderly : answer.Orderly) (hround : i = .whileRunning → self.isRunning = false) :
    ∀ j ∈ code, j.level < i.level := by
  intro j hj
  cases h with
  | nothing => cases hj
  | starts port reply =>
      obtain rfl := List.mem_singleton.mp hj
      exact Nat.lt_succ_self 1
  | stops hrunning =>
      rcases mem_stopBody hj with rfl | rfl | rfl | rfl | rfl <;> exact Nat.zero_lt_one
  | receives =>
      obtain ⟨message, -, hj⟩ := List.mem_flatMap.mp hj
      rcases mem_messageBody hj with hj | rfl
      · rw [level_getClientInfoBody hj]
        exact Nat.zero_lt_two
      · exact Nat.lt_succ_self 1
  | reports =>
      obtain ⟨e, -, rfl⟩ := List.mem_map.mp hj
      exact Nat.lt_succ_self 2
  | closes event reply =>
      rcases mem_closedBody hj with hj | rfl | rfl
      · rw [level_getClientInfoBody hj]
        exact Nat.zero_lt_two
      · exact Nat.lt_succ_self 1
      · exact Nat.zero_lt_two
  | admits event reply =>
      obtain rfl := List.mem_singleton.mp hj
      exact Nat.lt_succ_self 1
  | calls callback =>
      obtain ⟨member, hmember, hj⟩ := List.mem_flatMap.mp hj
      rw [level_traffic (horderly member hmember) hj]
      exact Nat.zero_lt_one
  | loops hrunning =>
      rw [hround rfl] at hrunning
      cases hrunning

/-- What is in progress cannot go on forever. -/
theorem wellFounded_goesOn [Fintype κ] :
    WellFounded fun s' s : ServerThreads κ => GoesOn s s' := by
  refine Threads.wellFounded_proceeds ServerInstruction.level ?_
  rintro s t answer i rest o ⟨horderly, hround⟩ hcode hexec j hj
  have hidle : i = .whileRunning → s.data.context.self.isRunning = false := by
    rintro rfl
    by_contra hrunning
    exact hround ⟨by simpa using hrunning, rest, hcode⟩
  have hunfolds := (unfolds_of_exec hexec).level_lt horderly hidle
  rcases List.mem_append.mp hj with hj | hj
  · exact hunfolds j hj
  · rcases started_of_exec hexec with hnone | ⟨rfl, -, hsome⟩
    · rw [hnone] at hj
      cases hj
    · rw [hsome] at hj
      obtain rfl := List.mem_singleton.mp hj
      exact Nat.zero_lt_one

/-! ## What the instructions do to the running server -/

/-- The instructions of `send`, `broadcast`, `disconnect` and `get_client_info`. -/
def ServerInstruction.isTraffic : ServerInstruction → Bool
  | .lockClients | .unlockClients | .findClient _ | .send _ _ _ _ _ | .broadcastAll _ _ _ _
  | .closeConnection _ _ | .eraseClient _ => true
  | _ => false

theorem isTraffic_body {member : ServerCall} (h : member.isTraffic = true) {j : ServerInstruction}
    (hj : j ∈ member.body) : j.isTraffic = true := by
  cases member with
  | send | broadcast | disconnect | getClientInfo =>
      simp only [ServerCall.body, getClientInfoBody, List.mem_cons, List.not_mem_nil,
        or_false] at hj
      rcases hj with rfl | rfl | rfl | rfl <;> rfl
  | _ => cases h

theorem isControl_of_isTraffic {i : ServerInstruction} (h : i.isTraffic = true) :
    i.isControl = false := by
  cases i <;> first | rfl | cases h

section

variable {t : ThreadId κ} {i : ServerInstruction} {answer : Answer} {d : ServerShared κ}
  {o : Outcome (ThreadId κ) ServerInstruction (ServerShared κ)}

/-- The traffic does not fail, and does not unfold. -/
theorem exec_of_isTraffic (h : i.isTraffic = true) :
    ∃ d', i.exec t answer d = .ok { data := d' } := by
  cases i with
  | lockClients | unlockClients | findClient | send | broadcastAll | closeConnection
  | eraseClient => exact ⟨_, rfl⟩
  | _ => cases h

/-- A new connection changes only the table. -/
theorem UdpServer.sameLifecycle_acceptClient (event : StatusEvent) (reply : AcceptReply)
    (c : ServerContext Unit) :
    SameLifecycle c (acceptClient event reply c).1
      ∧ (acceptClient event reply c).1.self.pollGroup = c.self.pollGroup := by
  unfold acceptClient
  cases reply.accepted with
  | false => exact ⟨⟨rfl, rfl, rfl⟩, rfl⟩
  | true =>
      cases reply.assigned with
      | false => exact ⟨⟨rfl, rfl, rfl⟩, rfl⟩
      | true => exact ⟨⟨rfl, rfl, rfl⟩, rfl⟩

theorem sameLifecycle_statusChanged (t : ThreadId κ) (event : StatusEvent) (reply : AcceptReply)
    (d : ServerShared κ) :
    UdpServer.SameLifecycle d.context (execStatusChanged t event reply d).data.context
      ∧ (execStatusChanged t event reply d).data.context.self.pollGroup
        = d.context.self.pollGroup := by
  have hsame : UdpServer.SameLifecycle d.context d.context
      ∧ d.context.self.pollGroup = d.context.self.pollGroup := ⟨.refl _, rfl⟩
  have haccept := UdpServer.sameLifecycle_acceptClient event reply d.context
  unfold execStatusChanged
  split
  · exact hsame
  · split
    · exact hsame
    · exact hsame
    · rcases hresult : UdpServer.acceptClient event reply d.context with ⟨c, admitted⟩
      rw [hresult] at haccept
      cases admitted with
      | true => exact haccept
      | false => exact haccept
    · exact hsame
    · exact hsame
    · exact hsame

/-- Whether the server runs, its thread and its poll group are changed by starting and
stopping only. -/
theorem sameLifecycle_exec (hcontrol : i.isControl = false) (h : i.exec t answer d = .ok o) :
    UdpServer.SameLifecycle d.context o.data.context
      ∧ o.data.context.self.pollGroup = d.context.self.pollGroup := by
  cases i with
  | startManual | startThread | exchangeRunning | joinThread | joinOwnThread | closeAll =>
      cases hcontrol
  | broadcastAll data size reliable sent =>
      obtain rfl := Except.ok.inj h
      simp only [UdpServer.broadcast]
      split
      · exact ⟨.refl _, rfl⟩
      · rw [UdpServer.broadcastLoop_eq]
        exact ⟨⟨rfl, rfl, rfl⟩, rfl⟩
  | receiveMessages =>
      rw [ServerInstruction.exec] at h
      split at h
      · cases h
      · obtain rfl := Except.ok.inj h
        exact ⟨.refl _, rfl⟩
  | statusChanged event reply =>
      obtain rfl := Except.ok.inj h
      exact sameLifecycle_statusChanged t event reply d
  | invoke callback =>
      rw [ServerInstruction.exec, execInvoke] at h
      split at h
      · obtain rfl := Except.ok.inj h
        exact ⟨.refl _, rfl⟩
      · split at h
        · obtain ⟨info, -, rfl⟩ := map_eq_ok.mp h
          exact ⟨⟨rfl, rfl, rfl⟩, rfl⟩
        · obtain rfl := Except.ok.inj h
          exact ⟨.refl _, rfl⟩
  | _ =>
      obtain rfl := Except.ok.inj h
      exact ⟨⟨rfl, rfl, rfl⟩, rfl⟩

/-- What can end the program, apart from starting and stopping. -/
theorem error_of_exec (hcontrol : i.isControl = false) {e : Fault}
    (h : i.exec t answer d = .error e) :
    e = .useAfterFree ∨ (i = .receiveMessages ∧ d.context.self.pollGroup = kInvalidPollGroup) := by
  cases i with
  | startManual | startThread | exchangeRunning | joinThread | joinOwnThread | closeAll =>
      cases hcontrol
  | receiveMessages =>
      rw [ServerInstruction.exec] at h
      split at h
      · rename_i hgroup
        exact .inr ⟨rfl, hgroup⟩
      · cases h
  | invoke callback =>
      rw [ServerInstruction.exec, execInvoke] at h
      split at h
      · cases h
      · split at h
        · rename_i r _ _
          cases hderef : d.deref r with
          | ok info =>
              rw [hderef] at h
              cases h
          | error e' =>
              rw [hderef] at h
              obtain rfl := Except.error.inj h
              exact .inl (ServerShared.error_of_deref hderef)
        · cases h
  | _ => cases h

/-- What can end the program in starting and stopping. -/
theorem error_of_control (hcontrol : i.isControl = true) {e : Fault}
    (h : i.exec t answer d = .error e) :
    i = .joinOwnThread ∨ (i = .startThread ∧ d.context.self.networkThread.joinable = true) := by
  cases i with
  | startManual port reply async =>
      rw [ServerInstruction.exec] at h
      rcases hstart : UdpServer.startManual () port reply d.context with ⟨c, started⟩
      rw [hstart] at h
      cases h
  | startThread =>
      cases hjoinable : d.context.self.networkThread.joinable with
      | true => exact .inr ⟨rfl, rfl⟩
      | false =>
          rw [ServerInstruction.exec, Thread.assign_of_not_joinable hjoinable] at h
          cases h
  | exchangeRunning =>
      rw [ServerInstruction.exec] at h
      split at h <;> cases h
  | joinOwnThread => exact .inl rfl
  | joinThread | closeAll => cases h
  | _ => cases hcontrol

/-- Only starting and stopping unfolds into starting and stopping. -/
theorem Unfolds.isControl_eq_false {self : UdpServer} {code : List ServerInstruction}
    (h : Unfolds t answer self i code) (horderly : answer.Orderly)
    (hcontrol : i.isControl = false) : ∀ j ∈ code, j.isControl = false := by
  intro j hj
  cases h with
  | nothing => cases hj
  | starts => cases hcontrol
  | stops => cases hcontrol
  | receives =>
      obtain ⟨message, -, hj⟩ := List.mem_flatMap.mp hj
      rcases mem_messageBody hj with hj | rfl
      · rcases mem_getClientInfoBody hj with rfl | rfl | rfl <;> rfl
      · rfl
  | reports =>
      obtain ⟨e, -, rfl⟩ := List.mem_map.mp hj
      rfl
  | closes =>
      rcases mem_closedBody hj with hj | rfl | rfl
      · rcases mem_getClientInfoBody hj with rfl | rfl | rfl <;> rfl
      · rfl
      · rfl
  | admits =>
      obtain rfl := List.mem_singleton.mp hj
      rfl
  | calls =>
      obtain ⟨member, hmember, hj⟩ := List.mem_flatMap.mp hj
      exact isControl_of_isTraffic (isTraffic_body (horderly member hmember) hj)
  | loops =>
      simp only [ServerCall.body, List.cons_append, List.nil_append, List.mem_cons,
        List.not_mem_nil, or_false] at hj
      rcases hj with rfl | rfl | rfl <;> rfl

/-- Nothing but the network loop unfolds into it. -/
theorem Unfolds.eq_of_loops {self : UdpServer} {code : List ServerInstruction}
    (h : Unfolds t answer self i code) (horderly : answer.Orderly)
    (hloop : .whileRunning ∈ code) : i = .whileRunning := by
  cases h with
  | nothing => cases hloop
  | starts => simp at hloop
  | stops => rcases mem_stopBody hloop with hj | hj | hj | hj | hj <;> cases hj
  | receives =>
      obtain ⟨message, -, hj⟩ := List.mem_flatMap.mp hloop
      rcases mem_messageBody hj with hj | hj
      · rcases mem_getClientInfoBody hj with hj | hj | hj <;> cases hj
      · cases hj
  | reports =>
      obtain ⟨e, -, hj⟩ := List.mem_map.mp hloop
      cases hj
  | closes =>
      rcases mem_closedBody hloop with hj | hj | hj
      · rcases mem_getClientInfoBody hj with hj | hj | hj <;> cases hj
      · cases hj
      · cases hj
  | admits => simp at hloop
  | calls =>
      obtain ⟨member, hmember, hj⟩ := List.mem_flatMap.mp hloop
      cases isTraffic_body (horderly member hmember) hj
  | loops => rfl

/-- Messages are received by a poll, and in a new round of the network loop. -/
theorem Unfolds.running_of_receives {self : UdpServer} {code : List ServerInstruction}
    (h : Unfolds t answer self i code) (horderly : answer.Orderly)
    (hreceive : .receiveMessages ∈ code) : self.isRunning = true := by
  cases h with
  | nothing => cases hreceive
  | starts => simp at hreceive
  | stops hrunning => exact hrunning
  | receives =>
      obtain ⟨message, -, hj⟩ := List.mem_flatMap.mp hreceive
      rcases mem_messageBody hj with hj | hj
      · rcases mem_getClientInfoBody hj with hj | hj | hj <;> cases hj
      · cases hj
  | reports =>
      obtain ⟨e, -, hj⟩ := List.mem_map.mp hreceive
      cases hj
  | closes =>
      rcases mem_closedBody hreceive with hj | hj | hj
      · rcases mem_getClientInfoBody hj with hj | hj | hj <;> cases hj
      · cases hj
      · cases hj
  | admits => simp at hreceive
  | calls =>
      obtain ⟨member, hmember, hj⟩ := List.mem_flatMap.mp hreceive
      cases isTraffic_body (horderly member hmember) hj
  | loops hrunning => exact hrunning

end

/-! ## What every step keeps -/

/-- Where `main` is in starting or stopping the server. -/
inductive Phase (self : UdpServer) : List ServerInstruction → Prop
  | free {code : List ServerInstruction} (hcode : ∀ i ∈ code, i.isControl = false)
      (hrested : self.Rested) : Phase self code
  | starting (port : UInt16) (reply : StartReply) (async : Bool) (hrested : self.Rested) :
      Phase self [.startManual port reply async]
  | startingThread (hrunning : self.isRunning = true)
      (hthread : self.networkThread.joinable = false) : Phase self [.startThread]
  | stopping (hrested : self.Rested) : Phase self [.exchangeRunning]
  | joining (hrunning : self.isRunning = false) (hthread : self.networkThread.joinable = true) :
      Phase self [.joinThread, .lockClients, .closeAll, .unlockClients]
  | locking (hrunning : self.isRunning = false) (hthread : self.networkThread.joinable = false) :
      Phase self [.lockClients, .closeAll, .unlockClients]
  | closing (hrunning : self.isRunning = false) (hthread : self.networkThread.joinable = false) :
      Phase self [.closeAll, .unlockClients]

/-- The other threads only make traffic, only the network thread of the server runs its loop,
and whoever is about to receive messages has a poll group to receive them from. -/
structure KeepsGoing (main : κ) (s : ServerThreads κ) : Prop where
  notFailed : s.fault = none
  locked : s.WellLocked (serverLanguage κ)
  others : ∀ k, k ≠ main → ∀ i ∈ s.code (.application k), i.isTraffic = true
  network : ∀ i ∈ s.code .network, i.isControl = false
  phase : Phase s.data.context.self (s.code (.application main))
  looping : ∀ k, .whileRunning ∉ s.code (.application k)
  threaded : s.code .network ≠ [] → s.data.context.self.networkThread.joinable = true
  group : s.data.context.self.isRunning = true →
    s.data.context.self.pollGroup ≠ kInvalidPollGroup
  receiving : ∀ t, .receiveMessages ∈ s.code t →
    s.data.context.self.pollGroup ≠ kInvalidPollGroup

section

variable {main : κ} {s s' : ServerThreads κ} {t : ThreadId κ} {answer : Answer}
  {i : ServerInstruction} {rest : List ServerInstruction}
  {o : Outcome (ThreadId κ) ServerInstruction (ServerShared κ)}

theorem Phase.of_free {self : UdpServer} {i : ServerInstruction} {rest : List ServerInstruction}
    (h : Phase self (i :: rest)) (hcontrol : i.isControl = false) :
    (self.Rested ∧ ∀ j ∈ rest, j.isControl = false)
      ∨ (i = .lockClients ∧ rest = [.closeAll, .unlockClients] ∧ self.isRunning = false
        ∧ self.networkThread.joinable = false) := by
  cases h with
  | free hcode hrested => exact .inl ⟨hrested, fun j hj => hcode j (List.mem_cons_of_mem i hj)⟩
  | locking hrunning hthread => exact .inr ⟨rfl, rfl, hrunning, hthread⟩
  | _ => cases hcontrol

theorem Phase.rested_of_nil {self : UdpServer} (h : Phase self []) : self.Rested := by
  cases h with
  | free hcode hrested => exact hrested

theorem Phase.congr {self self' : UdpServer} {code : List ServerInstruction} (h : Phase self code)
    (hrunning : self'.isRunning = self.isRunning)
    (hthread : self'.networkThread = self.networkThread) : Phase self' code := by
  have hrested : self.Rested → self'.Rested := by
    unfold UdpServer.Rested
    rw [hrunning, hthread]
    exact id
  cases h with
  | free hcode h => exact .free hcode (hrested h)
  | starting port reply async h => exact .starting port reply async (hrested h)
  | startingThread hr ht => exact .startingThread (hrunning.trans hr) (hthread ▸ ht)
  | stopping h => exact .stopping (hrested h)
  | joining hr ht => exact .joining (hrunning.trans hr) (hthread ▸ ht)
  | locking hr ht => exact .locking (hrunning.trans hr) (hthread ▸ ht)
  | closing hr ht => exact .closing (hrunning.trans hr) (hthread ▸ ht)

/-- The code of the threads after an instruction that starts none. -/
theorem code_executed (hstarted : o.started = none) (u : ThreadId κ) :
    (s.executed t rest (i.demand) o).code u = if u = t then o.code ++ rest else s.code u := by
  by_cases hu : u = t
  · subst hu
    rw [if_pos rfl, Threads.code_executed_self hstarted]
  · rw [if_neg hu, Threads.code_executed_of_ne hu, Threads.added_of_none hstarted,
      List.append_nil]

/-- An instruction that neither starts nor stops. -/
theorem KeepsGoing.free (h : KeepsGoing main s) (hcode : s.code t = i :: rest)
    (hcontrol : i.isControl = false) (horderly : answer.Orderly)
    (hexec : i.exec t answer s.data = .ok o)
    (hlocked : (s.executed t rest i.demand o).WellLocked (serverLanguage κ)) :
    KeepsGoing main (s.executed t rest i.demand o) := by
  obtain ⟨hsame, hgroup⟩ := sameLifecycle_exec hcontrol hexec
  have hunfolds := unfolds_of_exec hexec
  have hstarted : o.started = none := by
    refine (started_of_exec hexec).resolve_right ?_
    rintro ⟨rfl, -⟩
    cases hcontrol
  have hafter : ∀ u, (s.executed t rest i.demand o).code u
      = if u = t then o.code ++ rest else s.code u := code_executed hstarted
  have hnew : ∀ j ∈ o.code ++ rest, j ∈ o.code ∨ j ∈ s.code t := by
    intro j hj
    rw [hcode]
    exact (List.mem_append.mp hj).imp_right (List.mem_cons_of_mem i)
  refine ⟨h.notFailed, hlocked, ?_, ?_, ?_, ?_, ?_, ?_, ?_⟩
  · intro k hk j hj
    rw [hafter] at hj
    split at hj
    · rename_i ht
      have htraffic : i.isTraffic = true := by
        refine h.others k hk i ?_
        rw [ht, hcode]
        exact List.mem_cons_self
      obtain ⟨d', hd'⟩ : ∃ d', i.exec t answer s.data = .ok { data := d' } :=
        exec_of_isTraffic htraffic
      obtain rfl := Except.ok.inj (hd'.symm.trans hexec)
      rcases hnew j hj with hj | hj
      · cases hj
      · exact h.others k hk j (ht ▸ hj)
    · exact h.others k hk j hj
  · intro j hj
    rw [hafter] at hj
    split at hj
    · rename_i ht
      rcases hnew j hj with hj | hj
      · exact hunfolds.isControl_eq_false horderly hcontrol j hj
      · exact h.network j (ht ▸ hj)
    · exact h.network j hj
  · have hphase := h.phase.congr hsame.isRunning hsame.networkThread
    rw [hafter]
    split
    · rename_i ht
      rw [ht, hcode] at hphase
      rcases hphase.of_free hcontrol with ⟨hrested, hrest⟩ | ⟨rfl, rfl, hrunning, hthread⟩
      · refine .free (fun j hj => ?_) hrested
        rcases List.mem_append.mp hj with hj | hj
        · exact hunfolds.isControl_eq_false horderly hcontrol j hj
        · exact hrest j hj
      · obtain rfl := Except.ok.inj hexec
        exact .closing hrunning hthread
    · exact hphase
  · intro k hk
    rw [hafter] at hk
    split at hk
    · rename_i ht
      refine h.looping k ?_
      rw [ht]
      rcases hnew _ hk with hk | hk
      · rw [hcode, hunfolds.eq_of_loops horderly hk]
        exact List.mem_cons_self
      · exact hk
    · exact h.looping k hk
  · intro hne
    show o.data.context.self.networkThread.joinable = true
    rw [hsame.networkThread]
    refine h.threaded fun hnil => hne ?_
    rw [hafter]
    split
    · rename_i ht
      rw [ht, hcode] at hnil
      cases hnil
    · exact hnil
  · intro hrunning
    show o.data.context.self.pollGroup ≠ kInvalidPollGroup
    rw [hgroup]
    exact h.group (hsame.isRunning.symm.trans hrunning)
  · intro u hu
    show o.data.context.self.pollGroup ≠ kInvalidPollGroup
    rw [hgroup]
    rw [hafter] at hu
    split at hu
    · rcases hnew _ hu with hu | hu
      · exact h.group (hunfolds.running_of_receives horderly hu)
      · exact h.receiving t hu
    · exact h.receiving u hu

/-- Only the network loop and `main` receive messages. -/
theorem KeepsGoing.receives_cases (h : KeepsGoing main s) {u : ThreadId κ}
    (hu : .receiveMessages ∈ s.code u) :
    s.data.context.self.networkThread.joinable = true ∨ u = .application main := by
  cases u with
  | network => exact .inl (h.threaded (List.ne_nil_of_mem hu))
  | application k =>
      by_cases hk : k = main
      · exact .inr (by rw [hk])
      · cases h.others k hk _ hu

/-- An instruction of starting or stopping that starts no thread. -/
theorem KeepsGoing.control (h : KeepsGoing main s) (hstarted : o.started = none)
    (hlocked : (s.executed (.application main) rest i.demand o).WellLocked (serverLanguage κ))
    (hphase : Phase o.data.context.self (o.code ++ rest))
    (hthreaded : s.code .network ≠ [] → o.data.context.self.networkThread.joinable = true)
    (hgroup : o.data.context.self.isRunning = true →
      o.data.context.self.pollGroup ≠ kInvalidPollGroup)
    (hstarting : ∀ j ∈ o.code ++ rest, j.isControl = true ∨ j.isTraffic = true)
    (hkept : s.data.context.self.networkThread.joinable = true →
      o.data.context.self.pollGroup = s.data.context.self.pollGroup) :
    KeepsGoing main (s.executed (.application main) rest i.demand o) := by
  have hafter : ∀ u, (s.executed (.application main) rest i.demand o).code u
      = if u = .application main then o.code ++ rest else s.code u := code_executed hstarted
  have hmain : ∀ k, k ≠ main → (ThreadId.application k : ThreadId κ) ≠ .application main :=
    fun k hk heq => hk (ThreadId.application.inj heq)
  have hnetwork := ThreadId.network_ne main
  refine ⟨h.notFailed, hlocked, ?_, ?_, ?_, ?_, ?_, hgroup, ?_⟩
  · intro k hk j hj
    rw [hafter, if_neg (hmain k hk)] at hj
    exact h.others k hk j hj
  · intro j hj
    rw [hafter, if_neg hnetwork] at hj
    exact h.network j hj
  · rw [hafter, if_pos rfl]
    exact hphase
  · intro k hk
    rw [hafter] at hk
    split at hk
    · rcases hstarting _ hk with hk | hk <;> cases hk
    · exact h.looping k hk
  · intro hne
    rw [hafter, if_neg hnetwork] at hne
    exact hthreaded hne
  · intro u hu
    rw [hafter] at hu
    split at hu
    · rcases hstarting _ hu with hu | hu <;> cases hu
    · rename_i hne
      rcases h.receives_cases hu with hjoinable | hmain'
      · exact (hkept hjoinable).symm ▸ h.receiving u hu
      · exact absurd hmain' hne

/-- A start that leaves the server running leaves it a poll group. -/
theorem UdpServer.group_afterStart (port : UInt16) (reply : StartReply) (self : UdpServer)
    (h : (afterStart port reply self).isRunning = true) :
    (afterStart port reply self).pollGroup ≠ kInvalidPollGroup := by
  obtain ⟨hlisten, hgroup⟩ : reply.listenSocket ≠ kInvalidListenSocket
      ∧ reply.pollGroup ≠ kInvalidPollGroup := by
    simpa [afterStart, startSucceeds] using h
  rw [afterStart, if_neg hlisten]
  exact hgroup

/-- `start_manual`, and the first part of `start_async`. -/
theorem KeepsGoing.start (h : KeepsGoing main s) {port : UInt16} {reply : StartReply} {async : Bool}
    (hrested : s.data.context.self.Rested)
    (hexec : ServerInstruction.exec (.application main) (.startManual port reply async) answer s.data
      = .ok o)
    (hlocked : (s.executed (.application main) [] .nothing o).WellLocked (serverLanguage κ)) :
    KeepsGoing main (s.executed (.application main) [] .nothing o) := by
  rw [ServerInstruction.exec, UdpServer.startManual_eq] at hexec
  cases hrunning : s.data.context.self.isRunning with
  | true =>
      rw [hrunning, if_pos rfl] at hexec
      obtain rfl := Except.ok.inj hexec
      exact h.control (i := .startManual port reply async) rfl hlocked
        (.free (fun j hj => by cases hj) hrested) h.threaded h.group (fun j hj => by cases hj)
        fun _ => rfl
  | false =>
      have hthread := hrested hrunning
      rw [hrunning, if_neg Bool.false_ne_true] at hexec
      obtain rfl := Except.ok.inj hexec
      refine h.control (i := .startManual port reply async) rfl hlocked ?_ h.threaded
        (UdpServer.group_afterStart port reply _) ?_ ?_
      · rw [List.append_nil]
        cases hstarts : UdpServer.startSucceeds reply && async with
        | true => exact .startingThread (Bool.and_eq_true_iff.mp hstarts).1 hthread
        | false => exact .free (fun j hj => by cases hj) fun _ => hthread
      · rw [List.append_nil]
        intro j hj
        cases hstarts : UdpServer.startSucceeds reply && async with
        | true =>
            rw [hstarts] at hj
            obtain rfl := List.mem_singleton.mp hj
            exact .inl rfl
        | false =>
            rw [hstarts] at hj
            cases hj
      · intro hjoinable
        rw [hthread] at hjoinable
        cases hjoinable

/-- The rest of `start_async`. -/
theorem KeepsGoing.startThread (h : KeepsGoing main s)
    (hrunning : s.data.context.self.isRunning = true)
    (hthread : s.data.context.self.networkThread.joinable = false)
    (hexec : ServerInstruction.exec (.application main) .startThread answer s.data = .ok o)
    (hlocked : (s.executed (.application main) [] .nothing o).WellLocked (serverLanguage κ)) :
    KeepsGoing main (s.executed (.application main) [] .nothing o) := by
  rw [ServerInstruction.exec, Thread.assign_of_not_joinable hthread] at hexec
  obtain rfl := Except.ok.inj hexec
  have hnetwork : s.code .network = [] := by
    by_contra hne
    rw [h.threaded hne] at hthread
    cases hthread
  refine ⟨h.notFailed, hlocked, ?_, ?_, ?_, ?_, fun _ => rfl, h.group, ?_⟩
  · intro k hk j hj
    refine h.others k hk j ?_
    simpa [Threads.executed, Outcome.added, hk] using hj
  · intro j hj
    obtain rfl : j = .whileRunning := by
      simpa [Threads.executed, Outcome.added, hnetwork] using hj
    rfl
  · refine .free (fun j hj => ?_) fun hidle => ?_
    · simp [Threads.executed, Outcome.added] at hj
    · rw [show s.data.context.self.isRunning = false from hidle] at hrunning
      cases hrunning
  · intro k hk
    by_cases hmain : k = main
    · simp [Threads.executed, Outcome.added, hmain] at hk
    · exact h.looping k (by simpa [Threads.executed, Outcome.added, hmain] using hk)
  · intro u _
    exact h.group hrunning

/-- The exchange of `stop`. -/
theorem KeepsGoing.exchange (h : KeepsGoing main s) (hrested : s.data.context.self.Rested)
    (hexec : ServerInstruction.exec (.application main) .exchangeRunning answer s.data = .ok o)
    (hlocked : (s.executed (.application main) [] .nothing o).WellLocked (serverLanguage κ)) :
    KeepsGoing main (s.executed (.application main) [] .nothing o) := by
  rw [ServerInstruction.exec] at hexec
  cases hrunning : s.data.context.self.isRunning with
  | false =>
      simp only [hrunning, Bool.false_eq_true, if_false] at hexec
      obtain rfl := Except.ok.inj hexec
      exact h.control (i := .exchangeRunning) rfl hlocked
        (.free (fun j hj => by cases hj) hrested) h.threaded h.group (fun j hj => by cases hj)
        fun _ => rfl
  | true =>
      simp only [hrunning, if_true] at hexec
      obtain rfl := Except.ok.inj hexec
      refine h.control (i := .exchangeRunning) rfl hlocked ?_ h.threaded
        (fun hidle => by cases hidle) ?_ fun _ => rfl
      · rw [List.append_nil]
        show Phase _ (stopBody (.application main) s.data.context.self)
        unfold stopBody
        cases hthread : s.data.context.self.networkThread.joinable with
        | true => exact .joining rfl hthread
        | false => exact .locking rfl hthread
      · rw [List.append_nil]
        intro j hj
        rcases mem_stopBody hj with rfl | rfl | rfl | rfl | rfl
        · exact .inl rfl
        · exact .inl rfl
        · exact .inr rfl
        · exact .inl rfl
        · exact .inr rfl

/-- The join of `stop`: the network loop has ended. -/
theorem KeepsGoing.join (h : KeepsGoing main s) (hnetwork : s.code .network = [])
    (hrunning : s.data.context.self.isRunning = false)
    (hexec : ServerInstruction.exec (.application main) .joinThread answer s.data = .ok o)
    (hlocked : (s.executed (.application main) [.lockClients, .closeAll, .unlockClients]
      (.join .network) o).WellLocked (serverLanguage κ)) :
    KeepsGoing main (s.executed (.application main) [.lockClients, .closeAll, .unlockClients]
      (.join .network) o) := by
  obtain rfl := Except.ok.inj hexec
  refine h.control (i := .joinThread) rfl hlocked ?_ (fun hne => absurd hnetwork hne) h.group
    (fun j hj => ?_) fun _ => rfl
  · exact .locking hrunning (Thread.joinable_joinIfJoinable _)
  · simp only [List.nil_append, List.mem_cons, List.not_mem_nil, or_false] at hj
    rcases hj with rfl | rfl | rfl
    · exact .inr rfl
    · exact .inl rfl
    · exact .inr rfl

theorem UdpServer.lifecycle_closed (c : ServerContext Unit) :
    (destroyPollGroup (closeListenSocket (closeClients c))).self.isRunning = c.self.isRunning
      ∧ (destroyPollGroup (closeListenSocket (closeClients c))).self.networkThread
        = c.self.networkThread := by
  unfold destroyPollGroup closeListenSocket closeClients
  split <;> split <;> exact ⟨rfl, rfl⟩

/-- The end of `stop`. -/
theorem KeepsGoing.close (h : KeepsGoing main s)
    (hrunning : s.data.context.self.isRunning = false)
    (hthread : s.data.context.self.networkThread.joinable = false)
    (hexec : ServerInstruction.exec (.application main) .closeAll answer s.data = .ok o)
    (hlocked : (s.executed (.application main) [.unlockClients] .nothing o).WellLocked
      (serverLanguage κ)) :
    KeepsGoing main (s.executed (.application main) [.unlockClients] .nothing o) := by
  obtain rfl := Except.ok.inj hexec
  obtain ⟨hidle, hsame⟩ := UdpServer.lifecycle_closed s.data.context
  refine h.control (i := .closeAll) rfl hlocked (.free (fun j hj => ?_) fun _ => ?_) ?_ ?_
    (fun j hj => ?_) ?_
  · obtain rfl := List.mem_singleton.mp hj
    rfl
  · exact (congrArg Thread.joinable hsame).trans hthread
  · intro hne
    rw [h.threaded hne] at hthread
    cases hthread
  · intro hrunning'
    exact absurd ((hidle.trans hrunning).symm.trans hrunning') Bool.false_ne_true
  · obtain rfl := List.mem_singleton.mp hj
    exact .inr rfl
  · intro hjoinable
    rw [hthread] at hjoinable
    cases hjoinable

/-- Only `main` starts and stops. -/
theorem KeepsGoing.eq_main (h : KeepsGoing main s) (hcode : s.code t = i :: rest)
    (hcontrol : i.isControl = true) : t = .application main := by
  have hmem : i ∈ s.code t := by
    rw [hcode]
    exact List.mem_cons_self
  cases t with
  | network =>
      rw [h.network i hmem] at hcontrol
      cases hcontrol
  | application k =>
      by_cases hk : k = main
      · rw [hk]
      · rw [isControl_of_isTraffic (h.others k hk i hmem)] at hcontrol
        cases hcontrol

/-- An instruction of starting or stopping: `main` is in the phase that it belongs to. -/
theorem KeepsGoing.step_control (h : KeepsGoing main s) (answer : Answer) (hcode : s.code t = i :: rest)
    (hcontrol : i.isControl = true) (hmet : s.Met i.demand) :
    (∀ e, i.exec t answer s.data ≠ .error e)
      ∧ ∀ o, i.exec t answer s.data = .ok o →
        (s.executed t rest i.demand o).WellLocked (serverLanguage κ) →
          KeepsGoing main (s.executed t rest i.demand o) := by
  obtain rfl := h.eq_main hcode hcontrol
  have hphase := h.phase
  rw [hcode] at hphase
  have herror : ∀ e, i.exec (.application main) answer s.data ≠ .error e := by
    intro e he
    rcases error_of_control hcontrol he with rfl | ⟨rfl, hjoinable⟩
    · cases hphase with
      | free hfree => cases hfree _ List.mem_cons_self
    · cases hphase with
      | free hfree => cases hfree _ List.mem_cons_self
      | startingThread hrunning hthread =>
          rw [hthread] at hjoinable
          cases hjoinable
  refine ⟨herror, fun o hexec hlocked => ?_⟩
  cases hphase with
  | free hfree =>
      rw [hfree i List.mem_cons_self] at hcontrol
      cases hcontrol
  | starting port reply async hrested => exact h.start hrested hexec hlocked
  | startingThread hrunning hthread => exact h.startThread hrunning hthread hexec hlocked
  | stopping hrested => exact h.exchange hrested hexec hlocked
  | joining hrunning hthread => exact h.join hmet hrunning hexec hlocked
  | locking => cases hcontrol
  | closing hrunning hthread => exact h.close hrunning hthread hexec hlocked

/-- A step of a thread, whatever its callback calls but starting, stopping and polling. -/
theorem keepsGoing_step (h : KeepsGoing main s) (horderly : answer.Orderly)
    (hstep : s.step (serverLanguage κ) t answer = some s') :
    s'.fault = some .useAfterFree ∨ KeepsGoing main s' := by
  have hlocked := Threads.wellLocked_step h.locked hstep
  obtain ⟨hfault, i, rest, hcode, hmet, hresult⟩ := Threads.step_cases hstep
  cases hcontrol : i.isControl with
  | true =>
      obtain ⟨herror, hkeeps⟩ := h.step_control answer hcode hcontrol hmet
      rcases hresult with ⟨e, he, rfl⟩ | ⟨o, ho, rfl⟩
      · exact absurd he (herror e)
      · exact .inr (hkeeps o ho (hlocked.resolve_left fun hne => hne hfault))
  | false =>
      rcases hresult with ⟨e, he, rfl⟩ | ⟨o, ho, rfl⟩
      · rcases error_of_exec hcontrol he with rfl | ⟨rfl, hgroup⟩
        · exact .inl rfl
        · refine absurd hgroup (h.receiving t ?_)
          rw [hcode]
          exact List.mem_cons_self
      · exact .inr (h.free hcode hcontrol horderly ho
          (hlocked.resolve_left fun hne => hne hfault))

/-- A call of a member. -/
theorem keepsGoing_call (h : KeepsGoing main s) {k : κ} {member : ServerCall}
    (horderly : (CallAction.call k member).Orderly main s)
    (hcall : s.call (.application k) member.body = some s') : KeepsGoing main s' := by
  have hlocked := Threads.wellLocked_call h.locked member.flat_body hcall
  obtain ⟨-, hidle, rfl⟩ := Threads.call_cases hcall
  have hafter := Threads.code_called (s := s) (t := .application k) member.body
  have hbody : member.isTraffic = true → ∀ j ∈ member.body, j.isTraffic = true :=
    fun htraffic j hj => isTraffic_body htraffic hj
  refine ⟨h.notFailed, hlocked, ?_, ?_, ?_, ?_, ?_, h.group, ?_⟩
  · intro k' hk' j hj
    rw [hafter] at hj
    split at hj
    · rename_i heq
      refine hbody (horderly.resolve_right fun hmain => hk' ?_) j hj
      rw [ThreadId.application.inj heq, hmain.1]
    · exact h.others k' hk' j hj
  · intro j hj
    rw [hafter, if_neg (ThreadId.network_ne k)] at hj
    exact h.network j hj
  · rw [hafter]
    split
    · rename_i heq
      have hphase := h.phase
      rw [heq, hidle] at hphase
      have hrested := hphase.rested_of_nil
      rcases horderly with htraffic | -
      · exact .free (fun j hj => isControl_of_isTraffic (hbody htraffic j hj)) hrested
      · cases member with
        | startManual port reply => exact .starting port reply false hrested
        | startAsync port reply => exact .starting port reply true hrested
        | stop => exact .stopping hrested
        | poll =>
            refine .free (fun j hj => ?_) hrested
            simp only [ServerCall.body, List.mem_cons, List.not_mem_nil, or_false] at hj
            rcases hj with rfl | rfl <;> rfl
        | _ => exact .free (fun j hj => isControl_of_isTraffic (hbody rfl j hj)) hrested
    · exact h.phase
  · intro k' hk'
    rw [hafter] at hk'
    split at hk'
    · cases member <;> simp [ServerCall.body, getClientInfoBody] at hk'
    · exact h.looping k' hk'
  · intro hne
    rw [hafter, if_neg (ThreadId.network_ne k)] at hne
    exact h.threaded hne
  · intro u hu
    rw [hafter] at hu
    split at hu
    · rcases horderly with htraffic | ⟨-, hpoll⟩
      · cases hbody htraffic _ hu
      · cases member with
        | poll => exact h.group (hpoll rfl)
        | _ => simp [ServerCall.body, getClientInfoBody] at hu
    · exact h.receiving u hu

/-! ## Nobody waits for good -/

/-- **Nothing is left waiting**: where nothing in progress can go on, no call is in progress. -/
theorem KeepsGoing.allReturned (h : KeepsGoing main s) (hend : ∀ s', ¬ GoesOn s s') :
    AllReturned s := by
  -- a thread that need not wait is at the head of the network loop
  have hgo : ∀ u j more, s.code u = j :: more → s.Met j.demand →
      s.data.context.self.isRunning = true ∧ u = .network ∧ j = .whileRunning := by
    intro u j more hcode hmet
    have hround : NewRound s u := by
      by_contra hround
      obtain ⟨s', hstep⟩ := Threads.exists_step (L := serverLanguage κ) h.notFailed hcode hmet {}
      exact hend s' ⟨u, {}, ⟨orderly_nothing, hround⟩, hstep⟩
    obtain ⟨hrunning, more', hloop⟩ := hround
    obtain rfl := (List.cons.inj (hcode.symm.trans hloop)).1
    cases u with
    | network => exact ⟨hrunning, rfl, rfl⟩
    | application k =>
        refine absurd ?_ (h.looping k)
        rw [hcode]
        exact List.mem_cons_self
  -- so a mutex has no owner
  have howner : ¬ ∃ u j more, s.code u = j :: more ∧ s.Met ((serverLanguage κ).demand j)
      ∧ (((serverLanguage κ).demand j = .nothing ∧ (serverLanguage κ).plain j = true)
        ∨ ∃ m, (serverLanguage κ).demand j = .unlock m) := by
    rintro ⟨u, j, more, hcode, hmet, hkind⟩
    obtain ⟨-, -, rfl⟩ := hgo u j more hcode hmet
    rcases hkind with ⟨-, hplain⟩ | ⟨m, hm⟩
    · cases hplain
    · cases hm
  intro k
  cases hcode : s.code (.application k) with
  | nil => rfl
  | cons i rest =>
      exfalso
      rcases h.locked.ready_cases i.demand with hmet | hready | ⟨u, hjoin, hu⟩
      · obtain ⟨-, hnetwork, -⟩ := hgo _ i rest hcode hmet
        cases hnetwork
      · exact howner hready
      · -- `main` waits for the network thread, which is not waiting itself
        obtain ⟨rfl, rfl⟩ : i = .joinThread ∧ u = .network := by
          cases i with
          | joinThread => exact ⟨rfl, (Demand.join.inj hjoin).symm⟩
          | _ => cases hjoin
        have hmain : k = main := by
          by_contra hk
          have htraffic := h.others k hk .joinThread (by rw [hcode]; exact List.mem_cons_self)
          cases htraffic
        subst hmain
        have hidle : s.data.context.self.isRunning = false := by
          have hphase := h.phase
          rw [hcode] at hphase
          cases hphase with
          | free hfree => cases hfree _ List.mem_cons_self
          | joining hrunning => exact hrunning
        obtain ⟨j, more, hnetwork⟩ := List.exists_cons_of_ne_nil hu
        rcases h.locked.ready_cases j.demand with hmet | hready | ⟨v, hjoin', -⟩
        · rw [(hgo _ j more hnetwork hmet).1] at hidle
          cases hidle
        · exact howner hready
        · have hcontrol := h.network j (by rw [hnetwork]; exact List.mem_cons_self)
          cases j with
          | joinThread => cases hcontrol
          | _ => cases hjoin'

end

theorem keepsGoing_init (main : κ) (data connected disconnected : Bool) :
    KeepsGoing main (serverCalls κ (.withCallbacks data connected disconnected)).init where
  notFailed := rfl
  locked := fun _ => ⟨none, rfl, fun _ => ⟨(fun h => by cases h), fun h => by cases h⟩⟩
  others := fun _ _ _ hi => by cases hi
  network := fun _ hi => by cases hi
  phase := .free (fun _ hi => by cases hi) fun _ => rfl
  looping := fun _ hi => by cases hi
  threaded := fun hne => absurd rfl hne
  group := fun h => by cases h
  receiving := fun _ hi => by cases hi

/-- What happens in the program ends it at an erased entry, or keeps it going. -/
theorem keepsGoing_act {main : κ} {s s' : ServerThreads κ} {a : CallAction κ}
    (hstep : a.act s = some s') (h : s.fault = some .useAfterFree ∨ KeepsGoing main s)
    (horderly : a.Orderly main s) : s'.fault = some .useAfterFree ∨ KeepsGoing main s' := by
  cases a with
  | call k member =>
      rcases h with hfault | h
      · rw [(Threads.call_cases hstep).1] at hfault
        cases hfault
      · exact .inr (keepsGoing_call h horderly hstep)
  | step t answer =>
      rcases h with hfault | h
      · rw [(Threads.step_cases hstep).1] at hfault
        cases hfault
      · exact keepsGoing_step h horderly hstep

/-- While the network thread is in its loop and another thread broadcasts, the server is
stopped. -/
def stopWhileBroadcasting : List (CallAction Bool) :=
  [.call true (.startAsync 7000 { listenSocket := 1, pollGroup := 2 }), .step (.application true) {},
    .step (.application true) {}, .step .network {}, .call false (.broadcast [7] 1 true fun _ => true),
    .step (.application false) {}, .step .network {}, .call true .stop, .step (.application true) {}]

/-- In that run `main` waits for the network thread, and the broadcast holds the mutex. -/
example : ((serverCalls Bool (.withCallbacks true false false)).run
    (serverCalls Bool (.withCallbacks true false false)).init stopWhileBroadcasting).map
      (fun s => (s.owner (), (s.code (.application true)).length, (s.code .network).length,
        s.fault))
    = some (some (.application false), 4, 2, none) := by rfl

end KbNetworking
