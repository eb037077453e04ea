/-
# The sockets of the only server

A start opens a listen socket and a poll group, in this order, and `stop` closes both.
`stop` looks at `m_is_running` first, and a start that fails clears it: a start that gets a
listen socket and no poll group leaves the socket open with nobody to close it.

`socketsOwned_iff` proves that this is the only leak: along a run what is open is what the
server names, nothing is open while no server runs, and every stop closes each once, exactly
when no start gets a listen socket without a poll group.
-/
import KbNetworking.Lib.Ledger
import KbNetworking.ServerSteps

namespace KbNetworking

open Cpp

/-! ## What is open -/

/-- What a server opens on the transport. -/
inductive ServerResource : Type where
  | listenSocket (socket : ListenSocket)
  | pollGroup (group : PollGroup)
  deriving DecidableEq, Repr

/-- The call opens the resource; a creation that fails returns the invalid handle. -/
def ServerEffect.opens : ServerEffect → ServerResource → Bool
  | .createListenSocketIP _ socket, .listenSocket s =>
      socket == s && socket != kInvalidListenSocket
  | .createPollGroup group, .pollGroup g => group == g && group != kInvalidPollGroup
  | _, _ => false

/-- The call closes the resource. -/
def ServerEffect.shuts : ServerEffect → ServerResource → Bool
  | .closeListenSocket socket, .listenSocket s => socket == s
  | .destroyPollGroup group, .pollGroup g => group == g
  | _, _ => false

/-- The resource was opened and not closed since. -/
def opened (trace : List ServerEffect) (r : ServerResource) : Bool :=
  Ledger.live ServerEffect.opens ServerEffect.shuts trace r

/-- The resource is named by `m_listen_socket` or `m_poll_group`. -/
def UdpServer.names (self : UdpServer) : ServerResource → Bool
  | .listenSocket s => self.listenSocket == s && self.listenSocket != kInvalidListenSocket
  | .pollGroup g => self.pollGroup == g && self.pollGroup != kInvalidPollGroup

/-- Entries that are no creations and no closings of resources. -/
theorem opened_append_of_unrelated {trace xs : List ServerEffect} {r : ServerResource}
    (h : ∀ x ∈ xs, x.opens r = false ∧ x.shuts r = false) :
    opened (trace ++ xs) r = opened trace r :=
  Ledger.live_append_of_unrelated h

theorem opened_concat (trace : List ServerEffect) (x : ServerEffect) (r : ServerResource) :
    opened (trace ++ [x]) r = if x.shuts r then false else opened trace r || x.opens r :=
  Ledger.live_concat trace x r

namespace UdpServer

/-! ## What the member functions open and close -/

/-- After a start of a server at rest that names no poll group, the server names what is
open. -/
theorem opened_startCalls {trace : List ServerEffect} (port : UInt16) (reply : StartReply)
    {self : UdpServer} (hgroup : self.pollGroup = kInvalidPollGroup)
    (hclosed : ∀ r, opened trace r = false) (r : ServerResource) :
    opened (trace ++ startCalls port reply) r = (afterStart port reply self).names r := by
  unfold startCalls afterStart
  by_cases hlisten : reply.listenSocket = kInvalidListenSocket
  · rw [if_pos hlisten, if_pos hlisten, opened_concat, hclosed]
    cases r <;> simp [names, ServerEffect.opens, ServerEffect.shuts, hlisten, hgroup]
  · rw [if_neg hlisten, if_neg hlisten, List.append_cons, opened_concat, opened_concat, hclosed]
    cases r <;> simp [names, ServerEffect.opens, ServerEffect.shuts]

/-- A start that fails without a listen socket, and a start that succeeds: the server names
something exactly when it runs. -/
theorem names_afterStart_of_fails {port : UInt16} {reply : StartReply} {self : UdpServer}
    (hgroup : self.pollGroup = kInvalidPollGroup) (hfails : startSucceeds reply = false)
    (hhalf : reply.listenSocket ≠ kInvalidListenSocket → reply.pollGroup ≠ kInvalidPollGroup)
    (r : ServerResource) : (afterStart port reply self).names r = false := by
  have hlisten : reply.listenSocket = kInvalidListenSocket := by
    by_contra hne
    simp [startSucceeds, hne, hhalf hne] at hfails
  cases r <;> simp [names, afterStart, hlisten, hgroup]

/-- The closing calls close what the server names, each resource once. -/
theorem countP_shutCalls (self : UdpServer) (r : ServerResource) :
    (shutCalls self).countP (·.shuts r) = if self.names r then 1 else 0 := by
  unfold shutCalls
  by_cases hlisten : self.listenSocket = kInvalidListenSocket <;>
    by_cases hgroup : self.pollGroup = kInvalidPollGroup <;>
      cases r <;>
        simp [List.countP_cons, names, ServerEffect.shuts, hlisten, hgroup]

theorem opens_shutCalls (self : UdpServer) (r : ServerResource) :
    ∀ x ∈ shutCalls self, x.opens r = false := by
  unfold shutCalls
  split <;> split <;> simp [ServerEffect.opens]

theorem opened_shutCalls {trace : List ServerEffect} {self : UdpServer} {r : ServerResource}
    (hnamed : opened trace r = self.names r) :
    opened (trace ++ shutCalls self) r = false := by
  have hany : (shutCalls self).any (·.shuts r) = self.names r := by
    have hcount := countP_shutCalls self r
    cases hnames : self.names r with
    | true =>
        rw [hnames, if_pos rfl] at hcount
        exact List.any_eq_true.mpr (List.countP_pos_iff.mp (by omega))
    | false =>
        rw [hnames, if_neg Bool.false_ne_true] at hcount
        exact List.any_eq_false.mpr fun x hx => List.countP_eq_zero.mp hcount x hx
  unfold opened at hnamed ⊢
  rw [Ledger.live_append_of_not_acquired (opens_shutCalls self r), hany, hnamed,
    Bool.and_not_self]

/-- The closings of the clients open and close no resource. -/
theorem closeClients_unrelated (self : UdpServer) (r : ServerResource) :
    ∀ x ∈ self.clients.keys.map (ServerEffect.closeConnection .stop),
      x.opens r = false ∧ x.shuts r = false := by
  intro x hx
  obtain ⟨conn, -, rfl⟩ := List.mem_map.mp hx
  exact ⟨rfl, rfl⟩

/-- No status event opens or closes a resource. -/
theorem eventCalls_unrelated (event : StatusEvent) (reply : AcceptReply) (self : UdpServer)
    (r : ServerResource) :
    ∀ x ∈ eventCalls event reply self, x.opens r = false ∧ x.shuts r = false := by
  intro x hx
  rcases mem_eventCalls hx with ⟨client, -, rfl⟩ | ⟨-, rfl⟩ | ⟨accepted, rfl⟩ | ⟨assigned, rfl, -⟩
      | rfl | rfl | ⟨client, -, rfl⟩ <;> exact ⟨rfl, rfl⟩

/-! ## What the member functions keep -/

/-- What is open is what the server names, and a server at rest names nothing. -/
structure OwnsResources (c : ServerContext Unit) : Prop where
  named : ∀ r, opened c.trace r = c.self.names r
  idle : c.self.isRunning = false → ∀ r, c.self.names r = false

theorem names_congr {self self' : UdpServer} (hlisten : self'.listenSocket = self.listenSocket)
    (hgroup : self'.pollGroup = self.pollGroup) (r : ServerResource) :
    self'.names r = self.names r := by
  unfold names
  rw [hlisten, hgroup]

/-- A server that names no poll group has the invalid one. -/
theorem pollGroup_of_names {self : UdpServer} (h : ∀ r, self.names r = false) :
    self.pollGroup = kInvalidPollGroup := by
  simpa [names] using h (.pollGroup self.pollGroup)

/-- Entries that open and close nothing, on a server that keeps its handles. -/
theorem OwnsResources.of_unrelated {c c' : ServerContext Unit} (h : OwnsResources c)
    {xs : List ServerEffect} (htrace : c'.trace = c.trace ++ xs)
    (hxs : ∀ r, ∀ x ∈ xs, x.opens r = false ∧ x.shuts r = false)
    (hlisten : c'.self.listenSocket = c.self.listenSocket)
    (hgroup : c'.self.pollGroup = c.self.pollGroup)
    (hrunning : c'.self.isRunning = c.self.isRunning) : OwnsResources c' where
  named := by
    intro r
    rw [htrace, opened_append_of_unrelated (hxs r), h.named, names_congr hlisten hgroup]
  idle := by
    intro hidle r
    rw [hrunning] at hidle
    rw [names_congr hlisten hgroup]
    exact h.idle hidle r

/-- A stopped server has closed everything. -/
theorem opened_stop {c : ServerContext Unit} (h : OwnsResources c) (r : ServerResource) :
    opened (stop c).trace r = false := by
  rw [stop_eq]
  unfold stopCalls
  dsimp only
  split
  · rw [← List.append_assoc]
    refine opened_shutCalls ?_
    rw [opened_append_of_unrelated (closeClients_unrelated c.self r), h.named]
  · rename_i hrunning
    rw [List.append_nil, h.named]
    exact h.idle (by simpa using hrunning) r

theorem ownsResources_stop {c : ServerContext Unit} (h : OwnsResources c) :
    OwnsResources (stop c) := by
  have hnames : ∀ r, (stop c).self.names r = false := by
    intro r
    rw [stop_eq]
    unfold afterStop
    dsimp only
    split
    · cases r <;> simp [names]
    · rename_i hrunning
      exact h.idle (by simpa using hrunning) r
  exact ⟨fun r => (opened_stop h r).trans (hnames r).symm, fun _ => hnames⟩

/-- The closings of `stop` on a running server: each open resource once. -/
theorem countP_stopCalls {c : ServerContext Unit} (h : OwnsResources c)
    (hrunning : c.self.isRunning = true) (r : ServerResource) :
    (stopCalls c.self).countP (·.shuts r) = if opened c.trace r then 1 else 0 := by
  have hclients : (c.self.clients.keys.map (ServerEffect.closeConnection .stop)).countP
      (·.shuts r) = 0 := by
    refine List.countP_eq_zero.mpr fun x hx => ?_
    simp [(closeClients_unrelated c.self r x hx).2]
  rw [stopCalls, if_pos hrunning, List.countP_append, hclients, countP_shutCalls, h.named,
    Nat.zero_add]

/-- An attempt to start a server at rest, unless it gets a listen socket without a poll
group. -/
theorem ownsResources_start {c c' : ServerContext Unit} (h : OwnsResources c)
    (hrest : c.self.isRunning = false) {port : UInt16} {reply : StartReply}
    (hhalf : reply.listenSocket ≠ kInvalidListenSocket → reply.pollGroup ≠ kInvalidPollGroup)
    {thread : Thread}
    (hself : c'.self = { afterStart port reply c.self with networkThread := thread })
    (htrace : c'.trace = c.trace ++ startCalls port reply) : OwnsResources c' := by
  have hgroup := pollGroup_of_names (h.idle hrest)
  have hnames : ∀ r, c'.self.names r = (afterStart port reply c.self).names r := by
    intro r
    rw [hself]
    exact names_congr rfl rfl r
  constructor
  · intro r
    rw [htrace, hnames]
    exact opened_startCalls port reply hgroup (fun r => (h.named r).trans (h.idle hrest r)) r
  · intro hidle r
    rw [hself] at hidle
    rw [hnames]
    exact names_afterStart_of_fails hgroup hidle hhalf r

end UdpServer

/-! ## Runs of the only server -/

/-- The resources that are open are the ones that the server names, and none while it does
not run, as after a start that failed, after `stop` and after the destructor. -/
def SocketsOwned (p : ServerProcess Unit) : Prop :=
  p.Sole UdpServer.OwnsResources fun _ trace => ∀ r, opened trace r = false

/-- A `stop` or a destructor of a running server closes each open resource exactly once. -/
def StopClosesOnce (p : ServerProcess Unit) (a : ServerAction Unit) (p' : ServerProcess Unit) :
    Prop :=
  a = .call () .stop ∨ a = .destroy () →
    ∀ self, p.objects () = some self → self.isRunning = true →
      ∃ xs, p'.trace = p.trace ++ xs
        ∧ ∀ r, xs.countP (·.shuts r) = if opened p.trace r then 1 else 0

/-- The step is no start of a server at rest that gets a listen socket and no poll group. -/
def NoHalfStart (p : ServerProcess Unit) : ServerAction Unit → Prop
  | .call _ operation => ∀ self reply, p.objects () = some self → self.isRunning = false →
      operation.startReply = some reply →
        reply.listenSocket ≠ kInvalidListenSocket → reply.pollGroup ≠ kInvalidPollGroup
  | _ => True

variable {p p' : ServerProcess Unit} {a : ServerAction Unit}

theorem socketsOwned_step (hstep : (serverClass Unit).step p a = some p') (h : SocketsOwned p)
    (hok : NoHalfStart p a) : SocketsOwned p' := by
  refine ObjectClass.sole_step hstep h ?_ ?_ ?_ ?_
  -- a new server names nothing
  · intro hnone
    have hnames : ∀ r, ({} : UdpServer).names r = false := by
      intro r
      cases r <;> simp [UdpServer.names]
    exact ⟨fun r => (hnone r).trans (hnames r).symm, fun _ => hnames⟩
  · intro self c _ _ howns hc r
    rw [UdpServer.destroy_eq_ok hc]
    exact UdpServer.opened_stop howns r
  · intro operation self c ha hself howns hc
    rcases ServerOperation.run_cases hc with ⟨port, reply, thread, hreply, hrest, rfl⟩
        | ⟨-, rfl⟩ | ⟨conn, reason, -, rfl⟩ | ⟨hsame, -⟩
    · subst ha
      exact UdpServer.ownsResources_start howns hrest (hok self reply hself hrest hreply) rfl rfl
    · exact UdpServer.ownsResources_stop howns
    · have htrace : (UdpServer.disconnect conn reason (p.context self)).trace
          = (p.context self).trace ++ [.closeConnection (.disconnect reason) conn] := rfl
      refine howns.of_unrelated htrace ?_ rfl rfl rfl
      intro r x hx
      rw [List.mem_singleton.mp hx]
      exact ⟨rfl, rfl⟩
    · obtain ⟨xs, htrace, hxs⟩ := hsame.trace
      refine howns.of_unrelated htrace ?_ hsame.listenSocket hsame.pollGroup hsame.isRunning
      intro r x hx
      have htraffic := hxs x hx
      cases x <;> first | exact ⟨rfl, rfl⟩ | cases htraffic
  · intro e self _ _ _ howns
    show UdpServer.OwnsResources (UdpServer.onConnectionStatusChanged e.1 e.2 _)
    rw [UdpServer.onConnectionStatusChanged_eq]
    refine howns.of_unrelated rfl (UdpServer.eventCalls_unrelated e.1 e.2 self) ?_ ?_ ?_ <;>
      · unfold UdpServer.afterEvent
        dsimp only
        split <;> rfl

theorem stopClosesOnce_step (hstep : (serverClass Unit).step p a = some p')
    (h : SocketsOwned p) : StopClosesOnce p a p' := by
  intro ha self hself hrunning
  exact ⟨UdpServer.stopCalls self, trace_of_stop hstep ha hself hrunning,
    UdpServer.countP_stopCalls (h.of_some hself) hrunning⟩

/-- A start that gets a listen socket and no poll group leaves the socket open on a server at
rest. -/
theorem not_socketsOwned_of_halfStart (hstep : (serverClass Unit).step p a = some p')
    (hno : ¬ NoHalfStart p a) : ¬ SocketsOwned p' := by
  cases a with
  | call i operation =>
      simp only [NoHalfStart, not_forall, not_not] at hno
      obtain ⟨self, reply, hself, hrest, hreply, hlisten, hgroup⟩ := hno
      have hfails : UdpServer.startSucceeds reply = false := by
        simp [UdpServer.startSucceeds, hgroup]
      obtain ⟨c', hc'⟩ := ServerOperation.run_of_start_fails () (p.context self) hreply hfails
      obtain ⟨self', hself', hcall⟩ := ObjectClass.step_call hstep
      obtain rfl := Option.some.inj (hself.symm.trans hself')
      rcases hcall with ⟨c, hc, rfl⟩ | ⟨e, he, -⟩
      · rcases ServerOperation.run_cases hc with ⟨port, reply', thread, hreply', -, rfl⟩
            | ⟨rfl, -⟩ | ⟨conn, reason, rfl, -⟩ | ⟨-, hrunning⟩
        · obtain rfl := Option.some.inj (hreply.symm.trans hreply')
          intro howned
          have howns : UdpServer.OwnsResources _ :=
            howned.of_some (Process.put_objects_self p () _)
          have hnone := howns.idle hfails (.listenSocket reply.listenSocket)
          simp [UdpServer.names, UdpServer.afterStart, hlisten] at hnone
        · cases hreply
        · cases hreply
        · rw [Process.context_self, hrest] at hrunning
          cases hrunning reply hreply
      · cases hc'.symm.trans he
  | _ => exact absurd trivial hno

/-- **Socket ownership and clean failure**: along a run of the only server what is open is
what the server names, nothing is open while no server runs, and every stop closes each
resource once, exactly when no start of a server at rest gets a listen socket and no poll
group. -/
theorem socketsOwned_iff (as : List (ServerAction Unit)) :
    ((serverProcess Unit).Always SocketsOwned (serverProcess Unit).init as
        ∧ (serverProcess Unit).EachStep StopClosesOnce (serverProcess Unit).init as)
      ↔ (serverProcess Unit).EachStep (fun p a _ => NoHalfStart p a)
          (serverProcess Unit).init as := by
  have hinit : SocketsOwned (serverProcess Unit).init := fun _ => rfl
  refine Machine.always_and_eachStep_iff (M := serverProcess Unit) (fun _ h => h)
    (fun p a p' hstep h hok => ⟨socketsOwned_step hstep h hok, stopClosesOnce_step hstep h⟩)
    (fun p a p' hstep _ howned _ => ?_) hinit as
  by_contra hno
  exact not_socketsOwned_of_halfStart hstep hno howned

/-- The listen socket of a start that gets no poll group stays open. -/
theorem not_socketsOwned_half_start :
    ¬ ∀ as, (serverProcess Unit).Always SocketsOwned (serverProcess Unit).init as
      ∧ (serverProcess Unit).EachStep StopClosesOnce (serverProcess Unit).init as := by
  intro h
  obtain ⟨⟨-, hrun⟩, -⟩ := h [.construct (),
    .call () (.startManual 7000 { listenSocket := 1, pollGroup := kInvalidPollGroup })]
  obtain ⟨-, hrun⟩ := hrun _ rfl
  have howned : SocketsOwned _ := hrun _ rfl
  have hnone := howned.idle rfl (.listenSocket 1)
  revert hnone
  decide

end KbNetworking
