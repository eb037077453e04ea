/-
# The slots that a poll touches

`poll` counts its slots with the result of `ReceiveMessagesOnPollGroup`, converted to `u32`.
For an invalid poll group the transport returns `-1` and fills no slot, and the loop starts
on a slot that holds nothing.

The poll group of a server is valid exactly while it runs, so `pollsFilledSlots_iff` can say
which polls are safe: in every state of every run, a poll touches filled slots only exactly
when its server runs.
-/
import KbNetworking.ServerSteps

namespace KbNetworking

open Cpp

namespace UdpServer

variable {ι : Type}

/-- `kb_server_poll`: a null pointer is ignored, and nothing else is looked at. -/
def kbServerPoll (server : Option (ServerContext ι)) (batch : Batch) :
    Checked (Option (ServerContext ι)) :=
  match server with
  | none => .ok none
  | some c => (pollBatch batch c).map some

/-- A poll for these messages touches the slots that were filled and no others: it does not
run into a slot without a message, and releases each filled slot once, whatever data
callback is set. -/
structure PollsFilledSlots (c : ServerContext ι) (batch : Batch) : Prop where
  poll : ∀ (ω : Type) (callback : Option (ClientInfo → List UInt8 → Checked (List ω))),
    (∀ call ∈ callback, ∀ client data, ∃ outputs, call client data = .ok outputs) →
      ∃ outputs, c.self.poll callback (receiveMessagesOnPollGroup c.self.pollGroup batch)
        = .ok { outputs := outputs, released := List.range batch.messages.length }
  kbServerPoll : ∃ c', kbServerPoll (some c) batch = .ok c'

/-! ## Valid and invalid poll groups -/

/-- A callback that returns makes the handling of every message return. -/
theorem exists_dispatchMessage {ω : Type} (clients : ClientTable)
    {callback : Option (ClientInfo → List UInt8 → Checked (List ω))}
    (h : ∀ call ∈ callback, ∀ client data, ∃ outputs, call client data = .ok outputs)
    (message : Message) : ∃ outputs, dispatchMessage clients callback message = .ok outputs := by
  cases callback with
  | none => exact ⟨[], rfl⟩
  | some call =>
      unfold dispatchMessage
      cases clients.find message.conn with
      | none => exact ⟨[], rfl⟩
      | some client => exact h call rfl client message.data

theorem userDataCallback_returns (self : UdpServer) :
    ∀ call ∈ self.userDataCallback, ∀ client data, ∃ outputs,
      call client data = .ok outputs := by
  intro call hcall client data
  unfold userDataCallback at hcall
  split at hcall
  · rw [← Option.some.inj hcall]
    exact ⟨_, rfl⟩
  · cases hcall

/-- With a valid poll group the loop goes through the filled slots. -/
theorem poll_of_valid {ω : Type} {self : UdpServer}
    {callback : Option (ClientInfo → List UInt8 → Checked (List ω))}
    (h : ∀ call ∈ callback, ∀ client data, ∃ outputs, call client data = .ok outputs)
    (hgroup : self.pollGroup ≠ kInvalidPollGroup) (batch : Batch) :
    ∃ outputs, self.poll callback (receiveMessagesOnPollGroup self.pollGroup batch)
      = .ok { outputs := outputs, released := List.range batch.messages.length } := by
  choose f hf using exists_dispatchMessage self.clients h
  rw [receiveMessagesOnPollGroup, if_neg hgroup]
  exact ⟨_, poll_batch self hf batch⟩

/-- With an invalid poll group the count is `2 ^ 32 - 1`, and the first slot is empty. -/
theorem poll_of_invalid {ω : Type} {self : UdpServer}
    (callback : Option (ClientInfo → List UInt8 → Checked (List ω)))
    (hgroup : self.pollGroup = kInvalidPollGroup) (batch : Batch) :
    self.poll callback (receiveMessagesOnPollGroup self.pollGroup batch)
      = .error .uninitialised := by
  have hcount : ((-1 : ℤ) % 2 ^ 32).toNat = 2 ^ 32 - 2 + 1 := by decide
  rw [receiveMessagesOnPollGroup, if_pos hgroup, poll]
  dsimp only
  rw [hcount, pollLoop]
  rfl

/-- A poll is safe exactly when the poll group is valid. -/
theorem pollsFilledSlots_iff_valid (c : ServerContext ι) (batch : Batch) :
    PollsFilledSlots c batch ↔ c.self.pollGroup ≠ kInvalidPollGroup := by
  constructor
  · intro h hgroup
    obtain ⟨outputs, hpoll⟩ := h.poll Unit none nofun
    rw [poll_of_invalid none hgroup] at hpoll
    cases hpoll
  · intro hgroup
    refine ⟨fun ω callback hcallback => poll_of_valid hcallback hgroup batch, ?_⟩
    obtain ⟨outputs, hpoll⟩ := poll_of_valid (userDataCallback_returns c.self) hgroup batch
    rw [UdpServer.kbServerPoll, pollBatch, hpoll]
    exact ⟨_, rfl⟩

/-! ## The poll group of a server -/

/-- Exactly a running server has a valid poll group. -/
def GroupMatches (self : UdpServer) : Prop :=
  self.isRunning = true ↔ self.pollGroup ≠ kInvalidPollGroup

theorem groupMatches_congr {self self' : UdpServer} (hrunning : self'.isRunning = self.isRunning)
    (hgroup : self'.pollGroup = self.pollGroup) (h : GroupMatches self) : GroupMatches self' := by
  unfold GroupMatches at h ⊢
  rw [hrunning, hgroup]
  exact h

/-- An attempt to start a server at rest. -/
theorem groupMatches_afterStart {self : UdpServer} (h : GroupMatches self)
    (hrest : self.isRunning = false) (port : UInt16) (reply : StartReply) :
    GroupMatches (afterStart port reply self) := by
  have hgroup : self.pollGroup = kInvalidPollGroup := by
    by_contra hne
    rw [h.mpr hne] at hrest
    cases hrest
  unfold GroupMatches afterStart startSucceeds
  by_cases hlisten : reply.listenSocket = kInvalidListenSocket <;> simp [hlisten, hgroup]

theorem groupMatches_afterStop {self : UdpServer} (h : GroupMatches self) :
    GroupMatches (afterStop self) := by
  unfold afterStop
  split
  · simp [GroupMatches]
  · exact h

theorem groupMatches_run {me : ι} {operation : ServerOperation} {c c' : ServerContext ι}
    (h : GroupMatches c.self) (hrun : operation.run me c = .ok c') : GroupMatches c'.self := by
  rcases ServerOperation.run_cases hrun with ⟨port, reply, thread, -, hrest, rfl⟩ | ⟨-, rfl⟩
      | ⟨conn, reason, -, rfl⟩ | ⟨hsame, -⟩
  · exact @groupMatches_congr (afterStart port reply c.self) _ rfl rfl
      (groupMatches_afterStart h hrest port reply)
  · rw [stop_eq]
    exact groupMatches_afterStop h
  · exact h
  · exact groupMatches_congr hsame.isRunning hsame.pollGroup h

theorem groupMatches_onConnectionStatusChanged {c : ServerContext ι} (h : GroupMatches c.self)
    (event : StatusEvent) (reply : AcceptReply) :
    GroupMatches (onConnectionStatusChanged event reply c).self := by
  rw [onConnectionStatusChanged_eq]
  unfold afterEvent
  dsimp only
  split <;> exact h

end UdpServer

/-! ## Runs -/

section Runs

variable {ι : Type} [DecidableEq ι]

/-- A poll of any server would touch filled slots only exactly when that server runs. -/
def PollsSafeWhenRunning (p : ServerProcess ι) : Prop :=
  ∀ i self, p.objects i = some self → ∀ batch,
    UdpServer.PollsFilledSlots (p.context self) batch ↔ self.isRunning = true

/-- If the step is a poll, it touches filled slots only. -/
def PollsInBounds (p : ServerProcess ι) : ServerAction ι → Prop
  | .call i (.poll batch) => ∀ self, p.objects i = some self →
      UdpServer.PollsFilledSlots (p.context self) batch
  | _ => True

/-- If the step is a poll, its server runs. -/
def PollsRunning (p : ServerProcess ι) : ServerAction ι → Prop
  | .call i (.poll _) => ∀ self, p.objects i = some self → self.isRunning = true
  | _ => True

omit [DecidableEq ι] in
theorem pollsInBounds_iff {p : ServerProcess ι} (h : PollsSafeWhenRunning p)
    (a : ServerAction ι) : PollsInBounds p a ↔ PollsRunning p a := by
  cases a with
  | call i operation =>
      cases operation with
      | poll batch => exact forall₂_congr fun self hself => h i self hself batch
      | _ => exact Iff.rfl
  | _ => exact Iff.rfl

/-- **Poll touches only filled slots** exactly while its server runs: this holds of every
server in every state of every run, and so the polls of a run are all safe exactly when each
is made on a running server. -/
theorem pollsFilledSlots_iff (as : List (ServerAction ι)) :
    (serverProcess ι).Always PollsSafeWhenRunning (serverProcess ι).init as
      ∧ ((serverProcess ι).EachStep (fun p a _ => PollsInBounds p a) (serverProcess ι).init as
        ↔ (serverProcess ι).EachStep (fun p a _ => PollsRunning p a)
            (serverProcess ι).init as) := by
  have hstep : ∀ p a p', (serverProcess ι).step p a = some p' →
      (∀ i self, p.objects i = some self → self.GroupMatches) →
        ∀ i self, p'.objects i = some self → self.GroupMatches := by
    intro p a p' hstep h
    refine ObjectClass.forall_objects_step hstep h ?_ ?_ ?_
    · simp [UdpServer.GroupMatches, serverClass]
    · exact fun _ _ _ _ hc hrun => UdpServer.groupMatches_run hc hrun
    · exact fun e _ hc => UdpServer.groupMatches_onConnectionStatusChanged hc e.1 e.2
  have hinit : ∀ i self, (serverProcess ι).init.objects i = some self → self.GroupMatches :=
    fun _ _ hself => nomatch hself
  have hsafe : ∀ p : ServerProcess ι,
      (∀ i self, p.objects i = some self → self.GroupMatches) → PollsSafeWhenRunning p := by
    intro p h i self hself batch
    exact (UdpServer.pollsFilledSlots_iff_valid _ batch).trans (h i self hself).symm
  refine ⟨(Machine.always_of_step hstep hinit as).mono hsafe, ?_⟩
  refine Machine.eachStep_iff_eachStep (fun p a p' h hI hok => ⟨hstep p a p' h hI, ?_⟩) ?_ hinit as
  · exact (pollsInBounds_iff (hsafe p hI) a).mpr hok
  · exact fun p a p' _ hI hR => (pollsInBounds_iff (hsafe p hI) a).mp hR

end Runs

/-- A server that was not started has an invalid poll group: its poll reads a slot that
nobody filled. -/
theorem not_pollsFilledSlots_unstarted :
    ¬ ∀ as, (serverProcess Unit).Always
      (fun p => ∀ self, p.objects () = some self → ∀ batch,
        UdpServer.PollsFilledSlots (p.context self) batch) (serverProcess Unit).init as := by
  intro h
  obtain ⟨-, hrun⟩ := h [.construct ()]
  have hsafe := hrun _ rfl {} rfl { messages := [], length_le := Nat.zero_le _ }
  exact (UdpServer.pollsFilledSlots_iff_valid _ _).mp hsafe rfl

end KbNetworking
