/-
# Safe use of the C interface

Nothing in the interface stops a program from using a structure that was freed, or from
polling a server that does not run.  `kbServer_safe_iff` proves that nothing else can go
wrong: a program runs without a fault exactly when it makes every call with a null pointer or
a pointer to a structure that was not freed, and polls a server only while
`kb_server_is_running` says so.

What the proof needs of the `UdpServer` objects is `SafeServers`: a server at rest has
neither a thread nor a poll group, and `s_instance` points to an object that exists.
-/
import KbNetworking.KbServer

namespace KbNetworking

open Cpp

/-! ## Member calls that fault -/

namespace UdpServer

variable {ι : Type}

/-- `start_async` of a server without a thread at rest returns. -/
theorem exists_startAsync {c : ServerContext ι} (hrested : c.self.Rested) (me : ι)
    (port : UInt16) (reply : StartReply) : ∃ r, startAsync me port reply c = .ok r := by
  rw [startAsync_eq]
  cases hrunning : c.self.isRunning with
  | true => exact ⟨_, rfl⟩
  | false =>
      rw [Thread.assign_of_not_joinable (hrested hrunning)]
      cases startSucceeds reply <;> exact ⟨_, rfl⟩

theorem rested_run {me : ι} {operation : ServerOperation} {c c' : ServerContext ι}
    (h : c.self.Rested) (hrun : operation.run me c = .ok c') : c'.self.Rested := by
  by_cases hstarts : operation.starts c.self = true
  · obtain ⟨d, hd, -, hrunning⟩ := ServerOperation.run_of_starts me h hstarts
    obtain rfl := Except.ok.inj (hd.symm.trans hrun)
    intro hidle
    rw [hrunning] at hidle
    cases hidle
  · by_cases hstop : operation.isStop = true
    · obtain rfl := Except.ok.inj ((ServerOperation.run_of_isStop hstop).symm.trans hrun)
      exact fun _ => (stop_lifecycle h).2.2
    · have hsame := ServerOperation.run_of_neither hrun (by simpa using hstarts)
        (by simpa using hstop)
      exact hsame.rested h

end UdpServer

def ServerOperation.isPoll : ServerOperation → Bool
  | .poll _ => true
  | _ => false

/-- The only member call that can fault is a poll, and it does when the server is at rest. -/
theorem ServerOperation.run_error_iff {ι : Type} {me : ι} {operation : ServerOperation}
    {c : ServerContext ι} (hrested : c.self.Rested) (hgroup : c.self.GroupMatches) :
    (∃ e, operation.run me c = .error e)
      ↔ operation.isPoll = true ∧ c.self.isRunning = false := by
  cases operation with
  | poll batch =>
      constructor
      · rintro ⟨e, he⟩
        refine ⟨rfl, ?_⟩
        by_contra hrunning
        have hvalid := hgroup.mp (by simpa using hrunning)
        obtain ⟨c', hc'⟩ := ((UdpServer.pollsFilledSlots_iff_valid c batch).mpr hvalid).kbServerPoll
        have hpoll : UdpServer.pollBatch batch c = .error e := he
        rw [UdpServer.kbServerPoll, hpoll] at hc'
        cases hc'
      · rintro ⟨-, hidle⟩
        have hinvalid : c.self.pollGroup = kInvalidPollGroup := by
          by_contra hvalid
          rw [hgroup.mpr hvalid] at hidle
          cases hidle
        refine ⟨.uninitialised, ?_⟩
        rw [run, UdpServer.pollBatch, UdpServer.poll_of_invalid _ hinvalid]
        rfl
  | startAsync port reply =>
      obtain ⟨r, hr⟩ := UdpServer.exists_startAsync hrested me port reply
      rw [run, hr]
      simp [isPoll, Except.map]
  | _ => simp [run, isPoll]

/-! ## The objects -/

/-- No fault so far; every server at rest has no thread and no poll group, and the pointer
points to an object that exists. -/
structure SafeServers {ι : Type} (p : ServerProcess ι) : Prop where
  notFailed : p.fault = none
  rested : ∀ i self, p.objects i = some self → self.Rested
  group : ∀ i self, p.objects i = some self → self.GroupMatches
  pointer : ∀ i, p.sInstance = some i → ∃ self, p.objects i = some self

/-- The step is no poll of a server at rest. -/
def PollsOnlyRunning {ι : Type} (p : ServerProcess ι) : ServerAction ι → Prop
  | .call i operation => ∀ self, p.objects i = some self → operation.isPoll = true →
      self.isRunning = true
  | _ => True

section

variable {ι : Type} [DecidableEq ι] {p p' : ServerProcess ι}

theorem safeServers_put (h : SafeServers p) {i : ι} {c : ServerContext ι}
    (hrested : c.self.Rested) (hgroup : c.self.GroupMatches)
    (hpointer : c.sInstance = some i ∨ c.sInstance = p.sInstance ∨ c.sInstance = none) :
    SafeServers (p.put i c) where
  notFailed := h.notFailed
  rested := Process.forall_objects_put (P := fun _ => UdpServer.Rested) hrested
    fun j self _ => h.rested j self
  group := Process.forall_objects_put (P := fun _ => UdpServer.GroupMatches) hgroup
    fun j self _ => h.group j self
  pointer := by
    intro j hj
    rw [Process.put_sInstance] at hj
    rcases hpointer with hself | hsame | hnone
    · rw [hself, Option.some.injEq] at hj
      subst hj
      exact ⟨_, Process.put_objects_self p i c⟩
    · rw [hsame] at hj
      exact KbProcess.exists_object_put c (h.pointer j hj)
    · rw [hnone] at hj
      cases hj

omit [DecidableEq ι] in
/-- A member call leaves the pointer, clears it, or points it to its own object. -/
theorem sInstance_run {me : ι} {operation : ServerOperation} {c c' : ServerContext ι}
    (hrun : operation.run me c = .ok c') :
    c'.sInstance = some me ∨ c'.sInstance = c.sInstance ∨ c'.sInstance = none := by
  rcases ServerOperation.run_cases hrun with ⟨port, reply, thread, -, -, rfl⟩ | ⟨-, rfl⟩
      | ⟨conn, reason, -, rfl⟩ | ⟨hsame, -⟩
  · dsimp only
    split
    · exact .inl rfl
    · exact .inr (.inl rfl)
  · rw [UdpServer.stop_eq]
    exact .inr (.inr rfl)
  · exact .inr (.inl rfl)
  · exact .inr (.inl hsame.sInstance)

/-- The objects stay safe, unless a server at rest is polled. -/
theorem safeServers_step {a : ServerAction ι} (hstep : (serverProcess ι).step p a = some p')
    (h : SafeServers p) (hpolls : PollsOnlyRunning p a) : SafeServers p' := by
  rcases ObjectClass.step_cases hstep with
      ⟨-, ⟨i, rfl, -, rfl⟩ | ⟨i, self, c, rfl, hself, hc, rfl⟩ | ⟨i, self, e, rfl, hself, he, rfl⟩
      | ⟨i, operation, self, c, rfl, hself, hc, rfl⟩
      | ⟨i, operation, self, e, rfl, hself, he, rfl⟩ | ⟨e, rfl, rfl⟩⟩
  · refine safeServers_put h ?_ ?_ (.inr (.inl rfl))
    · exact fun _ => rfl
    · simp [UdpServer.GroupMatches, serverClass]
  -- the destructor clears the pointer
  · obtain rfl := UdpServer.destroy_eq_ok hc
    refine ⟨h.notFailed, ?_, ?_, ?_⟩
    · intro j other hother
      obtain ⟨hj, hother⟩ := Process.of_remove_objects hother
      rw [Process.put_objects_of_ne _ _ hj] at hother
      exact h.rested j other hother
    · intro j other hother
      obtain ⟨hj, hother⟩ := Process.of_remove_objects hother
      rw [Process.put_objects_of_ne _ _ hj] at hother
      exact h.group j other hother
    · intro j hj
      rw [Process.remove_sInstance, Process.put_sInstance, UdpServer.stop_eq] at hj
      cases hj
  · have hrested : (p.context self).self.Rested := h.rested i self hself
    cases (UdpServer.destroy_of_rested hrested).symm.trans he
  · exact safeServers_put h (UdpServer.rested_run (h.rested i self hself) hc)
      (UdpServer.groupMatches_run (h.group i self hself) hc) (sInstance_run hc)
  · obtain ⟨hpoll, hidle⟩ := (ServerOperation.run_error_iff (c := p.context self)
      (h.rested i self hself) (h.group i self hself)).mp ⟨e, he⟩
    rw [Process.context_self, hpolls self hself hpoll] at hidle
    cases hidle
  · rw [serverClass]
    cases hinstance : p.sInstance with
    | none =>
        rw [Process.throughInstance_of_none hinstance]
        exact h
    | some i =>
        obtain ⟨self, hself⟩ := h.pointer i hinstance
        rw [Process.throughInstance_of_some hinstance hself]
        have hsame := UdpServer.sameLifecycle_onConnectionStatusChanged e.1 e.2 (p.context self)
        refine safeServers_put h (hsame.rested (h.rested i self hself)) ?_
          (.inr (.inl hsame.sInstance))
        exact UdpServer.groupMatches_onConnectionStatusChanged (h.group i self hself) e.1 e.2

end

/-! ## Programs -/

namespace KbProcess

variable {κ ι : Type}

/-- The call is made with a null pointer or with a pointer to a structure that was not freed,
and a poll only of a server that runs. -/
def CallAllowed (s : KbProcess κ ι) : KbAction κ ι → Prop
  | .call (some k) (.poll _) => s.kbServerIsRunning (some k) = .ok true
  | .call (some k) _ => (s.handles k).isSome = true
  | _ => True

theorem isRunning_of_kbServerIsRunning {s : KbProcess κ ι} {k : κ}
    (h : s.kbServerIsRunning (some k) = .ok true) :
    ∃ server self, s.handles k = some server ∧ s.servers.objects server.impl = some self
      ∧ self.isRunning = true := by
  unfold kbServerIsRunning at h
  obtain ⟨server, hderef, h⟩ := bind_eq_ok.mp h
  obtain ⟨self, hself, h⟩ := bind_eq_ok.mp h
  refine ⟨server, self, ?_, ?_, Except.ok.inj h⟩
  · unfold deref at hderef
    cases hhandle : s.handles k with
    | none =>
        rw [hhandle] at hderef
        cases hderef
    | some server' =>
        rw [hhandle] at hderef
        rw [Except.ok.inj hderef]
  · unfold derefImpl at hself
    cases hobject : s.servers.objects server.impl with
    | none =>
        rw [hobject] at hself
        cases hself
    | some self' =>
        rw [hobject] at hself
        rw [Except.ok.inj hself]

theorem CallAllowed.callsLive {s : KbProcess κ ι} {a : KbAction κ ι} (h : CallAllowed s a) :
    CallsLive s a := by
  cases a with
  | call pServer function =>
      cases pServer with
      | none => trivial
      | some k =>
          cases function with
          | poll batch =>
              obtain ⟨server, -, hhandle, -⟩ := isRunning_of_kbServerIsRunning h
              rw [CallsLive, hhandle]
              rfl
          | _ => exact h
  | _ => trivial

variable [DecidableEq κ] [DecidableEq ι] {s s' : KbProcess κ ι}

omit [DecidableEq κ] [DecidableEq ι] in
/-- What an allowed step does to the objects polls no server at rest. -/
theorem pollsOnlyRunning_serverActions {a : KbAction κ ι} (h : CallAllowed s a)
    (b : ServerAction ι) (hb : b ∈ serverActions s a) : PollsOnlyRunning s.servers b := by
  cases a with
  | call pServer function =>
      cases hhandle : pServer.bind s.handles with
      | none =>
          rw [serverActions, hhandle] at hb
          cases hb
      | some server =>
          rw [serverActions, hhandle] at hb
          obtain ⟨k, rfl, hk⟩ := Option.bind_eq_some_iff.mp hhandle
          cases function with
          | poll batch =>
              obtain rfl := List.mem_singleton.mp hb
              obtain ⟨server', self', hk', hself', hrunning⟩ := isRunning_of_kbServerIsRunning h
              obtain rfl := Option.some.inj (hk.symm.trans hk')
              intro self hself _
              obtain rfl := Option.some.inj (hself'.symm.trans hself)
              exact hrunning
          | isRunning | port => cases hb
          | _ =>
              obtain rfl := List.mem_singleton.mp hb
              first | trivial | exact fun _ _ hpoll => Bool.noConfusion hpoll
  | _ =>
      obtain rfl := List.mem_singleton.mp hb
      trivial

omit [DecidableEq κ] [DecidableEq ι] in
theorem length_serverActions_le (s : KbProcess κ ι) (a : KbAction κ ι) :
    (serverActions s a).length ≤ 1 := by
  cases a with
  | call pServer function =>
      rw [serverActions]
      cases pServer.bind s.handles with
      | none => exact Nat.zero_le 1
      | some server => cases function <;> simp [serverCalls, KbFunction.operation]
  | _ => exact le_rfl

/-- No fault so far, every structure owns an object of its own, and the objects are safe. -/
structure Safe (s : KbProcess κ ι) : Prop where
  owned : Owned s
  servers : SafeServers s.servers

theorem safe_step {a : KbAction κ ι} (hstep : s.step a = some s') (h : Safe s)
    (hallowed : CallAllowed s a) : Safe s' := by
  obtain ⟨hserver, howned⟩ := step_simulated hstep h.owned hallowed.callsLive
  refine ⟨howned, ?_⟩
  have hpolls := pollsOnlyRunning_serverActions hallowed
  have hshort := length_serverActions_le s a
  cases hactions : serverActions s a with
  | nil =>
      rw [hactions, Machine.run_nil, Option.some.injEq] at hserver
      exact hserver ▸ h.servers
  | cons b bs =>
      have hnil : bs = [] := by
        rw [hactions, List.length_cons] at hshort
        exact List.length_eq_zero_iff.mp (by omega)
      rw [hactions, hnil, Machine.run_cons, Option.bind_eq_some_iff] at hserver
      obtain ⟨p, hstep', hp⟩ := hserver
      obtain rfl := Option.some.inj hp
      exact safeServers_step hstep' h.servers (hpolls b (by rw [hactions]; simp))

/-- A call that is not allowed is a fault. -/
theorem fault_of_not_allowed {a : KbAction κ ι} (hstep : s.step a = some s') (h : Safe s)
    (hbad : ¬ CallAllowed s a) : s'.servers.fault ≠ none := by
  cases a with
  | call pServer function =>
      cases pServer with
      | none => exact absurd trivial hbad
      | some k =>
          have herror : ∃ e, s.call (some k) function = .error e := by
            cases hhandle : s.handles k with
            | none => exact ⟨_, call_of_freed hhandle function⟩
            | some server =>
                obtain ⟨self, hself⟩ := h.owned.exists_object k server hhandle
                cases function with
                | poll batch =>
                    have hidle : self.isRunning = false := by
                      by_contra hrunning
                      refine hbad ?_
                      rw [CallAllowed, kbServerIsRunning, deref_of_some hhandle, ok_bind,
                        derefImpl_of_some hself, ok_bind]
                      simpa using hrunning
                    have herror : ∃ e, (ServerOperation.poll batch).run server.impl
                        (s.servers.context self) = .error e :=
                      (ServerOperation.run_error_iff (h.servers.rested _ self hself)
                        (h.servers.group _ self hself)).mpr ⟨rfl, hidle⟩
                    obtain ⟨e, he⟩ := herror
                    exact ⟨e, call_of_error hhandle hself rfl he⟩
                | _ => exact absurd (Option.isSome_iff_exists.mpr ⟨server, hhandle⟩) hbad
          obtain ⟨e, he⟩ := herror
          rw [step_call_eq h.servers.notFailed, he] at hstep
          obtain rfl := Option.some.inj hstep
          exact Option.some_ne_none e
  | _ => exact absurd trivial hbad

end KbProcess

/-- **A program is safe exactly when its calls are allowed**: no run of a program comes to a
fault unless it uses a structure that was freed, or polls a server that does not run. -/
theorem kbServer_safe_iff {κ ι : Type} [DecidableEq κ] [DecidableEq ι]
    (as : List (KbAction κ ι)) :
    (kbProcess κ ι).Always (fun s => s.servers.fault = none) (kbProcess κ ι).init as
      ↔ (kbProcess κ ι).EachStep (fun s a _ => s.CallAllowed a) (kbProcess κ ι).init as := by
  have hinit : KbProcess.Safe (kbProcess κ ι).init :=
    ⟨⟨nofun, nofun⟩, ⟨rfl, nofun, nofun, nofun⟩⟩
  refine Machine.always_iff_eachStep (I := KbProcess.Safe) ?_ ?_ ?_ hinit as
  · exact fun s h => h.servers.notFailed
  · exact fun s a s' hstep h hallowed => KbProcess.safe_step hstep h hallowed
  · exact fun s a s' hstep h hbad => KbProcess.fault_of_not_allowed hstep h hbad

end KbNetworking
