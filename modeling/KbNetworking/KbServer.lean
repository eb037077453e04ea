/-
# The C interface to the server

`kb_server.cpp`: a `kb_server_t *` points to a structure that owns a `UdpServer`.  Every
function checks the pointer for null, and then calls the member function of the same name;
`kb_server_destroy` stops the server, runs its destructor and frees the structure.

* A pointer is a structure on the heap or null; a pointer to a structure that was freed is a
  fault.  So is a call of a `UdpServer` that is gone.
* `kbServer_refines` proves that a program that uses the interface is one that uses
  `UdpServer` objects: every call stands for at most one member call, and a
  `kb_server_destroy` for the destructor alone, since a second stop does nothing more.
-/
import KbNetworking.ServerThreads

namespace KbNetworking

open Cpp

/-- `kb_server`.  The three callback pointers are set to null at the creation and not looked at
after it. -/
structure KbServer (ι : Type) where
  impl : ι
  async : Bool := false
  deriving DecidableEq, Repr

/-- The structures on the heap and the `UdpServer` objects of the process. -/
structure KbProcess (κ ι : Type) where
  handles : κ → Option (KbServer ι) := fun _ => none
  servers : ServerProcess ι := {}

/-- What a function of the interface returns. -/
inductive KbAnswer : Type where
  | void
  | bool (value : Bool)
  | port (value : UInt16)
  deriving DecidableEq, Repr

namespace KbProcess

variable {κ ι : Type}

/-! ## Pointers -/

/-- The structure that `p_server` points to. -/
def deref (k : κ) (s : KbProcess κ ι) : Checked (KbServer ι) :=
  match s.handles k with
  | some server => .ok server
  | none => .error .useAfterFree

/-- The object that `m_impl` points to. -/
def derefImpl (server : KbServer ι) (s : KbProcess κ ι) : Checked UdpServer :=
  match s.servers.objects server.impl with
  | some self => .ok self
  | none => .error .useAfterFree

section

variable [DecidableEq ι]

/-- A member function of `*p_server->m_impl`. -/
def onImpl {β : Type} (server : KbServer ι)
    (f : ServerContext ι → Checked (ServerContext ι × β)) (s : KbProcess κ ι) :
    Checked (KbProcess κ ι × β) := do
  let self ← s.derefImpl server
  let (c, value) ← f (s.servers.context self)
  return ({ s with servers := s.servers.put server.impl c }, value)

/-! ## The functions -/

section

variable [DecidableEq κ]

/-- `kb_server_create`, which allocates the structure `k` and the object `i`. -/
def kbServerCreate (k : κ) (i : ι) (s : KbProcess κ ι) : KbProcess κ ι :=
  { handles := Function.update s.handles k (some { impl := i })
    servers := s.servers.put i (s.servers.context {}) }

end

/-- `kb_server_stop`. -/
def kbServerStop (pServer : Option κ) (s : KbProcess κ ι) : Checked (KbProcess κ ι) :=
  match pServer with
  | none => .ok s
  | some k => do
      let server ← s.deref k
      let (s, _) ← s.onImpl server fun c => .ok (UdpServer.stop c, ())
      return s

/-- `kb_server_start_manual`. -/
def kbServerStartManual (pServer : Option κ) (port : UInt16) (reply : StartReply)
    (s : KbProcess κ ι) : Checked (KbProcess κ ι × Bool) :=
  match pServer with
  | none => .ok (s, false)
  | some k => do
      let server ← s.deref k
      s.onImpl server fun c => .ok (UdpServer.startManual server.impl port reply c)

/-- `kb_server_poll`. -/
def kbServerPoll (pServer : Option κ) (batch : UdpServer.Batch) (s : KbProcess κ ι) :
    Checked (KbProcess κ ι) :=
  match pServer with
  | none => .ok s
  | some k => do
      let server ← s.deref k
      let (s, _) ← s.onImpl server fun c => (UdpServer.pollBatch batch c).map fun c => (c, ())
      return s

/-- `kb_server_send_raw`. -/
def kbServerSendRaw (pServer : Option κ) (conn : Connection) (data : List UInt8) (len : UInt32)
    (reliable sent : Bool) (s : KbProcess κ ι) : Checked (KbProcess κ ι × Bool) :=
  match pServer with
  | none => .ok (s, false)
  | some k => do
      let server ← s.deref k
      s.onImpl server fun c => .ok (UdpServer.send conn data len reliable sent c)

/-- `kb_server_broadcast_raw`. -/
def kbServerBroadcastRaw (pServer : Option κ) (data : List UInt8) (len : UInt32)
    (reliable : Bool) (sent : Connection → Bool) (s : KbProcess κ ι) :
    Checked (KbProcess κ ι × Bool) :=
  match pServer with
  | none => .ok (s, false)
  | some k => do
      let server ← s.deref k
      s.onImpl server fun c => .ok (UdpServer.broadcast data len reliable sent c)

/-- `kb_server_disconnect`. -/
def kbServerDisconnect (pServer : Option κ) (conn : Connection) (reasonCode : Int)
    (s : KbProcess κ ι) : Checked (KbProcess κ ι) :=
  match pServer with
  | none => .ok s
  | some k => do
      let server ← s.deref k
      let (s, _) ← s.onImpl server fun c => .ok (UdpServer.disconnect conn reasonCode c, ())
      return s

end

/-- `kb_server_is_running`. -/
def kbServerIsRunning (pServer : Option κ) (s : KbProcess κ ι) : Checked Bool :=
  match pServer with
  | none => .ok false
  | some k => do
      let server ← s.deref k
      let self ← s.derefImpl server
      return self.isRunning

/-- `kb_server_port`. -/
def kbServerPort (pServer : Option κ) (s : KbProcess κ ι) : Checked UInt16 :=
  match pServer with
  | none => .ok 0
  | some k => do
      let server ← s.deref k
      let self ← s.derefImpl server
      return self.port

variable [DecidableEq κ] [DecidableEq ι]

/-- `kb_server_start_async`: the call is noted whether or not the start succeeds. -/
def kbServerStartAsync (pServer : Option κ) (port : UInt16) (reply : StartReply)
    (s : KbProcess κ ι) : Checked (KbProcess κ ι × Bool) :=
  match pServer with
  | none => .ok (s, false)
  | some k => do
      let server ← s.deref k
      let server := { server with async := true }
      let s := { s with handles := Function.update s.handles k (some server) }
      s.onImpl server (UdpServer.startAsync server.impl port reply)

/-- `kb_server_destroy`: the destructor stops the server once more. -/
def kbServerDestroy (pServer : Option κ) (s : KbProcess κ ι) : Checked (KbProcess κ ι) :=
  match pServer with
  | none => .ok s
  | some k => do
      let s ← s.kbServerStop (some k)
      let server ← s.deref k
      let (s, _) ← s.onImpl server fun c => (UdpServer.destroy c).map fun c => (c, ())
      return { handles := Function.update s.handles k none
               servers := s.servers.remove server.impl }

end KbProcess

/-! ## Calls and runs -/

/-- A call of the interface, with the answers of the transport. -/
inductive KbFunction : Type where
  | destroy
  | startAsync (port : UInt16) (reply : StartReply)
  | stop
  | startManual (port : UInt16) (reply : StartReply)
  | poll (batch : UdpServer.Batch)
  | sendRaw (conn : Connection) (data : List UInt8) (len : UInt32) (reliable sent : Bool)
  | broadcastRaw (data : List UInt8) (len : UInt32) (reliable : Bool)
      (sent : Connection → Bool)
  | disconnect (conn : Connection) (reasonCode : Int)
  | isRunning
  | port

/-- What can happen in a program that uses the interface. -/
inductive KbAction (κ ι : Type) : Type where
  | create (k : κ) (i : ι)
  | call (pServer : Option κ) (function : KbFunction)
  | event (e : StatusEvent × AcceptReply)

namespace KbProcess

variable {κ ι : Type} [DecidableEq κ] [DecidableEq ι]

/-- A call with this pointer. -/
def call (pServer : Option κ) (function : KbFunction) (s : KbProcess κ ι) :
    Checked (KbProcess κ ι × KbAnswer) :=
  match function with
  | .destroy => (s.kbServerDestroy pServer).map fun s => (s, .void)
  | .startAsync port reply =>
      (s.kbServerStartAsync pServer port reply).map fun r => (r.1, .bool r.2)
  | .stop => (s.kbServerStop pServer).map fun s => (s, .void)
  | .startManual port reply =>
      (s.kbServerStartManual pServer port reply).map fun r => (r.1, .bool r.2)
  | .poll batch => (s.kbServerPoll pServer batch).map fun s => (s, .void)
  | .sendRaw conn data len reliable sent =>
      (s.kbServerSendRaw pServer conn data len reliable sent).map fun r => (r.1, .bool r.2)
  | .broadcastRaw data len reliable sent =>
      (s.kbServerBroadcastRaw pServer data len reliable sent).map fun r => (r.1, .bool r.2)
  | .disconnect conn reasonCode =>
      (s.kbServerDisconnect pServer conn reasonCode).map fun s => (s, .void)
  | .isRunning => (s.kbServerIsRunning pServer).map fun value => (s, .bool value)
  | .port => (s.kbServerPort pServer).map fun value => (s, .port value)

/-- One step; an allocation returns a structure and an object that are not in use. -/
def step (s : KbProcess κ ι) (a : KbAction κ ι) : Option (KbProcess κ ι) :=
  if s.servers.fault.isSome then none
  else
    match a with
    | .create k i =>
        if (s.handles k).isSome || (s.servers.objects i).isSome then none
        else some (s.kbServerCreate k i)
    | .call pServer function =>
        match s.call pServer function with
        | .ok (s', _) => some s'
        | .error e => some { s with servers := s.servers.fail e }
    | .event e =>
        some { s with servers := connectionStatusChangedCallback s.servers e.1 e.2 }

end KbProcess

/-- A program that uses the C interface: at first there are no servers. -/
def kbProcess (κ ι : Type) [DecidableEq κ] [DecidableEq ι] :
    Machine (KbProcess κ ι) (KbAction κ ι) where
  init := {}
  step := KbProcess.step

/-! ## What the functions do -/

/-- The member call that a function of the interface makes. -/
def KbFunction.operation : KbFunction → Option ServerOperation
  | .startAsync number reply => some (.startAsync number reply)
  | .stop => some .stop
  | .startManual number reply => some (.startManual number reply)
  | .poll batch => some (.poll batch)
  | .sendRaw conn data len reliable sent => some (.send conn data len reliable sent)
  | .broadcastRaw data len reliable sent => some (.broadcast data len reliable sent)
  | .disconnect conn reasonCode => some (.disconnect conn reasonCode)
  | .destroy | .isRunning | .port => none

/-- What a function returns for a null pointer. -/
def KbFunction.nullAnswer : KbFunction → KbAnswer
  | .destroy | .stop | .poll _ | .disconnect .. => .void
  | .startAsync .. | .startManual .. | .sendRaw .. | .broadcastRaw .. | .isRunning => .bool false
  | .port => .port 0

/-- The structure after a call: `m_async` is all that a call writes. -/
def KbFunction.noted {ι : Type} (function : KbFunction) (server : KbServer ι) : KbServer ι :=
  match function with
  | .startAsync .. => { server with async := true }
  | _ => server

/-- A second stop does nothing more. -/
theorem UdpServer.stop_stop {ι : Type} (c : ServerContext ι) : stop (stop c) = stop c := by
  have hidle : (afterStop c.self).isRunning = false := isRunning_afterStop c.self
  have hcalls : stopCalls (afterStop c.self) = [] := by
    rw [stopCalls, hidle, if_neg Bool.false_ne_true]
  have hafter : afterStop (afterStop c.self) = afterStop c.self := by
    rw [afterStop, hidle, if_neg Bool.false_ne_true]
  rw [stop_eq, stop_eq]
  dsimp only
  rw [hcalls, hafter, List.append_nil]

/-- The destructor of a stopped server is the destructor. -/
theorem UdpServer.destroy_stop {ι : Type} (c : ServerContext ι) :
    destroy (stop c) = destroy c := by
  unfold destroy
  rw [stop_stop]

namespace KbProcess

variable {κ ι : Type} {s s' : KbProcess κ ι} {k : κ} {server : KbServer ι} {self : UdpServer}

theorem deref_of_some (h : s.handles k = some server) : s.deref k = .ok server := by
  unfold deref
  rw [h]

theorem derefImpl_of_some (h : s.servers.objects server.impl = some self) :
    s.derefImpl server = .ok self := by
  unfold derefImpl
  rw [h]

variable [DecidableEq ι]

theorem onImpl_eq {β : Type} (h : s.servers.objects server.impl = some self)
    (f : ServerContext ι → Checked (ServerContext ι × β)) :
    s.onImpl server f = (f (s.servers.context self)).map fun r =>
      ({ s with servers := s.servers.put server.impl r.1 }, r.2) := by
  unfold onImpl
  rw [derefImpl_of_some h, ok_bind]
  cases f (s.servers.context self) <;> rfl

variable [DecidableEq κ]

/-- A null pointer is ignored. -/
theorem call_null (function : KbFunction) (s : KbProcess κ ι) :
    s.call none function = .ok (s, function.nullAnswer) := by
  cases function <;> rfl

/-- A pointer to a structure that was freed is a fault of every function. -/
theorem call_of_freed (h : s.handles k = none) (function : KbFunction) :
    s.call (some k) function = .error .useAfterFree := by
  have hderef : s.deref k = .error .useAfterFree := by
    unfold deref
    rw [h]
  cases function <;>
    simp [call, kbServerDestroy, kbServerStartAsync, kbServerStop, kbServerStartManual,
      kbServerPoll, kbServerSendRaw, kbServerBroadcastRaw, kbServerDisconnect, kbServerIsRunning,
      kbServerPort, hderef, Except.map]

/-- A function that makes a member call has the effects of that call. -/
theorem call_of_operation {function : KbFunction} {operation : ServerOperation}
    (hhandle : s.handles k = some server)
    (hself : s.servers.objects server.impl = some self)
    (hoperation : function.operation = some operation) :
    (s.call (some k) function).map Prod.fst
      = (operation.run server.impl (s.servers.context self)).map fun c =>
        { handles := Function.update s.handles k (some (function.noted server))
          servers := s.servers.put server.impl c } := by
  have hsame : Function.update s.handles k (some server) = s.handles := by
    rw [← hhandle, Function.update_eq_self]
  have hderef := deref_of_some hhandle
  cases function with
  | startAsync port reply =>
      obtain rfl := Option.some.inj hoperation
      have honImpl := @onImpl_eq κ ι
        ⟨Function.update s.handles k (some ⟨server.impl, true⟩), s.servers⟩ ⟨server.impl, true⟩
        self _ Bool hself (UdpServer.startAsync server.impl port reply)
      rw [call, kbServerStartAsync, hderef, ok_bind]
      dsimp only
      rw [honImpl, ServerOperation.run]
      cases UdpServer.startAsync server.impl port reply (s.servers.context self) <;> rfl
  | poll batch =>
      obtain rfl := Option.some.inj hoperation
      rw [call, kbServerPoll, hderef, ok_bind, onImpl_eq hself, ServerOperation.run]
      dsimp only [KbFunction.noted]
      rw [hsame]
      cases UdpServer.pollBatch batch (s.servers.context self) <;> rfl
  | stop =>
      obtain rfl := Option.some.inj hoperation
      rw [call, kbServerStop, hderef, ok_bind, onImpl_eq hself, ServerOperation.run]
      dsimp only [KbFunction.noted]
      rw [hsame]
      rfl
  | startManual port reply =>
      obtain rfl := Option.some.inj hoperation
      rw [call, kbServerStartManual, hderef, ok_bind, onImpl_eq hself, ServerOperation.run]
      dsimp only [KbFunction.noted]
      rw [hsame]
      rfl
  | sendRaw conn data len reliable sent =>
      obtain rfl := Option.some.inj hoperation
      rw [call, kbServerSendRaw, hderef, ok_bind, onImpl_eq hself, ServerOperation.run]
      dsimp only [KbFunction.noted]
      rw [hsame]
      rfl
  | broadcastRaw data len reliable sent =>
      obtain rfl := Option.some.inj hoperation
      rw [call, kbServerBroadcastRaw, hderef, ok_bind, onImpl_eq hself, ServerOperation.run]
      dsimp only [KbFunction.noted]
      rw [hsame]
      rfl
  | disconnect conn reasonCode =>
      obtain rfl := Option.some.inj hoperation
      rw [call, kbServerDisconnect, hderef, ok_bind, onImpl_eq hself, ServerOperation.run]
      dsimp only [KbFunction.noted]
      rw [hsame]
      rfl
  | destroy | isRunning | port => cases hoperation

theorem call_of_ok {function : KbFunction} {operation : ServerOperation} {c : ServerContext ι}
    (hhandle : s.handles k = some server)
    (hself : s.servers.objects server.impl = some self)
    (hoperation : function.operation = some operation)
    (hrun : operation.run server.impl (s.servers.context self) = .ok c) :
    ∃ answer, s.call (some k) function
      = .ok ({ handles := Function.update s.handles k (some (function.noted server))
               servers := s.servers.put server.impl c }, answer) := by
  have heffect := call_of_operation hhandle hself hoperation
  rw [hrun] at heffect
  cases hcall : s.call (some k) function with
  | error e =>
      rw [hcall] at heffect
      cases heffect
  | ok r =>
      obtain ⟨after, answer⟩ := r
      rw [hcall] at heffect
      obtain rfl := Except.ok.inj heffect
      exact ⟨answer, rfl⟩

theorem call_of_error {function : KbFunction} {operation : ServerOperation} {e : Fault}
    (hhandle : s.handles k = some server)
    (hself : s.servers.objects server.impl = some self)
    (hoperation : function.operation = some operation)
    (hrun : operation.run server.impl (s.servers.context self) = .error e) :
    s.call (some k) function = .error e := by
  have heffect := call_of_operation hhandle hself hoperation
  rw [hrun] at heffect
  cases hcall : s.call (some k) function with
  | error e' =>
      rw [hcall] at heffect
      rw [Except.error.inj heffect]
  | ok r =>
      rw [hcall] at heffect
      cases heffect

/-- `kb_server_destroy` has the effects of the destructor, and frees the structure. -/
theorem call_destroy (hhandle : s.handles k = some server)
    (hself : s.servers.objects server.impl = some self) :
    s.call (some k) .destroy
      = (UdpServer.destroy (s.servers.context self)).map fun c =>
        ({ handles := Function.update s.handles k none
           servers := (s.servers.put server.impl c).remove server.impl }, .void) := by
  have hderef := deref_of_some hhandle
  set stopped : KbProcess κ ι :=
    { s with servers := s.servers.put server.impl (UdpServer.stop (s.servers.context self)) }
    with hstopped
  have hstop : s.kbServerStop (some k) = .ok stopped := by
    rw [kbServerStop, hderef, ok_bind, onImpl_eq hself]
    rfl
  have hderef' : stopped.deref k = .ok server := hderef
  have hself' : stopped.servers.objects server.impl
      = some (UdpServer.stop (s.servers.context self)).self := Process.put_objects_self _ _ _
  have hcontext : stopped.servers.context (UdpServer.stop (s.servers.context self)).self
      = UdpServer.stop (s.servers.context self) := rfl
  rw [call, kbServerDestroy, hstop, ok_bind, hderef', ok_bind, onImpl_eq hself', hcontext,
    UdpServer.destroy_stop]
  cases UdpServer.destroy (s.servers.context self) with
  | error e => rfl
  | ok c =>
      have hput : (stopped.servers.put server.impl c).remove server.impl
          = (s.servers.put server.impl c).remove server.impl := by
        simp [hstopped, Process.put, Process.remove]
      show Except.ok (({ handles := Function.update s.handles k none
                         servers := (stopped.servers.put server.impl c).remove server.impl } :
        KbProcess κ ι), KbAnswer.void) = _
      rw [hput]
      rfl

theorem call_isRunning (hhandle : s.handles k = some server)
    (hself : s.servers.objects server.impl = some self) :
    s.call (some k) .isRunning = .ok (s, .bool self.isRunning) := by
  rw [call, kbServerIsRunning, deref_of_some hhandle, ok_bind, derefImpl_of_some hself]
  rfl

theorem call_port (hhandle : s.handles k = some server)
    (hself : s.servers.objects server.impl = some self) :
    s.call (some k) .port = .ok (s, .port self.port) := by
  rw [call, kbServerPort, deref_of_some hhandle, ok_bind, derefImpl_of_some hself]
  rfl

/-! ## Ownership -/

/-- Every structure owns an object that exists, and no two own the same one. -/
structure Owned (s : KbProcess κ ι) : Prop where
  exists_object : ∀ k server, s.handles k = some server →
    ∃ self, s.servers.objects server.impl = some self
  unique : ∀ k k' server server', s.handles k = some server → s.handles k' = some server' →
    server.impl = server'.impl → k = k'

omit [DecidableEq ι] [DecidableEq κ] in
/-- The structures stay, and no object goes. -/
theorem Owned.of_same (h : Owned s)
    (hhandles : ∀ k server', s'.handles k = some server' →
      ∃ server, s.handles k = some server ∧ server'.impl = server.impl)
    (hobjects : ∀ i self, s.servers.objects i = some self →
      ∃ self', s'.servers.objects i = some self') : Owned s' where
  exists_object := by
    intro k server' hk
    obtain ⟨server, hserver, himpl⟩ := hhandles k server' hk
    obtain ⟨self, hself⟩ := h.exists_object k server hserver
    rw [himpl]
    exact hobjects server.impl self hself
  unique := by
    intro k₁ k₂ server₁ server₂ h₁ h₂ himpl
    obtain ⟨old₁, hold₁, himpl₁⟩ := hhandles k₁ server₁ h₁
    obtain ⟨old₂, hold₂, himpl₂⟩ := hhandles k₂ server₂ h₂
    exact h.unique k₁ k₂ old₁ old₂ hold₁ hold₂ (himpl₁.symm.trans (himpl.trans himpl₂))

/-- A member function of an object leaves every object in place. -/
theorem exists_object_put {p : ServerProcess ι} {i : ι} (c : ServerContext ι) {j : ι}
    (h : ∃ self, p.objects j = some self) : ∃ self, (p.put i c).objects j = some self := by
  by_cases hj : j = i
  · subst hj
    exact ⟨_, Process.put_objects_self p j c⟩
  · rw [Process.put_objects_of_ne p c hj]
    exact h

theorem exists_object_throughInstance {p : ServerProcess ι}
    (f : ServerContext ι → ServerContext ι) {j : ι} (h : ∃ self, p.objects j = some self) :
    ∃ self, (p.throughInstance f).objects j = some self := by
  rcases Process.throughInstance_cases p f with heq | ⟨i, self, -, -, heq⟩ | heq
  · rwa [heq]
  · rw [heq]
    exact exists_object_put _ h
  · rw [heq]
    exact h

theorem owned_create {i : ι} (h : Owned s) (hobject : s.servers.objects i = none) :
    Owned (s.kbServerCreate k i) where
  exists_object := by
    intro k' server hk'
    by_cases hk : k' = k
    · subst hk
      obtain rfl : ({ impl := i } : KbServer ι) = server := by simpa [kbServerCreate] using hk'
      exact ⟨_, Process.put_objects_self _ _ _⟩
    · have hold : s.handles k' = some server := by simpa [kbServerCreate, hk] using hk'
      exact exists_object_put _ (h.exists_object k' server hold)
  unique := by
    -- an object that a structure owned before is not the new one
    have hnew : ∀ k' server, s.handles k' = some server → server.impl ≠ i := by
      rintro k' server hold rfl
      obtain ⟨self, hself⟩ := h.exists_object k' server hold
      rw [hobject] at hself
      cases hself
    intro k₁ k₂ server₁ server₂ h₁ h₂ himpl
    simp only [kbServerCreate, Function.update_apply] at h₁ h₂
    split at h₁
    · rename_i hk₁
      split at h₂
      · rename_i hk₂
        rw [hk₁, hk₂]
      · rw [← Option.some.inj h₁] at himpl
        exact absurd himpl.symm (hnew k₂ server₂ h₂)
    · split at h₂
      · rw [← Option.some.inj h₂] at himpl
        exact absurd himpl (hnew k₁ server₁ h₁)
      · exact h.unique k₁ k₂ server₁ server₂ h₁ h₂ himpl

theorem owned_destroy (h : Owned s) (hhandle : s.handles k = some server)
    (c : ServerContext ι) :
    Owned { handles := Function.update s.handles k none
            servers := (s.servers.put server.impl c).remove server.impl } where
  exists_object := by
    intro k' server' hk'
    dsimp only at hk'
    by_cases hk : k' = k
    · simp [hk] at hk'
    · rw [Function.update_of_ne hk] at hk'
      have himpl : server'.impl ≠ server.impl := by
        intro heq
        exact hk (h.unique k' k server' server hk' hhandle heq)
      dsimp only
      rw [Process.remove_objects_of_ne _ himpl]
      exact exists_object_put c (h.exists_object k' server' hk')
  unique := by
    intro k₁ k₂ server₁ server₂ h₁ h₂ himpl
    simp only [Function.update_apply] at h₁ h₂
    split at h₁
    · cases h₁
    · split at h₂
      · cases h₂
      · exact h.unique k₁ k₂ server₁ server₂ h₁ h₂ himpl

/-! ## Refinement -/

/-- What a function of the interface does to the object `i`. -/
def serverCalls (i : ι) (function : KbFunction) : List (ServerAction ι) :=
  match function with
  | .destroy => [.destroy i]
  | _ => function.operation.toList.map (.call i)

/-- What a step of the program does to the `UdpServer` objects. -/
def serverActions (s : KbProcess κ ι) : KbAction κ ι → List (ServerAction ι)
  | .create _ i => [.construct i]
  | .call pServer function =>
      match pServer.bind s.handles with
      | none => []
      | some server => serverCalls server.impl function
  | .event e => [.event e]

/-- The call is made with a null pointer, or with a pointer to a structure that was not
freed. -/
def CallsLive (s : KbProcess κ ι) : KbAction κ ι → Prop
  | .call (some k) _ => (s.handles k).isSome = true
  | _ => True

theorem step_call_eq (hfault : s.servers.fault = none) (pServer : Option κ)
    (function : KbFunction) :
    s.step (.call pServer function) = match s.call pServer function with
      | .ok (s', _) => some s'
      | .error e => some { s with servers := s.servers.fail e } := by
  rw [step, hfault, Option.isSome_none, if_neg Bool.false_ne_true]

omit [DecidableEq ι] [DecidableEq κ] in
theorem owned_fail (h : Owned s) (e : Fault) : Owned { s with servers := s.servers.fail e } :=
  ⟨h.exists_object, h.unique⟩

/-- A function that makes a member call is that call. -/
theorem operation_simulated {function : KbFunction} {operation : ServerOperation}
    (hfault : s.servers.fault = none) (howned : Owned s) (hhandle : s.handles k = some server)
    (hself : s.servers.objects server.impl = some self)
    (hoperation : function.operation = some operation)
    (hstep : s.step (.call (some k) function) = some s') :
    (serverProcess ι).step s.servers (.call server.impl operation) = some s'.servers
      ∧ Owned s' := by
  rw [step_call_eq hfault] at hstep
  cases hrun : operation.run server.impl (s.servers.context self) with
  | error e =>
      rw [call_of_error hhandle hself hoperation hrun] at hstep
      obtain rfl := Option.some.inj hstep
      exact ⟨ObjectClass.step_call_of_error hfault hself hrun, owned_fail howned e⟩
  | ok c =>
      obtain ⟨answer, hcall⟩ := call_of_ok hhandle hself hoperation hrun
      rw [hcall] at hstep
      obtain rfl := Option.some.inj hstep
      refine ⟨ObjectClass.step_call_of_ok hfault hself hrun, ?_⟩
      refine howned.of_same ?_ fun i self' hi => exists_object_put c ⟨self', hi⟩
      intro k' server' hk'
      dsimp only at hk'
      by_cases hk : k' = k
      · subst hk
        rw [Function.update_self, Option.some.injEq] at hk'
        refine ⟨server, hhandle, ?_⟩
        rw [← hk']
        cases function <;> rfl
      · rw [Function.update_of_ne hk] at hk'
        exact ⟨server', hk', rfl⟩

/-- `kb_server_destroy` is the destructor. -/
theorem destroy_simulated (hfault : s.servers.fault = none) (howned : Owned s)
    (hhandle : s.handles k = some server) (hself : s.servers.objects server.impl = some self)
    (hstep : s.step (.call (some k) .destroy) = some s') :
    (serverProcess ι).step s.servers (.destroy server.impl) = some s'.servers ∧ Owned s' := by
  rw [step_call_eq hfault, call_destroy hhandle hself] at hstep
  cases hdestroy : UdpServer.destroy (s.servers.context self) with
  | error e =>
      rw [hdestroy] at hstep
      obtain rfl := Option.some.inj hstep
      exact ⟨ObjectClass.step_destroy_of_error hfault hself hdestroy, owned_fail howned e⟩
  | ok c =>
      rw [hdestroy] at hstep
      obtain rfl := Option.some.inj hstep
      exact ⟨ObjectClass.step_destroy_of_ok hfault hself hdestroy,
        owned_destroy howned hhandle c⟩

/-- A call of the interface is what it does to the object. -/
theorem call_simulated {function : KbFunction} (hfault : s.servers.fault = none)
    (howned : Owned s) (hhandle : s.handles k = some server)
    (hself : s.servers.objects server.impl = some self)
    (hstep : s.step (.call (some k) function) = some s') :
    (serverProcess ι).run s.servers (serverCalls server.impl function) = some s'.servers
      ∧ Owned s' := by
  cases hoperation : function.operation with
  | some operation =>
      have hcalls : serverCalls server.impl function = [.call server.impl operation] := by
        cases function <;> cases hoperation <;> rfl
      obtain ⟨hserver, howned'⟩ :=
        operation_simulated hfault howned hhandle hself hoperation hstep
      refine ⟨?_, howned'⟩
      rw [hcalls, Machine.run_cons, hserver]
      rfl
  | none =>
      cases function with
      | destroy =>
          obtain ⟨hserver, howned'⟩ := destroy_simulated hfault howned hhandle hself hstep
          refine ⟨?_, howned'⟩
          rw [serverCalls, Machine.run_cons, hserver]
          rfl
      | isRunning =>
          rw [step_call_eq hfault, call_isRunning hhandle hself] at hstep
          obtain rfl := Option.some.inj hstep
          exact ⟨rfl, howned⟩
      | port =>
          rw [step_call_eq hfault, call_port hhandle hself] at hstep
          obtain rfl := Option.some.inj hstep
          exact ⟨rfl, howned⟩
      | _ => cases hoperation

theorem fault_of_step {a : KbAction κ ι} (hstep : s.step a = some s') :
    s.servers.fault = none := by
  unfold step at hstep
  split at hstep
  · cases hstep
  · rename_i hfault
    simpa using hfault

/-- Every step is what it does to the objects, unless it uses a structure that was freed. -/
theorem step_simulated {a : KbAction κ ι} (hstep : s.step a = some s') (howned : Owned s)
    (hlive : CallsLive s a) :
    (serverProcess ι).run s.servers (serverActions s a) = some s'.servers ∧ Owned s' := by
  have hfault := fault_of_step hstep
  cases a with
  | create k i =>
      rw [step, hfault, Option.isSome_none, if_neg Bool.false_ne_true] at hstep
      split at hstep
      · cases hstep
      · rename_i hfree
        obtain ⟨-, hobject⟩ : s.handles k = none ∧ s.servers.objects i = none := by
          simpa using hfree
        obtain rfl := Option.some.inj hstep
        refine ⟨?_, owned_create howned hobject⟩
        have hserver : (serverProcess ι).step s.servers (.construct i) = some _ :=
          ObjectClass.step_construct hfault hobject
        rw [serverActions, Machine.run_cons, hserver]
        rfl
  | call pServer function =>
      cases pServer with
      | none =>
          rw [step_call_eq hfault, call_null] at hstep
          obtain rfl := Option.some.inj hstep
          exact ⟨rfl, howned⟩
      | some k =>
          obtain ⟨server, hhandle⟩ := Option.isSome_iff_exists.mp hlive
          obtain ⟨self, hself⟩ := howned.exists_object k server hhandle
          rw [serverActions, Option.bind_some, hhandle]
          exact call_simulated hfault howned hhandle hself hstep
  | event e =>
      rw [step, hfault, Option.isSome_none, if_neg Bool.false_ne_true] at hstep
      obtain rfl := Option.some.inj hstep
      have hserver : (serverProcess ι).step s.servers (.event e) = some _ :=
        ObjectClass.step_event_eq e hfault
      refine ⟨?_, howned.of_same (fun _ server' hk => ⟨server', hk, rfl⟩)
        fun i self hi => exists_object_throughInstance _ ⟨self, hi⟩⟩
      rw [serverActions, Machine.run_cons, hserver]
      rfl

end KbProcess

/-- **A program that uses the C interface is one that uses `UdpServer` objects**: as long as no
freed structure is used, the objects, the pointer, the trace and the fault are those of the
run of the member calls that its calls stand for. -/
theorem kbServer_refines {κ ι : Type} [DecidableEq κ] [DecidableEq ι] (as : List (KbAction κ ι))
    (hlive : (kbProcess κ ι).EachStep (fun s a _ => s.CallsLive a) (kbProcess κ ι).init as)
    (s : KbProcess κ ι) (hrun : (kbProcess κ ι).run (kbProcess κ ι).init as = some s) :
    (serverProcess ι).run (serverProcess ι).init
        ((kbProcess κ ι).translate KbProcess.serverActions (kbProcess κ ι).init as)
      = some s.servers := by
  have howned : KbProcess.Owned (kbProcess κ ι).init := ⟨nofun, nofun⟩
  have hsim : ∀ (s : KbProcess κ ι) a s' p, (kbProcess κ ι).step s a = some s' →
      s.CallsLive a → s.Owned ∧ p = s.servers →
        ∃ p', (serverProcess ι).run p (s.serverActions a) = some p'
          ∧ s'.Owned ∧ p' = s'.servers := by
    rintro s a s' p hstep hcalls ⟨howned, rfl⟩
    obtain ⟨hserver, howned'⟩ := KbProcess.step_simulated hstep howned hcalls
    exact ⟨s'.servers, hserver, howned', rfl⟩
  obtain ⟨p, hserver, -, rfl⟩ := Machine.exists_run_translate hsim ⟨howned, rfl⟩ hlive hrun
  exact hserver

/-- A program that creates a server, starts it, asks whether it runs and destroys it. -/
def oneServer : List (KbAction Unit Unit) :=
  [.create () (), .call (some ()) (.startManual 7000 { listenSocket := 1, pollGroup := 2 }),
    .call (some ()) .isRunning, .call (some ()) .destroy]

theorem kbServer_refines_one : ∃ s,
    (kbProcess Unit Unit).run (kbProcess Unit Unit).init oneServer = some s
    ∧ (serverProcess Unit).run (serverProcess Unit).init
        ((kbProcess Unit Unit).translate KbProcess.serverActions (kbProcess Unit Unit).init
          oneServer)
      = some s.servers := by
  have hlive : (kbProcess Unit Unit).EachStep (fun s a _ => s.CallsLive a)
      (kbProcess Unit Unit).init oneServer :=
    Machine.eachStep_cons_of_step rfl trivial (Machine.eachStep_cons_of_step rfl rfl
      (Machine.eachStep_cons_of_step rfl rfl (Machine.eachStep_cons_of_step rfl rfl trivial)))
  exact ⟨_, rfl, kbServer_refines oneServer hlive _ rfl⟩

end KbNetworking
