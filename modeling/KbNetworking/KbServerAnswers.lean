/-
# What the C interface answers

`KbView` is what a caller can know of a server: whether it runs, and the port of the last
start that succeeded.  `KbView.after` and `KbView.answer` say what a call does to it and what
the call returns; neither looks at a `UdpServer`.

`kbServer_answers` proves that this abstract server answers as the code does, in every run
with any number of servers.  So what is answered for one server depends on the calls made for
that server only: not on the calls for other servers, and not on any connection.
-/
import KbNetworking.KbServerSafety

namespace KbNetworking

open Cpp

/-! ## The abstract server -/

/-- What the calls made so far say of a server. -/
structure KbView where
  running : Bool := false
  port : UInt16 := 0
  async : Bool := false
  deriving DecidableEq, Repr

namespace KbView

/-- A start has an effect when the server does not run and the transport creates what it
needs. -/
def started (number : UInt16) (reply : StartReply) (v : KbView) : KbView :=
  if !v.running && UdpServer.startSucceeds reply then { v with running := true, port := number }
  else v

/-- The server after a call: only the starts and the stop change it. -/
def after (function : KbFunction) (v : KbView) : KbView :=
  match function with
  | .startAsync number reply => { v.started number reply with async := true }
  | .startManual number reply => v.started number reply
  | .stop => { v with running := false }
  | _ => v

/-- What a call returns; a broadcast also depends on the clients. -/
def answer (function : KbFunction) (v : KbView) : Option KbAnswer :=
  match function with
  | .startAsync _ reply | .startManual _ reply =>
      some (.bool (!v.running && UdpServer.startSucceeds reply))
  | .sendRaw _ _ _ _ sent => some (.bool sent)
  | .broadcastRaw .. => none
  | .isRunning => some (.bool v.running)
  | .port => some (.port v.port)
  | .destroy | .stop | .poll _ | .disconnect .. => some .void

end KbView

/-- What there is to know of a server. -/
def KbServer.view {ι : Type} (server : KbServer ι) (self : UdpServer) : KbView :=
  { running := self.isRunning, port := self.port, async := server.async }

/-- A creation begins a new abstract server, and a call that returns is made on it. -/
def noteViews {κ ι : Type} [DecidableEq κ] [DecidableEq ι] (views : κ → KbView)
    (s : KbProcess κ ι) : KbAction κ ι → κ → KbView
  | .create k _ => Function.update views k {}
  | .call (some k) function =>
      match s.call (some k) function with
      | .ok _ => Function.update views k ((views k).after function)
      | .error _ => views
  | _ => views

/-- The program together with the abstract servers, one for every structure. -/
def kbProcessWithViews (κ ι : Type) [DecidableEq κ] [DecidableEq ι] :
    Machine ((κ → KbView) × KbProcess κ ι) (KbAction κ ι) :=
  (kbProcess κ ι).observed (fun _ => {}) fun views s a _ => noteViews views s a

/-- The abstract servers say what the structures and their objects hold. -/
def ViewsMatch {κ ι : Type} (s : (κ → KbView) × KbProcess κ ι) : Prop :=
  ∀ k server self, s.2.handles k = some server → s.2.servers.objects server.impl = some self →
    s.1 k = server.view self

/-- A call that returns is answered as the abstract server answers it. -/
def AnswersMatch {κ ι : Type} [DecidableEq κ] [DecidableEq ι]
    (s : (κ → KbView) × KbProcess κ ι) (a : KbAction κ ι) : Prop :=
  ∀ k function s' answer, a = .call (some k) function →
    s.2.call (some k) function = .ok (s', answer) →
      ∀ expected, (s.1 k).answer function = some expected → answer = expected

/-! ## One call -/

namespace UdpServer

variable {ι : Type}

theorem view_startManual (server : KbServer ι) (me : ι) (number : UInt16) (reply : StartReply)
    (c : ServerContext ι) :
    server.view (startManual me number reply c).1.self
        = (server.view c.self).started number reply
      ∧ (startManual me number reply c).2
        = (!(server.view c.self).running && startSucceeds reply) := by
  rw [startManual_eq]
  unfold KbView.started KbServer.view
  cases hrunning : c.self.isRunning with
  | true => simp [hrunning]
  | false => cases hsucceeds : startSucceeds reply <;> simp [afterStart, hsucceeds]

theorem view_startAsync (server : KbServer ι) {me : ι} {number : UInt16} {reply : StartReply}
    {c c' : ServerContext ι} {value : Bool}
    (h : startAsync me number reply c = .ok (c', value)) :
    server.view c'.self = (server.view c.self).started number reply
      ∧ value = (!(server.view c.self).running && startSucceeds reply) := by
  obtain ⟨d, hd, hc'⟩ := startAsync_cases h
  obtain ⟨hview, hvalue⟩ := view_startManual server me number reply c
  rw [hd] at hview hvalue
  refine ⟨?_, hvalue⟩
  rw [← hview]
  rcases hc' with ⟨-, rfl⟩ | ⟨-, -, rfl⟩ <;> rfl

theorem view_stop (server : KbServer ι) (c : ServerContext ι) :
    server.view (stop c).self = { server.view c.self with running := false } := by
  rw [stop_eq]
  unfold afterStop KbServer.view
  cases hrunning : c.self.isRunning <;> simp [hrunning]

theorem view_onConnectionStatusChanged (server : KbServer ι) (event : StatusEvent)
    (reply : AcceptReply) (c : ServerContext ι) :
    server.view (onConnectionStatusChanged event reply c).self = server.view c.self := by
  rw [onConnectionStatusChanged_eq]
  unfold afterEvent
  dsimp only
  split <;> rfl

/-- A broadcast leaves the server as it is. -/
theorem self_broadcast (data : List UInt8) (size : UInt32) (reliable : Bool)
    (sent : Connection → Bool) (c : ServerContext ι) :
    (broadcast data size reliable sent c).1.self = c.self := by
  unfold broadcast
  split
  · rfl
  · rw [broadcastLoop_eq]

end UdpServer

/-- A member call does to the object what the call does to the abstract server. -/
theorem KbFunction.view_run {ι : Type} {function : KbFunction} {operation : ServerOperation}
    {server : KbServer ι} {me : ι} {c c' : ServerContext ι}
    (hoperation : function.operation = some operation) (hrun : operation.run me c = .ok c') :
    (function.noted server).view c'.self = (server.view c.self).after function := by
  cases function with
  | startAsync number reply =>
      obtain rfl := Option.some.inj hoperation
      obtain ⟨value, hstart⟩ := ServerOperation.run_startAsync hrun
      have hview := (UdpServer.view_startAsync server hstart).1
      rw [KbView.after, ← hview]
      rfl
  | startManual number reply =>
      obtain rfl := Option.some.inj hoperation
      obtain rfl := Except.ok.inj hrun
      exact (UdpServer.view_startManual server me number reply c).1
  | stop =>
      obtain rfl := Option.some.inj hoperation
      obtain rfl := Except.ok.inj hrun
      exact UdpServer.view_stop server c
  | poll batch =>
      obtain rfl := Option.some.inj hoperation
      obtain ⟨xs, rfl, -⟩ := UdpServer.pollBatch_cases hrun
      rfl
  | sendRaw conn data len reliable sent =>
      obtain rfl := Option.some.inj hoperation
      obtain rfl := Except.ok.inj hrun
      rfl
  | broadcastRaw data len reliable sent =>
      obtain rfl := Option.some.inj hoperation
      obtain rfl := Except.ok.inj hrun
      show server.view (UdpServer.broadcast data len reliable sent c).1.self = server.view c.self
      rw [UdpServer.self_broadcast]
  | disconnect conn reasonCode =>
      obtain rfl := Option.some.inj hoperation
      obtain rfl := Except.ok.inj hrun
      rfl
  | destroy | isRunning | port => cases hoperation

namespace KbProcess

variable {κ ι : Type} [DecidableEq κ] [DecidableEq ι] {s s' : KbProcess κ ι} {k : κ}
  {server : KbServer ι} {self : UdpServer}

/-- What a call returns is what the abstract server returns. -/
theorem answer_of_call {function : KbFunction} {answer expected : KbAnswer}
    (hhandle : s.handles k = some server)
    (hself : s.servers.objects server.impl = some self)
    (hcall : s.call (some k) function = .ok (s', answer))
    (hexpected : (server.view self).answer function = some expected) : answer = expected := by
  have hderef := deref_of_some hhandle
  cases function with
  | startManual number reply =>
      rw [call, kbServerStartManual, hderef, ok_bind, onImpl_eq hself] at hcall
      obtain ⟨-, rfl⟩ := Prod.mk.inj (Except.ok.inj hcall)
      rw [KbView.answer, Option.some.injEq] at hexpected
      rw [← hexpected]
      congr 1
      exact (UdpServer.view_startManual server server.impl number reply
        (s.servers.context self)).2
  | startAsync number reply =>
      have honImpl := @onImpl_eq κ ι
        ⟨Function.update s.handles k (some ⟨server.impl, true⟩), s.servers⟩ ⟨server.impl, true⟩
        self _ Bool hself (UdpServer.startAsync server.impl number reply)
      rw [call, kbServerStartAsync, hderef, ok_bind] at hcall
      dsimp only at hcall
      rw [honImpl] at hcall
      cases hstart : UdpServer.startAsync server.impl number reply (s.servers.context self) with
      | error e =>
          rw [hstart] at hcall
          cases hcall
      | ok r =>
          rw [hstart] at hcall
          obtain ⟨-, rfl⟩ := Prod.mk.inj (Except.ok.inj hcall)
          rw [KbView.answer, Option.some.injEq] at hexpected
          rw [← hexpected]
          congr 1
          exact (UdpServer.view_startAsync server hstart).2
  | sendRaw conn data len reliable sent =>
      rw [call, kbServerSendRaw, hderef, ok_bind, onImpl_eq hself] at hcall
      obtain ⟨-, rfl⟩ := Prod.mk.inj (Except.ok.inj hcall)
      exact Option.some.inj hexpected
  | isRunning =>
      rw [call_isRunning hhandle hself, Except.ok.injEq] at hcall
      obtain ⟨-, rfl⟩ := Prod.mk.inj hcall
      exact Option.some.inj hexpected
  | port =>
      rw [call_port hhandle hself, Except.ok.injEq] at hcall
      obtain ⟨-, rfl⟩ := Prod.mk.inj hcall
      exact Option.some.inj hexpected
  | destroy | stop | poll | disconnect =>
      rw [call] at hcall
      obtain ⟨after, -, hafter⟩ := map_eq_ok.mp hcall
      obtain ⟨-, rfl⟩ := Prod.mk.inj hafter
      exact Option.some.inj hexpected
  | broadcastRaw data len reliable sent => cases hexpected

/-! ## One step -/

omit [DecidableEq κ] in
/-- What a function does to one object leaves the views of the others right. -/
theorem viewsMatch_put {views views' : κ → KbView} {handles' : κ → Option (KbServer ι)}
    {i : ι} {c : ServerContext ι} (h : ViewsMatch (views, s))
    (hkept : ∀ k server self, handles' k = some server → server.impl ≠ i →
      s.servers.objects server.impl = some self →
        s.handles k = some server ∧ views' k = views k)
    (hown : ∀ k server, handles' k = some server → server.impl = i →
      views' k = server.view c.self) :
    ViewsMatch (views', ⟨handles', s.servers.put i c⟩) := by
  intro k server self hk hself
  dsimp only at hk hself ⊢
  by_cases himpl : server.impl = i
  · rw [himpl, Process.put_objects_self, Option.some.injEq] at hself
    rw [← hself]
    exact hown k server hk himpl
  · rw [Process.put_objects_of_ne _ _ himpl] at hself
    obtain ⟨hold, hview⟩ := hkept k server self hk himpl hself
    rw [hview]
    exact h k server self hold hself

variable {views : κ → KbView}

theorem viewsMatch_create {i : ι} (h : ViewsMatch (views, s)) (howned : Owned s)
    (hobject : s.servers.objects i = none) :
    ViewsMatch (Function.update views k {}, s.kbServerCreate k i) := by
  refine viewsMatch_put h ?_ ?_
  · intro k' server self hk' himpl hself
    have hk : k' ≠ k := by
      rintro rfl
      rw [Function.update_self, Option.some.injEq] at hk'
      rw [← hk'] at himpl
      exact himpl rfl
    rw [Function.update_of_ne hk] at hk' ⊢
    exact ⟨hk', rfl⟩
  · intro k' server hk' himpl
    by_cases hk : k' = k
    · subst hk
      rw [Function.update_self, Option.some.injEq] at hk'
      rw [Function.update_self, ← hk']
      rfl
    · rw [Function.update_of_ne hk] at hk'
      obtain ⟨self, hself⟩ := howned.exists_object k' server hk'
      rw [himpl, hobject] at hself
      cases hself

/-- A function that makes a member call. -/
theorem viewsMatch_operation {function : KbFunction} {operation : ServerOperation}
    {c : ServerContext ι} (h : ViewsMatch (views, s)) (howned : Owned s)
    (hhandle : s.handles k = some server) (hself : s.servers.objects server.impl = some self)
    (hoperation : function.operation = some operation)
    (hrun : operation.run server.impl (s.servers.context self) = .ok c) :
    ViewsMatch (Function.update views k ((views k).after function),
      ⟨Function.update s.handles k (some (function.noted server)),
        s.servers.put server.impl c⟩) := by
  have hnoted : (function.noted server).impl = server.impl := by cases function <;> rfl
  refine viewsMatch_put h ?_ ?_
  · intro k' server' self' hk' himpl hself'
    have hk : k' ≠ k := by
      rintro rfl
      rw [Function.update_self, Option.some.injEq] at hk'
      rw [← hk'] at himpl
      exact himpl hnoted
    rw [Function.update_of_ne hk] at hk' ⊢
    exact ⟨hk', rfl⟩
  · intro k' server' hk' himpl
    by_cases hk : k' = k
    · subst hk
      rw [Function.update_self, Option.some.injEq] at hk'
      have hview : views k' = server.view self := h k' server self hhandle hself
      rw [Function.update_self, ← hk', KbFunction.view_run hoperation hrun, hview]
      rfl
    · rw [Function.update_of_ne hk] at hk'
      exact absurd (howned.unique k' k server' server hk' hhandle himpl) hk

theorem viewsMatch_destroy {views' : κ → KbView} (h : ViewsMatch (views, s)) (howned : Owned s)
    (hhandle : s.handles k = some server) (c : ServerContext ι)
    (hviews : ∀ k', k' ≠ k → views' k' = views k') :
    ViewsMatch (views', ⟨Function.update s.handles k none,
      (s.servers.put server.impl c).remove server.impl⟩) := by
  intro k' server' self' hk' hself'
  dsimp only at hk' hself' ⊢
  by_cases hk : k' = k
  · rw [hk, Function.update_self] at hk'
    cases hk'
  · rw [Function.update_of_ne hk] at hk'
    have himpl : server'.impl ≠ server.impl := by
      intro heq
      exact hk (howned.unique k' k server' server hk' hhandle heq)
    rw [Process.remove_objects_of_ne _ himpl, Process.put_objects_of_ne _ _ himpl] at hself'
    rw [hviews k' hk]
    exact h k' server' self' hk' hself'

omit [DecidableEq κ] in
/-- A connection status event. -/
theorem viewsMatch_event (h : ViewsMatch (views, s)) (event : StatusEvent)
    (reply : AcceptReply) :
    ViewsMatch (views, { s with
      servers := connectionStatusChangedCallback s.servers event reply }) := by
  rw [connectionStatusChangedCallback]
  rcases Process.throughInstance_cases s.servers
      (UdpServer.onConnectionStatusChanged event reply) with heq | ⟨i, old, -, hold, heq⟩ | heq
  · rw [heq]
    exact h
  · rw [heq]
    refine viewsMatch_put h (fun k server self hk _ _ => ⟨hk, rfl⟩) ?_
    rintro k server hk rfl
    rw [UdpServer.view_onConnectionStatusChanged]
    exact h k server old hk hold
  · rw [heq]
    exact h

/-- A call of the interface. -/
theorem viewsMatch_call {function : KbFunction} (hfault : s.servers.fault = none)
    (h : ViewsMatch (views, s)) (howned : Owned s)
    (hstep : s.step (.call (some k) function) = some s') :
    ViewsMatch (noteViews views s (.call (some k) function), s') := by
  rw [step_call_eq hfault] at hstep
  rw [noteViews]
  cases hcall : s.call (some k) function with
  | error e =>
      rw [hcall] at hstep
      obtain rfl := Option.some.inj hstep
      exact h
  | ok r =>
      rw [hcall] at hstep
      obtain rfl := Option.some.inj hstep
      cases hhandle : s.handles k with
      | none =>
          rw [call_of_freed hhandle] at hcall
          cases hcall
      | some server =>
          obtain ⟨self, hself⟩ := howned.exists_object k server hhandle
          cases hoperation : function.operation with
          | some operation =>
              cases hrun : operation.run server.impl (s.servers.context self) with
              | error e =>
                  rw [call_of_error hhandle hself hoperation hrun] at hcall
                  cases hcall
              | ok c =>
                  obtain ⟨answer, hanswer⟩ := call_of_ok hhandle hself hoperation hrun
                  rw [hanswer] at hcall
                  obtain rfl := Except.ok.inj hcall
                  exact viewsMatch_operation h howned hhandle hself hoperation hrun
          | none =>
              cases function with
              | destroy =>
                  rw [call_destroy hhandle hself] at hcall
                  obtain ⟨c, -, rfl⟩ := map_eq_ok.mp hcall
                  exact viewsMatch_destroy h howned hhandle c
                    fun k' hk' => Function.update_of_ne hk' _ _
              | isRunning =>
                  rw [call_isRunning hhandle hself] at hcall
                  obtain rfl := Except.ok.inj hcall
                  show ViewsMatch (Function.update views k (views k), s)
                  rwa [Function.update_eq_self]
              | port =>
                  rw [call_port hhandle hself] at hcall
                  obtain rfl := Except.ok.inj hcall
                  show ViewsMatch (Function.update views k (views k), s)
                  rwa [Function.update_eq_self]
              | _ => cases hoperation

theorem viewsMatch_step {a : KbAction κ ι} (hstep : s.step a = some s')
    (h : ViewsMatch (views, s)) (howned : Owned s) :
    ViewsMatch (noteViews views s a, s') := by
  have hfault := fault_of_step hstep
  cases a with
  | create k i =>
      rw [step, hfault, Option.isSome_none, if_neg Bool.false_ne_true] at hstep
      split at hstep
      · cases hstep
      · rename_i hfree
        obtain ⟨-, hobject⟩ : s.handles k = none ∧ s.servers.objects i = none := by
          simpa using hfree
        obtain rfl := Option.some.inj hstep
        exact viewsMatch_create h howned hobject
  | call pServer function =>
      cases pServer with
      | none =>
          rw [step_call_eq hfault, call_null] at hstep
          obtain rfl := Option.some.inj hstep
          exact h
      | some k => exact viewsMatch_call hfault h howned hstep
  | event e =>
      rw [step, hfault, Option.isSome_none, if_neg Bool.false_ne_true] at hstep
      obtain rfl := Option.some.inj hstep
      exact viewsMatch_event h e.1 e.2

/-- A step keeps the ownership, whatever structure it uses. -/
theorem owned_step {a : KbAction κ ι} (hstep : s.step a = some s') (h : Owned s) : Owned s' := by
  by_cases hlive : CallsLive s a
  · exact (step_simulated hstep h hlive).2
  · cases a with
    | call pServer function =>
        cases pServer with
        | none => exact absurd trivial hlive
        | some k =>
            have hfreed : s.handles k = none := by
              rw [CallsLive] at hlive
              simpa using hlive
            rw [step_call_eq (fault_of_step hstep), call_of_freed hfreed] at hstep
            obtain rfl := Option.some.inj hstep
            exact owned_fail h _
    | _ => exact absurd trivial hlive

end KbProcess

/-- **The C interface answers as the abstract server does**, for every program with any number
of servers: the abstract servers always say what the structures and their objects hold, and
what a call returns is what they return. -/
theorem kbServer_answers {κ ι : Type} [DecidableEq κ] [DecidableEq ι]
    (as : List (KbAction κ ι)) :
    (kbProcessWithViews κ ι).Always ViewsMatch (kbProcessWithViews κ ι).init as
      ∧ (kbProcessWithViews κ ι).EachStep (fun s a _ => AnswersMatch s a)
          (kbProcessWithViews κ ι).init as := by
  have hinit : ViewsMatch (kbProcessWithViews κ ι).init
      ∧ (kbProcessWithViews κ ι).init.2.Owned := ⟨nofun, nofun, nofun⟩
  have hstep : ∀ s a s', (kbProcessWithViews κ ι).step s a = some s' →
      ViewsMatch s ∧ s.2.Owned → ViewsMatch s' ∧ s'.2.Owned := by
    rintro ⟨views, s⟩ a t hobserved ⟨hviews, howned⟩
    obtain ⟨s', hprogram, rfl⟩ := Machine.observed_step hobserved
    exact ⟨KbProcess.viewsMatch_step hprogram hviews howned,
      KbProcess.owned_step hprogram howned⟩
  have hanswers : ∀ s : (κ → KbView) × KbProcess κ ι, ViewsMatch s ∧ s.2.Owned →
      ∀ a, AnswersMatch s a := by
    rintro s ⟨hviews, howned⟩ a k function s' answer - hcall expected hexpected
    cases hhandle : s.2.handles k with
    | none =>
        rw [KbProcess.call_of_freed hhandle] at hcall
        cases hcall
    | some server =>
        obtain ⟨self, hself⟩ := howned.exists_object k server hhandle
        rw [hviews k server self hhandle hself] at hexpected
        exact KbProcess.answer_of_call hhandle hself hcall hexpected
  constructor
  · exact (Machine.always_of_step hstep hinit as).mono fun _ h => h.1
  · exact Machine.eachStep_of_step
      (fun s a s' h hI => ⟨hstep s a s' h hI, hanswers s hI a⟩) hinit as

end KbNetworking
