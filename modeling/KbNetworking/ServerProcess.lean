/-
# Servers of one process

Any number of `UdpServer` objects of one process, named by an index type `ι`, behind the
static pointer `s_instance`.  A step is one member call on one object, the construction or
destruction of an object, or a connection status event, which the transport hands to the
static callback.
-/
import KbNetworking.UdpServer

namespace KbNetworking

open Cpp

/-- A call of a member function, with the answers of the transport. -/
inductive ServerOperation : Type where
  | startManual (port : UInt16) (reply : StartReply)
  | startAsync (port : UInt16) (reply : StartReply)
  | stop
  | poll (batch : UdpServer.Batch)
  | send (conn : Connection) (data : List UInt8) (size : UInt32) (reliable sent : Bool)
  | broadcast (data : List UInt8) (size : UInt32) (reliable : Bool) (sent : Connection → Bool)
  | disconnect (conn : Connection) (reason : Int)
  | setDataReceivedCallback (isSet : Bool)
  | setClientConnectedCallback (isSet : Bool)
  | setClientDisconnectedCallback (isSet : Bool)

/-! ## Member calls -/

namespace UdpServer

variable {ι : Type}

/-- The user's data callback, when it is set: it records the message. -/
def userDataCallback (self : UdpServer) :
    Option (ClientInfo → List UInt8 → Checked (List ServerEffect)) :=
  if self.dataReceivedCallback then some fun client data => .ok [.dataReceived client data]
  else none

/-- `poll` on the messages that wait for it. -/
def pollBatch (batch : Batch) (c : ServerContext ι) : Checked (ServerContext ι) := do
  let output ← c.self.poll c.self.userDataCallback
    (receiveMessagesOnPollGroup c.self.pollGroup batch)
  return { c with trace := c.trace ++ output.outputs }

/-- A poll that ends only appends invocations of the data callback to the trace. -/
theorem pollBatch_cases {batch : Batch} {c c' : ServerContext ι}
    (h : pollBatch batch c = .ok c') :
    ∃ xs, c' = { c with trace := c.trace ++ xs }
      ∧ ∀ x ∈ xs, ∃ client data, x = .dataReceived client data := by
  obtain ⟨output, hpoll, h⟩ := bind_eq_ok.mp h
  refine ⟨output.outputs, (Except.ok.inj h).symm, ?_⟩
  refine pollLoop_outputs ?_ (fun x hx => absurd hx List.not_mem_nil) hpoll
  intro message outputs houtputs x hx
  unfold dispatchMessage userDataCallback at houtputs
  cases hset : c.self.dataReceivedCallback with
  | false =>
      simp only [hset, Bool.false_eq_true, if_false] at houtputs
      obtain rfl := Except.ok.inj houtputs
      cases hx
  | true =>
      simp only [hset, if_true] at houtputs
      cases hfind : c.self.clients.find message.conn with
      | none =>
          rw [hfind] at houtputs
          obtain rfl := Except.ok.inj houtputs
          cases hx
      | some client =>
          rw [hfind] at houtputs
          obtain rfl := Except.ok.inj houtputs
          exact ⟨client, message.data, List.mem_singleton.mp hx⟩

end UdpServer

/-- A member call on the object `me`. -/
def ServerOperation.run {ι : Type} (me : ι) :
    ServerOperation → ServerContext ι → Checked (ServerContext ι)
  | .startManual port reply, c => .ok (UdpServer.startManual me port reply c).1
  | .startAsync port reply, c => (UdpServer.startAsync me port reply c).map Prod.fst
  | .stop, c => .ok (UdpServer.stop c)
  | .poll batch, c => UdpServer.pollBatch batch c
  | .send conn data size reliable sent, c =>
      .ok (UdpServer.send conn data size reliable sent c).1
  | .broadcast data size reliable sent, c =>
      .ok (UdpServer.broadcast data size reliable sent c).1
  | .disconnect conn reason, c => .ok (UdpServer.disconnect conn reason c)
  | .setDataReceivedCallback isSet, c =>
      .ok { c with self := { c.self with dataReceivedCallback := isSet } }
  | .setClientConnectedCallback isSet, c =>
      .ok { c with self := { c.self with clientConnectedCallback := isSet } }
  | .setClientDisconnectedCallback isSet, c =>
      .ok { c with self := { c.self with clientDisconnectedCallback := isSet } }

theorem ServerOperation.run_startAsync {ι : Type} {me : ι} {port : UInt16} {reply : StartReply}
    {c c' : ServerContext ι} (h : (startAsync port reply).run me c = .ok c') :
    ∃ started, UdpServer.startAsync me port reply c = .ok (c', started) := by
  rw [run] at h
  cases hstart : UdpServer.startAsync me port reply c with
  | error e =>
      rw [hstart] at h
      cases h
  | ok result =>
      rw [hstart] at h
      obtain rfl := Except.ok.inj h
      exact ⟨result.2, rfl⟩

/-- The class `UdpServer`. -/
def serverClass (ι : Type) :
    ObjectClass ι UdpServer ServerEffect ServerOperation (StatusEvent × AcceptReply) where
  fresh := {}
  destroy := fun _ => UdpServer.destroy
  call := fun me operation => operation.run me
  handle := fun e => UdpServer.onConnectionStatusChanged e.1 e.2

/-- The state of the process. -/
abbrev ServerProcess (ι : Type) := Process ι UdpServer ServerEffect

/-- What can happen in the process. -/
abbrev ServerAction (ι : Type) := Action ι ServerOperation (StatusEvent × AcceptReply)

/-- The servers of one process: at first there are none. -/
def serverProcess (ι : Type) [DecidableEq ι] : Machine (ServerProcess ι) (ServerAction ι) :=
  (serverClass ι).machine

/-- The static `connection_status_changed_callback`: the object that `s_instance` points to
handles the event, whichever listen socket the connection arrived on. -/
def connectionStatusChangedCallback {ι : Type} [DecidableEq ι] (p : ServerProcess ι)
    (event : StatusEvent) (reply : AcceptReply) : ServerProcess ι :=
  p.throughInstance (UdpServer.onConnectionStatusChanged event reply)

end KbNetworking
