/-
# Clients of one process

Any number of `UdpClient` objects of one process, named by an index type `ι`, behind their
own static pointer `s_instance`.  As for the servers, a step is one member call, the
construction or destruction of an object, or a connection status event for the static
callback.
-/
import KbNetworking.UdpClient

namespace KbNetworking

open Cpp

/-- A call of a member function, with the answers of the transport. -/
inductive ClientOperation : Type where
  | connect (address : String) (port : UInt16) (result : Connection)
  | stop
  | sendRaw (data : List UInt8) (reliable sent : Bool)
  | poll (received : UdpClient.Received)
  | setOnDataReceived (isSet : Bool)

/-- A member call on the object `me`. -/
def ClientOperation.run {ι : Type} (parseString : String → Option SteamNetworkingIPAddr)
    (me : ι) : ClientOperation → ClientContext ι → Checked (ClientContext ι)
  | .connect address port result, c =>
      (UdpClient.connect parseString me address port result c).map Prod.fst
  | .stop, c => .ok (UdpClient.stop me c)
  | .sendRaw data reliable sent, c => .ok (UdpClient.sendRaw data reliable sent c).1
  | .poll received, c => UdpClient.poll received c
  | .setOnDataReceived isSet, c => .ok { c with self := { c.self with onDataReceived := isSet } }

/-- The class `UdpClient`. -/
def clientClass (ι : Type) (parseString : String → Option SteamNetworkingIPAddr) :
    ObjectClass ι UdpClient (ClientEffect ι) ClientOperation StatusEvent where
  fresh := {}
  destroy := UdpClient.destroy
  call := fun me operation => operation.run parseString me
  handle := UdpClient.onConnectionStatusChanged

/-- The state of the process. -/
abbrev ClientProcess (ι : Type) := Process ι UdpClient (ClientEffect ι)

/-- What can happen in the process. -/
abbrev ClientAction (ι : Type) := Action ι ClientOperation StatusEvent

/-- The clients of one process: at first there are none. -/
def clientProcess (ι : Type) [DecidableEq ι]
    (parseString : String → Option SteamNetworkingIPAddr) :
    Machine (ClientProcess ι) (ClientAction ι) :=
  (clientClass ι parseString).machine

/-! ## What the member functions keep -/

section

variable {ι : Type} {parseString : String → Option SteamNetworkingIPAddr} {me : ι}

/-- A `connect` that returns: nothing on a running client, an attempt on one that has no
thread. -/
theorem ClientOperation.run_connect {address : String} {port : UInt16} {result : Connection}
    {c c' : ClientContext ι}
    (h : (ClientOperation.connect address port result).run parseString me c = .ok c') :
    (c.self.running = true ∧ c' = c)
      ∨ (c.self.running = false ∧ c.self.networkThread.joinable = false
        ∧ c' = { sInstance := some me
                 self := UdpClient.afterAttempt parseString address port result c.self
                 trace := c.trace ++ .writeInstance me true
                   :: UdpClient.attemptCalls parseString me address port result }) := by
  rw [run, UdpClient.connect_eq] at h
  split at h
  · rename_i hrunning
    exact .inl ⟨hrunning, (Except.ok.inj h).symm⟩
  · rename_i hrunning
    split at h
    · cases h
    · rename_i hjoinable
      exact .inr ⟨by simpa using hrunning, by simpa using hjoinable, (Except.ok.inj h).symm⟩

/-- The only fault of the member functions a poll apart: `connect` on a client that does not
run but has a thread. -/
theorem ClientOperation.run_connect_error {address : String} {port : UInt16}
    {result : Connection} {c : ClientContext ι} {e : Fault}
    (h : (ClientOperation.connect address port result).run parseString me c = .error e) :
    c.self.running = false ∧ c.self.networkThread.joinable = true ∧ e = .terminate := by
  rw [run, UdpClient.connect_eq] at h
  split at h
  · cases h
  · rename_i hrunning
    split at h
    · rename_i hjoinable
      exact ⟨by simpa using hrunning, hjoinable, (Except.error.inj h).symm⟩
    · cases h

/-- The entry moves data: a send, a receive, or a message handed to the user. -/
def ClientEffect.isTraffic : ClientEffect ι → Bool
  | .sendMessageToConnection .. => true
  | .receiveMessagesOnConnection _ => true
  | .dataReceived _ => true
  | _ => false

/-- The handle that the entry closes, sends to or receives from. -/
def ClientEffect.usedHandle : ClientEffect ι → Option Connection
  | .closeConnection _ conn => some conn
  | .sendMessageToConnection conn _ _ _ => some conn
  | .receiveMessagesOnConnection conn => some conn
  | _ => none

/-- **What a member call can do.**  It attempts to connect an idle client, stops it, or moves
data over its own valid handle and leaves all but the callback as it was. -/
theorem ClientOperation.run_cases {operation : ClientOperation} {c c' : ClientContext ι}
    (h : operation.run parseString me c = .ok c') :
    (∃ address port result, operation = .connect address port result ∧ c.self.running = false
      ∧ c' = { sInstance := some me
               self := UdpClient.afterAttempt parseString address port result c.self
               trace := c.trace ++ .writeInstance me true
                 :: UdpClient.attemptCalls parseString me address port result })
    ∨ (operation = .stop ∧ c' = UdpClient.stop me c)
    ∨ (∃ isSet xs, c' = { c with self := { c.self with onDataReceived := isSet }
                                 trace := c.trace ++ xs }
      ∧ ∀ x ∈ xs, x.isTraffic = true ∧ ∀ conn, x.usedHandle = some conn →
        conn = c.self.conn ∧ conn ≠ kInvalidConnection) := by
  cases operation with
  | connect address port result =>
      rcases run_connect h with ⟨-, rfl⟩ | ⟨hidle, -, rfl⟩
      · exact .inr (.inr ⟨c'.self.onDataReceived, [], by simp, by simp⟩)
      · exact .inl ⟨address, port, result, rfl, hidle, rfl⟩
  | stop => exact .inr (.inl ⟨rfl, (Except.ok.inj h).symm⟩)
  | sendRaw data reliable sent =>
      obtain rfl := Except.ok.inj h
      unfold UdpClient.sendRaw
      split
      · exact .inr (.inr ⟨c.self.onDataReceived, [], by simp, by simp⟩)
      · rename_i hready
        refine .inr (.inr ⟨c.self.onDataReceived, _, rfl, ?_⟩)
        intro x hx
        rw [List.mem_singleton.mp hx]
        refine ⟨rfl, ?_⟩
        rintro conn ⟨⟩
        exact ⟨rfl, by simp_all⟩
  | poll received =>
      rw [run, UdpClient.poll] at h
      split at h
      · obtain ⟨entries, hentries, h⟩ := bind_eq_ok.mp h
        obtain rfl := Except.ok.inj h
        refine .inr (.inr ⟨c.self.onDataReceived, entries, rfl, fun x hx => ?_⟩)
        rcases UdpClient.mem_pollEntries hentries hx with ⟨hconn, rfl⟩ | ⟨message, rfl⟩
        · refine ⟨rfl, ?_⟩
          rintro conn ⟨⟩
          exact ⟨rfl, hconn⟩
        · refine ⟨rfl, ?_⟩
          rintro conn ⟨⟩
      · obtain rfl := Except.ok.inj h
        exact .inr (.inr ⟨c.self.onDataReceived, [], by simp, by simp⟩)
  | setOnDataReceived isSet =>
      obtain rfl := Except.ok.inj h
      exact .inr (.inr ⟨isSet, [], by simp, by simp⟩)

end

end KbNetworking
