/-
# The member functions of a client are confined

The trace of a process tells who opened a handle, whether it is still open, and what each
client wrote to `s_instance`.  Every member function of a client depends on that client
alone, and the entries it adds tell what it writes to the pointer: the class is confined.
-/
import KbNetworking.ClientProcess
import KbNetworking.Lib.Isolation

namespace KbNetworking

open Cpp

variable {ι : Type} [DecidableEq ι]

/-! ## What the trace tells -/

/-- The value that the entry records as a write of client `i` to the pointer. -/
def ClientEffect.writes : ClientEffect ι → ι → Option (Option ι)
  | .writeInstance client attach, i =>
      if client = i then some (if attach then some i else none) else none
  | _, _ => none

/-- The client that opened the handle with this call. -/
def ClientEffect.opener : ClientEffect ι → Connection → Option ι
  | .connectByIPAddress client _ result, conn =>
      if result = conn ∧ result ≠ kInvalidConnection then some client else none
  | _, _ => none

/-- The call opens the handle. -/
def ClientEffect.opens (x : ClientEffect ι) (conn : Connection) : Bool := (x.opener conn).isSome

/-- The call closes the handle. -/
def ClientEffect.closes : ClientEffect ι → Connection → Bool
  | .closeConnection _ closed, conn => closed == conn
  | _, _ => false

/-- The client that opened the handle last. -/
def openedBy (trace : List (ClientEffect ι)) (conn : Connection) : Option ι :=
  Ledger.lastBy ClientEffect.opener trace conn

/-- The handle was opened and not closed since. -/
def isOpen (trace : List (ClientEffect ι)) (conn : Connection) : Bool :=
  Ledger.live ClientEffect.opens ClientEffect.closes trace conn

omit [DecidableEq ι] in
/-- Nobody opened the invalid handle. -/
theorem openedBy_invalid (trace : List (ClientEffect ι)) :
    openedBy trace kInvalidConnection = none := by
  cases hopened : openedBy trace kInvalidConnection with
  | none => rfl
  | some i =>
      obtain ⟨x, -, hx⟩ := Ledger.exists_of_lastBy hopened
      cases x with
      | connectByIPAddress client address result =>
          simp only [ClientEffect.opener] at hx
          split at hx
          · rename_i hresult
            exact absurd hresult.1 hresult.2
          · cases hx
      | _ => cases hx

omit [DecidableEq ι] in
/-- Entries that do not close a handle keep it open. -/
theorem isOpen_append {trace xs : List (ClientEffect ι)} {conn : Connection}
    (hopen : isOpen trace conn = true) (hxs : ∀ x ∈ xs, x.closes conn = false) :
    isOpen (trace ++ xs) conn = true :=
  Ledger.live_append_of_not_released hxs hopen

/-! ## The member functions are confined -/

section Confined

variable {parseString : String → Option SteamNetworkingIPAddr}

theorem lastBy_writeInstance_self (i : ι) (attach : Bool) {xs : List (ClientEffect ι)}
    (h : ∀ x ∈ xs, ∀ j, x.writes j = none) :
    Ledger.lastBy ClientEffect.writes (.writeInstance i attach :: xs) i
      = some (if attach then some i else none) := by
  rw [Ledger.lastBy_cons, Ledger.lastBy_eq_none fun x hx => h x hx i]
  simp [ClientEffect.writes]

/-- A function that writes to the pointer first and not again. -/
theorem after_writeInstance (i : ι) (attach : Bool) (c : ClientContext ι) (self : UdpClient)
    {xs : List (ClientEffect ι)} (h : ∀ x ∈ xs, ∀ j, x.writes j = none) :
    c.after ClientEffect.writes i self (.writeInstance i attach :: xs)
      = { sInstance := if attach then some i else none
          self := self
          trace := c.trace ++ .writeInstance i attach :: xs } := by
  unfold Context.after
  rw [lastBy_writeInstance_self i attach h]
  rfl

theorem lastBy_writeInstance_of_ne {i j : ι} (hj : j ≠ i) (attach : Bool)
    {xs : List (ClientEffect ι)} (h : ∀ x ∈ xs, ∀ j, x.writes j = none) :
    Ledger.lastBy ClientEffect.writes (.writeInstance i attach :: xs) j = none := by
  rw [Ledger.lastBy_cons, Ledger.lastBy_eq_none fun x hx => h x hx j]
  simp [ClientEffect.writes, hj.symm]

/-- A function that does not write to the pointer. -/
theorem after_of_silent (i : ι) (c : ClientContext ι) (self : UdpClient)
    {xs : List (ClientEffect ι)} (h : ∀ x ∈ xs, ∀ j, x.writes j = none) :
    c.after ClientEffect.writes i self xs
      = { sInstance := c.sInstance, self := self, trace := c.trace ++ xs } := by
  unfold Context.after
  rw [Ledger.lastBy_eq_none fun x hx => h x hx i]
  rfl

theorem writes_stopCalls (self : UdpClient) :
    ∀ x ∈ UdpClient.stopCalls (ι := ι) self, ∀ j, x.writes j = none := by
  intro x hx j
  unfold UdpClient.stopCalls at hx
  split at hx
  · rw [List.mem_singleton.mp hx]
    rfl
  · cases hx

theorem writes_attemptCalls (parseString : String → Option SteamNetworkingIPAddr) (i : ι)
    (address : String) (port : UInt16) (result : Connection) :
    ∀ x ∈ UdpClient.attemptCalls parseString i address port result, ∀ j, x.writes j = none := by
  intro x hx j
  unfold UdpClient.attemptCalls at hx
  split at hx
  · rw [List.mem_singleton.mp hx]
    rfl
  · cases hx

theorem confinedTo_stop (i : ι) :
    ConfinedTo ClientEffect.writes i fun c => .ok (UdpClient.stop i c) := by
  intro self
  refine .inr ⟨UdpClient.afterStop self, .writeInstance i false :: UdpClient.stopCalls self, ?_, ?_⟩
  · intro j hj
    exact lastBy_writeInstance_of_ne hj false (writes_stopCalls self)
  · rintro c rfl
    show Except.ok (UdpClient.stop i c) = _
    rw [UdpClient.stop_eq, after_writeInstance i false c _ (writes_stopCalls c.self)]
    rfl

theorem confinedTo_destroy (i : ι) :
    ConfinedTo ClientEffect.writes i (UdpClient.destroy i) := by
  intro self
  rcases confinedTo_stop i self with ⟨e, he⟩ | ⟨self', xs, hothers, hok⟩
  · cases he { sInstance := none, self := self, trace := [] } rfl
  · cases hjoinable : self'.networkThread.joinable with
    | true =>
        refine .inl ⟨.terminate, fun c hc => ?_⟩
        unfold UdpClient.destroy
        rw [Except.ok.inj (hok c hc)]
        simp [Context.after, Thread.destroy_of_joinable hjoinable]
    | false =>
        refine .inr ⟨self', xs, hothers, fun c hc => ?_⟩
        unfold UdpClient.destroy
        rw [Except.ok.inj (hok c hc)]
        simp [Context.after, Thread.destroy_of_not_joinable hjoinable]

theorem confinedTo_connect (i : ι) (address : String) (port : UInt16) (result : Connection) :
    ConfinedTo ClientEffect.writes i
      ((ClientOperation.connect address port result).run parseString i) := by
  intro self
  cases hrunning : self.running with
  | true =>
      refine .inr ⟨self, [], fun j _ => rfl, ?_⟩
      rintro c rfl
      rw [ClientOperation.run, UdpClient.connect_eq, if_pos hrunning]
      simp [Context.after, Except.map]
  | false =>
      cases hjoinable : self.networkThread.joinable with
      | true =>
          refine .inl ⟨.terminate, ?_⟩
          rintro c rfl
          rw [ClientOperation.run, UdpClient.connect_eq]
          simp [hrunning, hjoinable, Except.map]
      | false =>
          have hcalls := writes_attemptCalls parseString i address port result
          refine .inr ⟨UdpClient.afterAttempt parseString address port result self, _,
            fun j hj => lastBy_writeInstance_of_ne hj true hcalls, ?_⟩
          rintro c rfl
          rw [ClientOperation.run, UdpClient.connect_eq, after_writeInstance i true c _ hcalls]
          simp [hrunning, hjoinable, Except.map]

/-- A function that does not write to the pointer is confined when it depends on its object
alone. -/
theorem confinedTo_of_silent {i : ι} {f : ClientContext ι → Checked (ClientContext ι)}
    (h : ∀ self, (∃ e, ∀ c : ClientContext ι, c.self = self → f c = .error e)
      ∨ ∃ self' xs, (∀ x ∈ xs, ∀ j, ClientEffect.writes x j = none)
        ∧ ∀ c : ClientContext ι, c.self = self →
          f c = .ok { sInstance := c.sInstance, self := self', trace := c.trace ++ xs }) :
    ConfinedTo ClientEffect.writes i f := by
  intro self
  rcases h self with herror | ⟨self', xs, hxs, hok⟩
  · exact .inl herror
  · refine .inr ⟨self', xs, fun j _ => Ledger.lastBy_eq_none fun x hx => hxs x hx j, ?_⟩
    intro c hc
    rw [hok c hc, after_of_silent i c self' hxs]

theorem confinedTo_sendRaw (i : ι) (data : List UInt8) (reliable sent : Bool) :
    ConfinedTo ClientEffect.writes i
      fun c => .ok (UdpClient.sendRaw data reliable sent c).1 := by
  refine confinedTo_of_silent fun self => .inr ?_
  cases hready : !self.interface || self.conn == kInvalidConnection with
  | true =>
      refine ⟨self, [], nofun, ?_⟩
      rintro c rfl
      unfold UdpClient.sendRaw
      rw [if_pos (by simpa using hready), List.append_nil]
  | false =>
      refine ⟨self, [.sendMessageToConnection self.conn
        (data.take (UInt32.ofNat data.length).toNat) reliable sent], ?_, ?_⟩
      · intro x hx j
        rw [List.mem_singleton.mp hx]
        rfl
      · rintro c rfl
        unfold UdpClient.sendRaw
        rw [if_neg (by simpa using hready)]
        rfl

theorem confinedTo_poll (i : ι) (received : UdpClient.Received) :
    ConfinedTo ClientEffect.writes i (UdpClient.poll received) := by
  refine confinedTo_of_silent fun self => ?_
  cases hrunning : self.running with
  | false =>
      refine .inr ⟨self, [], nofun, ?_⟩
      rintro c rfl
      unfold UdpClient.poll
      rw [if_neg (by simp [hrunning]), List.append_nil]
  | true =>
      cases hentries : self.pollEntries received with
      | error e =>
          refine .inl ⟨e, ?_⟩
          rintro c rfl
          unfold UdpClient.poll
          rw [if_pos hrunning, hentries]
          rfl
      | ok entries =>
          refine .inr ⟨self, entries, fun x hx j => ?_, ?_⟩
          · rcases UdpClient.mem_pollEntries hentries hx with ⟨-, rfl⟩ | ⟨message, rfl⟩
            · rfl
            · rfl
          · rintro c rfl
            unfold UdpClient.poll
            rw [if_pos hrunning, hentries]
            rfl

theorem confinedTo_onConnectionStatusChanged (i : ι) (event : StatusEvent) :
    ConfinedTo ClientEffect.writes i
      fun c => .ok (UdpClient.onConnectionStatusChanged event c) := by
  refine confinedTo_of_silent fun self =>
    .inr ⟨UdpClient.afterEvent event self, UdpClient.eventCalls event, ?_, ?_⟩
  · intro x hx j
    unfold UdpClient.eventCalls at hx
    split at hx
    · rw [List.mem_singleton.mp hx]
      rfl
    · cases hx
  · rintro c rfl
    show Except.ok (UdpClient.onConnectionStatusChanged event c) = _
    rw [UdpClient.onConnectionStatusChanged_eq]

/-- The member functions of a client are confined. -/
theorem clientClass_confined (parseString : String → Option SteamNetworkingIPAddr) :
    (clientClass ι parseString).Confined ClientEffect.writes where
  own := by
    intro x i w hx
    cases x with
    | writeInstance client attach =>
        simp only [ClientEffect.writes] at hx
        split at hx
        · rw [← Option.some.inj hx]
          cases attach with
          | true => exact .inr rfl
          | false => exact .inl rfl
        · cases hx
    | _ => cases hx
  destroy := confinedTo_destroy
  call := by
    intro i operation
    cases operation with
    | connect address port result => exact confinedTo_connect i address port result
    | stop => exact confinedTo_stop i
    | sendRaw data reliable sent => exact confinedTo_sendRaw i data reliable sent
    | poll received => exact confinedTo_poll i received
    | setOnDataReceived isSet =>
        refine confinedTo_of_silent fun self =>
          .inr ⟨{ self with onDataReceived := isSet }, [], nofun, ?_⟩
        rintro c rfl
        rw [List.append_nil]
        rfl
  handle := confinedTo_onConnectionStatusChanged

end Confined

end KbNetworking
