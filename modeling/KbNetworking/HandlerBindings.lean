/-
# What the history of bindings decides

Both packet endpoints keep a table of handlers, which `bind_packet_handler` and
`unbind_packet_handler` change and a packet is looked up in.  The server stores a copy of the
handler with `operator[]`, the client moves it in with `emplace`.

`Bindings` is the table that both stand for: the first handler bound to a type stays until
the type is unbound.  Each endpoint does what it does (`server_simulates`, `client_simulates`),
so what is proved of a run of the table holds of a run of either endpoint:
`handlerBindings_decide` says which operation of a history decides each reply.
-/
import KbNetworking.Lib.Ledger
import KbNetworking.UdpPacketClient

namespace KbNetworking

open Cpp

variable {Obj Payload H S ω : Type}

/-! ## Operations and replies -/

/-- A call on a packet endpoint, or a packet that is delivered to it; `S` says from where. -/
inductive HandlerOperation (S H : Type) : Type where
  | bind (t : PacketType) (handler : H)
  | unbind (t : PacketType)
  | deliver (source : S) (data : List UInt8)

/-- What the call returns. -/
inductive HandlerReply (ω : Type) : Type where
  | bound (value : Bool)
  | unbound
  | handled (result : HandleResult ω)

/-- The type that the operation is about: that of the header, for a packet. -/
def HandlerOperation.packetType : HandlerOperation S H → Option PacketType
  | .bind t _ => some t
  | .unbind t => some t
  | .deliver _ data => (parseHeader data).map (·.packetType)

/-- The functions of a packet endpoint with the state `σ`. -/
structure PacketEndpoint (S H ω σ : Type) where
  bind : σ → PacketType → H → σ × Bool
  unbind : σ → PacketType → σ
  deliver : σ → S → List UInt8 → Checked (HandleResult ω)

namespace PacketEndpoint

variable {σ : Type} (e : PacketEndpoint S H ω σ)

/-- One operation. -/
def perform (s : σ) : HandlerOperation S H → Checked (σ × HandlerReply ω)
  | .bind t handler =>
      match e.bind s t handler with
      | (s, value) => .ok (s, .bound value)
  | .unbind t => .ok (e.unbind s t, .unbound)
  | .deliver source data => do
      let result ← e.deliver s source data
      return (s, .handled result)

/-- Operations one after the other, each with its reply. -/
def run (s : σ) : List (HandlerOperation S H) →
    Checked (List (HandlerOperation S H × HandlerReply ω))
  | [] => .ok []
  | operation :: operations => do
      let (s, reply) ← e.perform s operation
      let log ← run s operations
      return (operation, reply) :: log

end PacketEndpoint

/-- `UdpPacketServer<SerdeT>`. -/
def serverEndpoint :
    PacketEndpoint ClientInfo H (Invocation H Payload) (UdpPacketServer Obj Payload H) where
  bind := UdpPacketServer.bindPacketHandler
  unbind := UdpPacketServer.unbindPacketHandler
  deliver := UdpPacketServer.handlePacket

/-- `UdpPacketClient<SerdeT>` without a pre-handler. -/
def clientEndpoint :
    PacketEndpoint Connection H (H × Payload) (UdpPacketClient Obj Payload H) where
  bind := UdpPacketClient.bindPacketHandler
  unbind := UdpPacketClient.unbindPacketHandler
  deliver := fun self conn data => (self.handleMessage none ⟨conn, data⟩ ()).map Prod.snd

/-! ## The table that both stand for -/

/-- The handler of each type. -/
abbrev Bindings (H : Type) := PacketType → Option H

namespace Bindings

/-- The handler and the payload of a packet. -/
def dispatch (bindings : Bindings H) (serializer : PacketSerializer Obj Payload)
    (data : List UInt8) : Option (H × Payload) := do
  let header ← parseHeader data
  guard (header.serdeType = serializer.serdeType)
  let handler ← bindings header.packetType
  let payload ← serializer.deserializePacket (data.drop headerSize)
  return (handler, payload)

/-- What an operation leaves of the table. -/
def after (bindings : Bindings H) : HandlerOperation S H → Bindings H
  | .bind t handler =>
      if (bindings t).isSome then bindings else Function.update bindings t (some handler)
  | .unbind t => Function.update bindings t none
  | .deliver _ _ => bindings

/-- What an operation is answered with. -/
def reply (bindings : Bindings H) (serializer : PacketSerializer Obj Payload)
    (invocation : S → H × Payload → ω) : HandlerOperation S H → HandlerReply ω
  | .bind t _ => .bound !(bindings t).isSome
  | .unbind _ => .unbound
  | .deliver source data =>
      .handled (match bindings.dispatch serializer data with
        | none => .rejected
        | some found => { returned := true, invoked := [invocation source found] })

/-- Operations one after the other, each with its reply. -/
def log (serializer : PacketSerializer Obj Payload) (invocation : S → H × Payload → ω) :
    Bindings H → List (HandlerOperation S H) →
      List (HandlerOperation S H × HandlerReply ω)
  | _, [] => []
  | bindings, operation :: operations =>
      (operation, bindings.reply serializer invocation operation)
        :: log serializer invocation (bindings.after operation) operations

end Bindings

/-- The endpoint in the state `s` does what the table of `s` does. -/
def PacketEndpoint.Simulates {σ : Type} (e : PacketEndpoint S H ω σ) (table : σ → Bindings H)
    (serializer : σ → PacketSerializer Obj Payload) (invocation : S → H × Payload → ω) : Prop :=
  ∀ s operation, ∃ s', e.perform s operation
      = .ok (s', (table s).reply (serializer s) invocation operation)
    ∧ table s' = (table s).after operation ∧ serializer s' = serializer s

/-- A run of the endpoint is a run of the table. -/
theorem PacketEndpoint.Simulates.run {σ : Type} {e : PacketEndpoint S H ω σ}
    {table : σ → Bindings H} {serializer : σ → PacketSerializer Obj Payload}
    {invocation : S → H × Payload → ω} (h : e.Simulates table serializer invocation) (s : σ)
    (operations : List (HandlerOperation S H)) :
    e.run s operations = .ok ((table s).log (serializer s) invocation operations) := by
  induction operations generalizing s with
  | nil => rfl
  | cons operation operations ih =>
      obtain ⟨s', hperform, htable, hserializer⟩ := h s operation
      rw [PacketEndpoint.run, hperform, ok_bind]
      dsimp only
      rw [ih, htable, hserializer]
      rfl

theorem bindings_insert (table : HandlerTable H) (t : PacketType) (handler : H) :
    (fun u => (table.insert t handler)[u]?)
      = Function.update (fun u => table[u]?) t (some handler) := by
  funext u
  rw [Std.ExtTreeMap.getElem?_insert, Function.update_apply]
  exact if_congr (Std.LawfulEqCmp.compare_eq_iff_eq.trans eq_comm) rfl rfl

/-- `emplace` does what `operator[]` does on a type that has no handler. -/
theorem insertIfNew_of_not_contains {table : HandlerTable H} {t : PacketType}
    (h : table.contains t = false) (handler : H) :
    table.insertIfNew t handler = table.insert t handler := by
  apply Std.ExtTreeMap.ext_getElem?
  intro u
  have hmem : ¬ t ∈ table := by
    rw [Std.ExtTreeMap.mem_iff_contains, h]
    exact Bool.false_ne_true
  rw [Std.ExtTreeMap.getElem?_insertIfNew, Std.ExtTreeMap.getElem?_insert]
  simp [hmem]

theorem bindings_erase (table : HandlerTable H) (t : PacketType) :
    (fun u => (table.erase t)[u]?) = Function.update (fun u => table[u]?) t none := by
  funext u
  rw [Std.ExtTreeMap.getElem?_erase, Function.update_apply]
  exact if_congr (Std.LawfulEqCmp.compare_eq_iff_eq.trans eq_comm) rfl rfl

theorem bindings_dispatch (table : HandlerTable H) (serializer : PacketSerializer Obj Payload)
    (data : List UInt8) :
    Bindings.dispatch (fun t => table[t]?) serializer data = dispatch serializer table data := rfl

/-- The server does what the table does. -/
theorem server_simulates : (@serverEndpoint Obj Payload H).Simulates
    (fun self t => self.packetHandlers[t]?) (fun self => self.serializer)
    (fun client found => ⟨found.1, client.conn, found.2⟩) := by
  intro self operation
  cases operation with
  | bind t handler =>
      have hbound : (self.packetHandlers[t]?).isSome = self.packetHandlers.contains t := by simp
      unfold PacketEndpoint.perform serverEndpoint UdpPacketServer.bindPacketHandler Bindings.reply
        Bindings.after
      dsimp only
      rw [hbound]
      cases self.packetHandlers.contains t with
      | true => exact ⟨self, rfl, rfl, rfl⟩
      | false => exact ⟨_, rfl, bindings_insert self.packetHandlers t handler, rfl⟩
  | unbind t => exact ⟨_, rfl, bindings_erase self.packetHandlers t, rfl⟩
  | deliver client data =>
      refine ⟨self, ?_, rfl, rfl⟩
      have hdeliver := self.handlePacket_eq client data
      unfold PacketEndpoint.perform serverEndpoint Bindings.reply
      dsimp only
      rw [hdeliver, bindings_dispatch]
      cases dispatch self.serializer self.packetHandlers data <;> rfl

/-- The client does what the table does. -/
theorem client_simulates : (@clientEndpoint Obj Payload H).Simulates
    (fun self t => self.handlers[t]?) (fun self => self.serializer) (fun _ found => found) := by
  intro self operation
  cases operation with
  | bind t handler =>
      have hbound : (self.handlers[t]?).isSome = self.handlers.contains t := by simp
      unfold PacketEndpoint.perform clientEndpoint UdpPacketClient.bindPacketHandler Bindings.reply
        Bindings.after
      dsimp only
      rw [hbound]
      cases hcontains : self.handlers.contains t with
      | true => exact ⟨self, rfl, rfl, rfl⟩
      | false =>
          rw [insertIfNew_of_not_contains hcontains]
          exact ⟨_, rfl, bindings_insert self.handlers t handler, rfl⟩
  | unbind t => exact ⟨_, rfl, bindings_erase self.handlers t, rfl⟩
  | deliver conn data =>
      refine ⟨self, ?_, rfl, rfl⟩
      have hdeliver := self.handleMessage_eq ⟨conn, data⟩ ()
      unfold PacketEndpoint.perform clientEndpoint Bindings.reply
      dsimp only
      rw [hdeliver, bindings_dispatch]
      cases dispatch self.serializer self.handlers data <;> rfl

/-! ## What the history says -/

/-- The operation binds `t` to the handler. -/
def HandlerOperation.binds : HandlerOperation S H → PacketType → Option H
  | .bind u handler, t => if u = t then some handler else none
  | _, _ => none

def HandlerOperation.unbinds : HandlerOperation S H → PacketType → Bool
  | .unbind u, t => u = t
  | _, _ => false

/-- The handler given by the earliest bind of `t` after the latest unbind of `t`. -/
def earliestBind (history : List (HandlerOperation S H × HandlerReply ω)) (t : PacketType) :
    Option H :=
  Ledger.firstBy HandlerOperation.binds HandlerOperation.unbinds (history.map Prod.fst) t

/-- The entry is a bind of `t` that returned true. -/
def bindsSuccessfully (entry : HandlerOperation S H × HandlerReply ω) (t : PacketType) : Bool :=
  match entry with
  | (.bind u _, .bound value) => u = t && value
  | _ => false

/-- `t` was never bound, or was unbound since its last successful bind. -/
def IsFree (history : List (HandlerOperation S H × HandlerReply ω)) (t : PacketType) : Prop :=
  (∀ entry ∈ history, bindsSuccessfully entry t = false)
    ∨ ∃ entry ∈ history.rtakeWhile (fun entry => !bindsSuccessfully entry t),
        entry.1.unbinds t = true

/-- The data is a packet of the type `t` with a payload that can be decoded. -/
def CarriesPacket (serializer : PacketSerializer Obj Payload) (data : List UInt8)
    (t : PacketType) (payload : Payload) : Prop :=
  ∃ header, parseHeader data = some header ∧ header.serdeType = serializer.serdeType
    ∧ header.packetType = t ∧ serializer.deserializePacket (data.drop headerSize) = some payload

/-- The reply to each operation is decided by the history before it. -/
def Decided (serializer : PacketSerializer Obj Payload) (invocation : S → H × Payload → ω)
    (history : List (HandlerOperation S H × HandlerReply ω)) :
    HandlerOperation S H × HandlerReply ω → Prop
  | (.bind t _, reply) => ∃ value, reply = .bound value ∧ (value = true ↔ IsFree history t)
  | (.unbind _, reply) => reply = .unbound
  | (.deliver source data, reply) => ∃ result, reply = .handled result
      ∧ (∀ t payload, CarriesPacket serializer data t payload →
          result = match earliestBind history t with
            | some handler =>
                { returned := true, invoked := [invocation source (handler, payload)] }
            | none => .rejected)
      ∧ ((∀ t payload, ¬ CarriesPacket serializer data t payload) → result = .rejected)

/-! ## Runs of the table -/

section

variable {serializer : PacketSerializer Obj Payload} {invocation : S → H × Payload → ω}

/-- The table after several operations. -/
def Bindings.afterAll (bindings : Bindings H) (operations : List (HandlerOperation S H)) :
    Bindings H :=
  operations.foldl Bindings.after bindings

theorem Bindings.afterAll_concat (bindings : Bindings H)
    (operations : List (HandlerOperation S H)) (operation : HandlerOperation S H) :
    bindings.afterAll (operations ++ [operation])
      = (bindings.afterAll operations).after operation :=
  List.foldl_concat ..

theorem bindings_log_append (bindings : Bindings H)
    (operations later : List (HandlerOperation S H)) :
    bindings.log serializer invocation (operations ++ later)
      = bindings.log serializer invocation operations
        ++ (bindings.afterAll operations).log serializer invocation later := by
  induction operations generalizing bindings with
  | nil => rfl
  | cons operation operations ih =>
      rw [List.cons_append, Bindings.log, ih]
      rfl

theorem map_fst_log (bindings : Bindings H) (operations : List (HandlerOperation S H)) :
    (bindings.log serializer invocation operations).map Prod.fst = operations := by
  induction operations generalizing bindings with
  | nil => rfl
  | cons operation operations ih => rw [Bindings.log, List.map_cons, ih]

/-- One operation as the earliest bind sees it. -/
theorem after_eq_firstBy (bindings : Bindings H) (operation : HandlerOperation S H)
    (t : PacketType) :
    bindings.after operation t
      = if operation.unbinds t then none else (bindings t <|> operation.binds t) := by
  cases operation with
  | bind u handler =>
      by_cases hu : u = t
      · subst hu
        cases hbound : bindings u <;>
          simp [Bindings.after, HandlerOperation.unbinds, HandlerOperation.binds, hbound]
      · cases hbound : bindings u <;>
          simp [Bindings.after, HandlerOperation.unbinds, HandlerOperation.binds, hu, hbound,
            Function.update_of_ne (Ne.symm hu)]
  | unbind u =>
      by_cases hu : u = t
      · subst hu
        simp [Bindings.after, HandlerOperation.unbinds]
      · simp [Bindings.after, HandlerOperation.unbinds, HandlerOperation.binds, hu,
          Function.update_of_ne (Ne.symm hu)]
  | deliver source data =>
      simp [Bindings.after, HandlerOperation.unbinds, HandlerOperation.binds]

/-- **The table is the history**: the handler of a type is that of the earliest bind after the
latest unbind. -/
theorem afterAll_eq_earliestBind (operations : List (HandlerOperation S H)) (t : PacketType) :
    Bindings.afterAll (fun _ => none) operations t
      = Ledger.firstBy HandlerOperation.binds HandlerOperation.unbinds operations t := by
  induction operations using List.reverseRecOn with
  | nil => rfl
  | append_singleton operations operation ih =>
      rw [Bindings.afterAll_concat, after_eq_firstBy, Ledger.firstBy_concat, ih]

/-- What one more entry does to a type that is free. -/
theorem isFree_concat (history : List (HandlerOperation S H × HandlerReply ω))
    (entry : HandlerOperation S H × HandlerReply ω) (t : PacketType) :
    IsFree (history ++ [entry]) t
      ↔ bindsSuccessfully entry t = false
        ∧ (entry.1.unbinds t = true ∨ IsFree history t) := by
  unfold IsFree
  cases hbinds : bindsSuccessfully entry t with
  | true =>
      rw [List.rtakeWhile_concat_neg _ _ _ (by simp [hbinds])]
      refine iff_of_false ?_ (fun h => Bool.false_ne_true h.1.symm)
      rintro (hnever | ⟨other, hother, -⟩)
      · cases hbinds.symm.trans (hnever entry (by simp))
      · cases hother
  | false =>
      rw [List.rtakeWhile_concat_pos _ _ _ (by simp [hbinds])]
      simp only [List.mem_append, List.mem_singleton, or_imp, forall_and, forall_eq, hbinds,
        and_true, true_and, or_and_right, exists_or, exists_eq_left]
      exact or_rotate.symm

/-- A type is free exactly when it has no handler. -/
theorem isFree_iff (operations : List (HandlerOperation S H)) (t : PacketType) :
    IsFree (Bindings.log serializer invocation (fun _ => none) operations) t
      ↔ Bindings.afterAll (fun _ => none) operations t = none := by
  induction operations using List.reverseRecOn with
  | nil => exact iff_of_true (.inl nofun) rfl
  | append_singleton operations operation ih =>
      rw [bindings_log_append, Bindings.afterAll_concat, after_eq_firstBy]
      dsimp only [Bindings.log]
      rw [isFree_concat, ih]
      cases operation with
      | bind u handler =>
          by_cases hu : u = t
          · subst hu
            cases hbound : Bindings.afterAll (fun _ => none) operations u <;>
              simp [bindsSuccessfully, Bindings.reply, HandlerOperation.unbinds,
                HandlerOperation.binds, hbound]
          · simp [bindsSuccessfully, Bindings.reply, HandlerOperation.unbinds,
              HandlerOperation.binds, hu]
      | unbind u =>
          by_cases hu : u = t <;>
            simp [bindsSuccessfully, HandlerOperation.unbinds, HandlerOperation.binds, hu]
      | deliver source data =>
          simp [bindsSuccessfully, HandlerOperation.unbinds, HandlerOperation.binds]

/-- The reply that the table gives is the one that the history decides. -/
theorem decided_reply (operations : List (HandlerOperation S H))
    (operation : HandlerOperation S H) :
    Decided serializer invocation
      (Bindings.log serializer invocation (fun _ => none) operations)
      (operation,
        (Bindings.afterAll (fun _ => none) operations).reply serializer invocation operation) := by
  cases operation with
  | bind t handler =>
      refine ⟨_, rfl, ?_⟩
      rw [isFree_iff]
      simp
  | unbind t => rfl
  | deliver source data =>
      refine ⟨_, rfl, ?_, ?_⟩
      · rintro t payload ⟨header, hparse, hserde, rfl, hpayload⟩
        rw [earliestBind, map_fst_log, ← afterAll_eq_earliestBind]
        cases hbound : Bindings.afterAll (fun _ => none) operations header.packetType <;>
          simp [Bindings.dispatch, hparse, hserde, hbound, hpayload]
      · intro hnone
        have hrejected : Bindings.dispatch (Bindings.afterAll (fun _ => none) operations) serializer
            data = none := by
          unfold Bindings.dispatch
          cases hparse : parseHeader data with
          | none => rfl
          | some header =>
              by_cases hserde : header.serdeType = serializer.serdeType
              · cases hpayload : serializer.deserializePacket (data.drop headerSize) with
                | none => simp
                | some payload =>
                    exact absurd ⟨header, hparse, hserde, rfl, hpayload⟩
                      (hnone header.packetType payload)
              · simp [hserde, guard]
        rw [hrejected]

theorem eachEntry_decided (operations : List (HandlerOperation S H)) :
    Ledger.EachEntry (Decided serializer invocation)
      (Bindings.log serializer invocation (fun _ => none) operations) := by
  induction operations using List.reverseRecOn with
  | nil => exact Ledger.eachEntry_nil _
  | append_singleton operations operation ih =>
      rw [bindings_log_append]
      exact ih.concat (decided_reply operations operation)

/-! ## One type at a time -/

/-- The operation is about `t`. -/
def HandlerOperation.isAbout (operation : HandlerOperation S H) (t : PacketType) : Bool :=
  operation.packetType = some t

/-- An operation about another type leaves the handler of `t` as it is. -/
theorem after_of_not_isAbout {operation : HandlerOperation S H} {t : PacketType}
    (h : operation.isAbout t = false) (bindings : Bindings H) :
    bindings.after operation t = bindings t := by
  rw [after_eq_firstBy]
  cases operation with
  | bind u handler =>
      have hu : u ≠ t := by simpa [HandlerOperation.isAbout, HandlerOperation.packetType] using h
      simp [HandlerOperation.unbinds, HandlerOperation.binds, hu]
  | unbind u =>
      have hu : u ≠ t := by simpa [HandlerOperation.isAbout, HandlerOperation.packetType] using h
      simp [HandlerOperation.unbinds, HandlerOperation.binds, hu]
  | deliver source data => simp [HandlerOperation.unbinds, HandlerOperation.binds]

/-- The reply to an operation about `t` depends on the handler of `t` alone. -/
theorem reply_congr {operation : HandlerOperation S H} {t : PacketType}
    (h : operation.isAbout t = true) {bindings bindings' : Bindings H}
    (heq : bindings t = bindings' t) :
    bindings.reply serializer invocation operation
      = bindings'.reply serializer invocation operation := by
  cases operation with
  | bind u handler =>
      have hu : u = t := by simpa [HandlerOperation.isAbout, HandlerOperation.packetType] using h
      rw [Bindings.reply, Bindings.reply, hu, heq]
  | unbind u => rfl
  | deliver source data =>
      have hdispatch : bindings.dispatch serializer data = bindings'.dispatch serializer data := by
        unfold Bindings.dispatch
        cases hparse : parseHeader data with
        | none => rfl
        | some header =>
            have ht : header.packetType = t := by
              simpa [HandlerOperation.isAbout, HandlerOperation.packetType, hparse] using h
            simp only [Option.bind_eq_bind, Option.bind_some, ht, heq]
      rw [Bindings.reply, Bindings.reply, hdispatch]

/-- **Types do not interfere**: what happens for `t` in a run is what happens in the run of the
operations about `t` alone. -/
theorem log_filter (t : PacketType) (operations : List (HandlerOperation S H))
    {bindings bindings' : Bindings H} (heq : bindings t = bindings' t) :
    bindings'.log serializer invocation (operations.filter (·.isAbout t))
      = (bindings.log serializer invocation operations).filter (·.1.isAbout t) := by
  induction operations generalizing bindings bindings' with
  | nil => rfl
  | cons operation operations ih =>
      cases habout : operation.isAbout t with
      | true =>
          have hafter : bindings.after operation t = bindings'.after operation t := by
            rw [after_eq_firstBy, after_eq_firstBy, heq]
          simp only [List.filter_cons, Bindings.log, habout, if_true]
          rw [ih hafter, reply_congr habout heq]
      | false =>
          have hafter : bindings.after operation t = bindings' t :=
            (after_of_not_isAbout habout bindings).trans heq
          simp only [List.filter_cons, Bindings.log, habout, Bool.false_eq_true, if_false]
          exact ih hafter

end

/-! ## Runs of the endpoints -/

/-- A run from an empty table: every operation is answered as the history before it decides,
and what happens for one type is what happens without the operations about other types. -/
def HistoryDecides {σ : Type} (e : PacketEndpoint S H ω σ) (start : σ)
    (serializer : PacketSerializer Obj Payload) (invocation : S → H × Payload → ω)
    (operations : List (HandlerOperation S H)) : Prop :=
  ∃ log, e.run start operations = .ok log ∧ log.map Prod.fst = operations
    ∧ Ledger.EachEntry (Decided serializer invocation) log
    ∧ ∀ t, e.run start (operations.filter (·.isAbout t))
        = .ok (log.filter (·.1.isAbout t))

theorem historyDecides_of_simulates {σ : Type} {e : PacketEndpoint S H ω σ}
    {table : σ → Bindings H} {serializer : σ → PacketSerializer Obj Payload}
    {invocation : S → H × Payload → ω} (h : e.Simulates table serializer invocation) {start : σ}
    (hempty : table start = fun _ => none) (operations : List (HandlerOperation S H)) :
    HistoryDecides e start (serializer start) invocation operations := by
  refine ⟨_, h.run start operations, map_fst_log _ operations, ?_, fun t => ?_⟩
  · rw [hempty]
    exact eachEntry_decided operations
  · rw [h.run, log_filter t operations rfl]

/-- **Binding history decides dispatch**, on a packet server and on a packet client without a
pre-handler: for every run, which handler a packet goes to and what a bind returns is decided
by the operations before it, and types do not interfere. -/
theorem handlerBindings_decide (serializer : PacketSerializer Obj Payload) :
    (∀ operations : List (HandlerOperation ClientInfo H),
      HistoryDecides serverEndpoint
        ({ serializer := serializer } : UdpPacketServer Obj Payload H) serializer
        (fun client found => ⟨found.1, client.conn, found.2⟩) operations)
    ∧ ∀ operations : List (HandlerOperation Connection H),
      HistoryDecides clientEndpoint
        ({ serializer := serializer } : UdpPacketClient Obj Payload H) serializer
        (fun _ found => found) operations := by
  constructor
  · intro operations
    refine historyDecides_of_simulates server_simulates ?_ operations
    funext t
    exact Std.ExtTreeMap.getElem?_empty
  · intro operations
    refine historyDecides_of_simulates client_simulates ?_ operations
    funext t
    exact Std.ExtTreeMap.getElem?_empty

end KbNetworking
