/-
# Requests and answers

Two consequences of the delivery of packets for the applications of a packet server and its
clients.

* `requests_answered`: if the server sends a client nothing but the answers of its handlers,
  then the client handles the answers to its own requests, in the order of the requests,
  each once, whatever the other clients and the transport do meanwhile.
* `calls_ordered`: every client handles what the server sent in the order of the server's
  calls, so any two clients agree on the order of the broadcasts that both got.
-/
import KbNetworking.NetworkDelivery
import KbNetworking.PacketSending

namespace KbNetworking

open Cpp

variable {Obj H : Type}

/-! ## What a step does to one session -/

/-- What happens on the client's side runs no handler of the server and sends nothing to the
client. -/
theorem Session.step_server {client : UdpPacketClient Obj Obj H} {s s' : Session Obj H}
    {a : SessionAction Obj} (hstep : s.step client a = some s') :
    s'.handledUp = s.handledUp ∧ s'.responses = s.responses := by
  cases a with
  | send x reliable sent =>
      dsimp only [Session.step] at hstep
      split at hstep
      · exact Option.some.inj hstep ▸ ⟨rfl, rfl⟩
      · exact Option.some.inj hstep ▸ ⟨rfl, rfl⟩
      · cases hstep
  | poll count =>
      have hpoll : s.poll client count = .ok s' := toOption_eq_some.mp hstep
      unfold Session.poll at hpoll
      split at hpoll
      · obtain ⟨output, -, hpoll⟩ := bind_eq_ok.mp hpoll
        exact Except.ok.inj hpoll ▸ ⟨rfl, rfl⟩
      · exact Except.ok.inj hpoll ▸ ⟨rfl, rfl⟩
  | stop => exact Option.some.inj hstep ▸ ⟨rfl, rfl⟩
  | event event =>
      dsimp only [Session.step] at hstep
      split at hstep <;> exact Option.some.inj hstep ▸ ⟨rfl, rfl⟩
  | arriveUp | arriveUpLoose data | arriveDown | arriveDownLoose data =>
      obtain ⟨channel, -, rfl⟩ := Option.map_eq_some_iff.mp hstep
      exact ⟨rfl, rfl⟩

namespace PacketNetwork

variable {sys : PacketSystem Obj H} {n n' : PacketNetwork Obj H}

/-- The server's side of a step: it runs handlers and posts, as its calls say. -/
structure Advances (n n' : PacketNetwork Obj H) (runs : List (Invocation H Obj))
    (postings : List (Posting Obj)) (calls : List (Sending Obj)) : Prop where
  calls_eq : n'.calls = n.calls ++ calls
  sessions : ∀ conn s', n'.sessions conn = some s' →
    (n.sessions conn = none ∧ s'.handledUp = [] ∧ s'.responses = [])
      ∨ ∃ s, n.sessions conn = some s ∧ s'.handledUp = s.handledUp ++ runsOf conn runs
        ∧ s'.responses = s.responses ++ postings.filterMap (Posting.sentTo conn)

theorem advances_refl (n : PacketNetwork Obj H) : Advances n n [] [] [] where
  calls_eq := (List.append_nil _).symm
  sessions := fun _ s hs =>
    .inr ⟨s, hs, (List.append_nil _).symm, (List.append_nil _).symm⟩

theorem advances_settle (n : PacketNetwork Obj H) (c : ServerContext Unit)
    (postings : List (Posting Obj)) (calls : List (Sending Obj)) :
    Advances n (n.settle c postings calls) [] postings calls where
  calls_eq := rfl
  sessions := by
    intro conn s' hs'
    obtain ⟨s, hs, rfl⟩ := Option.map_eq_some_iff.mp hs'
    exact .inr ⟨s, hs, (List.append_nil _).symm, rfl⟩

/-- What each step runs, posts and calls. -/
theorem advances_step {a : NetworkAction Obj} (hstep : PacketNetwork.step sys n a = some n')
    (h : n.Sound sys) :
    Advances n n' [] [] []
    ∨ (∃ order sent runs, a = .poll order sent
      ∧ Advances n n' runs (sys.answers sent runs) ((sys.answers sent runs).map Posting.sending))
    ∨ (∃ x, a = .send x ∧ Advances n n' [] [x] [x.sending])
    ∨ ∃ x reliable sent, a = .broadcast x reliable sent
      ∧ Advances n n' [] (n.server.self.clients.keys.map fun conn => ⟨conn, x, reliable, sent conn⟩)
        [x] := by
  cases a with
  | connect conn client address port result =>
      dsimp only [PacketNetwork.step] at hstep
      split at hstep
      · rename_i hnone hconnect
        obtain rfl := Option.some.inj hstep
        refine .inl ⟨(List.append_nil _).symm, fun k s' hs' => ?_⟩
        by_cases hk : k = conn
        · subst hk
          rw [putSession_self] at hs'
          obtain rfl := Option.some.inj hs'
          exact .inl ⟨hnone, rfl, rfl⟩
        · rw [putSession_of_ne _ _ hk] at hs'
          exact (advances_refl n).sessions k s' hs'
      · cases hstep
  | session conn a =>
      obtain ⟨s, hs, hstep⟩ := Option.bind_eq_some_iff.mp hstep
      obtain ⟨s₁, hs₁, rfl⟩ := Option.map_eq_some_iff.mp hstep
      obtain ⟨hhandled, hresponses⟩ := Session.step_server hs₁
      refine .inl ⟨(List.append_nil _).symm, fun k s' hs' => ?_⟩
      by_cases hk : k = conn
      · subst hk
        rw [putSession_self] at hs'
        obtain rfl := Option.some.inj hs'
        exact .inr ⟨s, hs, by rw [hhandled]; exact (List.append_nil _).symm,
          by rw [hresponses]; exact (List.append_nil _).symm⟩
      · rw [putSession_of_ne _ _ hk] at hs'
        exact (advances_refl n).sessions k s' hs'
  | control operation =>
      dsimp only [PacketNetwork.step] at hstep
      split at hstep
      · obtain ⟨c, -, rfl⟩ := Option.map_eq_some_iff.mp hstep
        exact .inl (advances_settle n c [] [])
      · cases hstep
  | event event reply =>
      dsimp only [PacketNetwork.step] at hstep
      split at hstep
      · exact .inl (Option.some.inj hstep ▸ advances_settle n _ [] [])
      · exact .inl (Option.some.inj hstep ▸ advances_refl n)
  | poll order sent =>
      obtain ⟨messages, taken, runs, htook, -, rfl⟩ := poll_cases hstep h.registered
      refine .inr (.inl ⟨order, sent, runs, rfl, ?_, fun conn s' hs' => ?_⟩)
      · show taken.calls ++ _ = _
        rw [htook.calls]
      · obtain ⟨s₂, hs₂, rfl⟩ := Option.map_eq_some_iff.mp hs'
        obtain ⟨s₁, hs₁, rfl⟩ := Option.map_eq_some_iff.mp hs₂
        obtain ⟨s, hs, heq, -⟩ := htook.sessions conn s₁ hs₁
        rw [heq]
        exact .inr ⟨s, hs, rfl, rfl⟩
  | send x =>
      obtain ⟨c, -, rfl⟩ := Option.map_eq_some_iff.mp hstep
      exact .inr (.inr (.inl ⟨x, rfl, advances_settle n c.1 [x] [x.sending]⟩))
  | broadcast x reliable sent =>
      obtain ⟨c, -, rfl⟩ := Option.map_eq_some_iff.mp hstep
      exact .inr (.inr (.inr ⟨x, reliable, sent, rfl, advances_settle n c.1 _ [x]⟩))

end PacketNetwork

/-! ## Answers -/

namespace PacketSystem

variable (sys : PacketSystem Obj H)

/-- The answers to what was handled, in order. -/
def answersTo (handled : List (H × Obj)) : List (Bool × Sending Obj) :=
  handled.flatMap fun run => (sys.replies run.1 run.2).map fun reply =>
    (reply.reliable, .packet reply.packetType reply.object)

theorem mapIdx_const {α β : Type} (f : α → β) (xs : List α) :
    (xs.mapIdx fun _ x => f x) = xs.map f :=
  List.ext_getElem? fun i => by simp

/-- Answers that the transport takes go to the connections they are for. -/
theorem filterMap_answers {sent : ℕ → Bool} (hsent : ∀ i, sent i = true)
    (runs : List (Invocation H Obj)) (conn : Connection) :
    (sys.answers sent runs).filterMap (Posting.sentTo conn)
      = sys.answersTo (runsOf conn runs) := by
  simp only [answers, hsent, mapIdx_const]
  induction runs with
  | nil => rfl
  | cons run runs ih =>
      rw [List.flatMap_cons, List.map_append, List.filterMap_append, ih]
      by_cases hconn : run.conn = conn
      · simp [runsOf, answersTo, Posting.sentTo, hconn, List.filterMap_map, Function.comp_def]
      · simp [runsOf, answersTo, Posting.sentTo, hconn]

end PacketSystem

/-- The server sends the client nothing but answers, and the transport takes these. -/
def AnswersOnly (conn : Connection) : NetworkAction Obj → Prop
  | .send x => x.conn ≠ conn
  | .broadcast .. => False
  | .poll _ sent => ∀ i, sent i = true
  | _ => True

/-- All that was sent on the connection was reliable and fits into 32 bits. -/
structure Session.Regular (sys : PacketSystem Obj H) (s : Session Obj H) : Prop where
  requests : ∀ x ∈ s.requests, x.1 = true ∧ sys.Fits x.2
  responses : ∀ x ∈ s.responses, x.1 = true ∧ sys.Fits x.2

/-- The client's requests are answered: the server handled the first of them, in order, the
client handled the first of the answers to these, in order, and each handled all once nothing
is under way and nothing waits on its side. -/
structure Session.Answered (sys : PacketSystem Obj H) (conn : Connection) (s : Session Obj H) :
    Prop where
  up : ∃ served, served <+: s.requests.map Prod.snd
    ∧ s.handledUp = served.filterMap (sys.delivered sys.serverHandlers)
    ∧ (s.up.underway = [] → s.up.waiting = [] → served = s.requests.map Prod.snd)
  down : ∃ returned, returned <+: (sys.answersTo s.handledUp).map Prod.snd
    ∧ s.handledDown = returned.filterMap (sys.delivered (sys.clientHandlers conn))
    ∧ (s.down.underway = [] → s.down.waiting = [] →
      returned = (sys.answersTo s.handledUp).map Prod.snd)

namespace PacketNetwork

variable {sys : PacketSystem Obj H} {n n' : PacketNetwork Obj H} {conn : Connection}

/-- What is delivered in order of reliable sendings is the first of them. -/
theorem DeliveredInOrder.exists_first {handlers : HandlerTable H}
    {channel : Channel (List UInt8)} {sendings : List (Bool × Sending Obj)}
    {handled : List (H × Obj)} (h : DeliveredInOrder sys handlers channel sendings handled)
    (hreliable : ∀ x ∈ sendings, x.1 = true) :
    ∃ xs, xs <+: sendings.map Prod.snd ∧ handled = xs.filterMap (sys.delivered handlers)
      ∧ (channel.underway = [] → channel.waiting = [] → xs = sendings.map Prod.snd) := by
  obtain ⟨received, hhandled, hfirst, hmem, hall⟩ := h
  have hreceived := Channel.reliables_eq_map fun x hx => hreliable x (hmem x hx)
  rw [hreceived, Channel.reliables_eq_map hreliable] at hfirst hall
  refine ⟨received.map Prod.snd, hfirst, ?_, hall⟩
  rw [hhandled, List.filterMap_map]
  rfl

/-- What was sent to the client are the answers to what was handled for it. -/
structure Answers (sys : PacketSystem Obj H) (conn : Connection) (n : PacketNetwork Obj H) :
    Prop where
  sound : n.Sound sys
  responses : ∀ s, n.sessions conn = some s → s.responses = sys.answersTo s.handledUp

theorem Answers.step (h : n.Answers sys conn) {a : NetworkAction Obj}
    (hstep : PacketNetwork.step sys n a = some n') (ha : AnswersOnly conn a) :
    n'.Answers sys conn := by
  refine ⟨h.sound.step hstep, fun s' hs' => ?_⟩
  -- nothing is posted to the client but the answers to what is run for it
  have hrest : ∀ {runs postings calls}, Advances n n' runs postings calls →
      postings.filterMap (Posting.sentTo conn) = sys.answersTo (runsOf conn runs) →
        s'.responses = sys.answersTo s'.handledUp := by
    intro runs postings calls hadvances hpostings
    rcases hadvances.sessions conn s' hs' with ⟨-, hhandled, hresponses⟩
        | ⟨s, hs, hhandled, hresponses⟩
    · rw [hhandled, hresponses]
      rfl
    · rw [hhandled, hresponses, hpostings, h.responses s hs]
      exact List.flatMap_append.symm
  rcases advances_step hstep h.sound with hidle | ⟨order, sent, runs, rfl, hpoll⟩
      | ⟨x, rfl, hsend⟩ | ⟨x, reliable, sent, rfl, -⟩
  · exact hrest hidle rfl
  · exact hrest hpoll (sys.filterMap_answers ha runs conn)
  · refine hrest hsend ?_
    have hne : x.conn ≠ conn := ha
    simp [Posting.sentTo, hne, runsOf, PacketSystem.answersTo]
  · exact absurd ha id

theorem Answers.answered (h : n.Answers sys conn)
    (hunpack : ∀ x, sys.msgpack.unpack (sys.msgpack.pack x) = some x) {s : Session Obj H}
    (hs : n.sessions conn = some s) (hregular : s.Regular sys) : s.Answered sys conn := by
  have hdelivers := h.sound.delivers hunpack
  refine ⟨?_, ?_⟩
  · exact (hdelivers.up conn s hs fun x hx => (hregular.requests x hx).2).exists_first
      fun x hx => (hregular.requests x hx).1
  · rw [← h.responses s hs]
    exact (hdelivers.down conn s hs fun x hx => (hregular.responses x hx).2).exists_first
      fun x hx => (hregular.responses x hx).1

end PacketNetwork

namespace PacketNetwork

variable {sys : PacketSystem Obj H} {n n' : PacketNetwork Obj H}

/-- What was sent to each client was sent by the server's calls, in their order. -/
structure Ordered (sys : PacketSystem Obj H) (n : PacketNetwork Obj H) : Prop where
  sound : n.Sound sys
  responses : ∀ conn s, n.sessions conn = some s → (s.responses.map Prod.snd).Sublist n.calls

/-- A connection gets at most what was posted. -/
theorem sentTo_sublist (conn : Connection) (postings : List (Posting Obj)) :
    ((postings.filterMap (Posting.sentTo conn)).map Prod.snd).Sublist
      (postings.map Posting.sending) := by
  induction postings with
  | nil => exact List.Sublist.refl []
  | cons x postings ih =>
      by_cases hx : x.conn = conn ∧ x.sent = true
      · have hto : x.sentTo conn = some (x.reliable, x.sending) := if_pos hx
        rw [List.filterMap_cons_some hto, List.map_cons, List.map_cons]
        exact ih.cons_cons _
      · have hto : x.sentTo conn = none := if_neg hx
        rw [List.filterMap_cons_none hto, List.map_cons]
        exact ih.cons _

/-- A broadcast gives a connection at most one message. -/
theorem sentTo_broadcast_sublist (conn : Connection) {conns : List Connection}
    (hnodup : conns.Nodup) (x : Sending Obj) (reliable : Bool) (sent : Connection → Bool) :
    (((conns.map fun conn => (⟨conn, x, reliable, sent conn⟩ : Posting Obj)).filterMap
      (Posting.sentTo conn)).map Prod.snd).Sublist [x] := by
  induction conns with
  | nil => exact List.nil_sublist _
  | cons k conns ih =>
      obtain ⟨hk, hnodup⟩ := List.nodup_cons.mp hnodup
      rw [List.map_cons]
      by_cases hto : k = conn ∧ sent k = true
      · -- the connection is not among the others
        have hrest : (conns.map fun conn => (⟨conn, x, reliable, sent conn⟩ : Posting Obj)).filterMap
            (Posting.sentTo conn) = [] := by
          refine List.filterMap_eq_nil_iff.mpr fun y hy => if_neg fun hy' => hk ?_
          obtain ⟨k', hk', rfl⟩ := List.mem_map.mp hy
          have hsame : k' = conn := hy'.1
          rwa [hto.1, ← hsame]
        have hfirst : Posting.sentTo conn (⟨k, x, reliable, sent k⟩ : Posting Obj)
            = some (reliable, x) := if_pos hto
        rw [List.filterMap_cons_some hfirst, hrest]
        exact List.Sublist.refl _
      · have hfirst : Posting.sentTo conn (⟨k, x, reliable, sent k⟩ : Posting Obj) = none :=
          if_neg hto
        rw [List.filterMap_cons_none hfirst]
        exact ih hnodup

theorem Ordered.step (h : n.Ordered sys) {a : NetworkAction Obj}
    (hstep : PacketNetwork.step sys n a = some n') : n'.Ordered sys := by
  refine ⟨h.sound.step hstep, fun conn s' hs' => ?_⟩
  have hrest : ∀ {runs postings calls}, Advances n n' runs postings calls →
      ((postings.filterMap (Posting.sentTo conn)).map Prod.snd).Sublist calls →
        (s'.responses.map Prod.snd).Sublist n'.calls := by
    intro runs postings calls hadvances hpostings
    rw [hadvances.calls_eq]
    rcases hadvances.sessions conn s' hs' with ⟨-, -, hresponses⟩ | ⟨s, hs, -, hresponses⟩
    · rw [hresponses]
      exact List.nil_sublist _
    · rw [hresponses, List.map_append]
      exact (h.responses conn s hs).append hpostings
  rcases advances_step hstep h.sound with hidle | ⟨order, sent, runs, rfl, hpoll⟩
      | ⟨x, rfl, hsend⟩ | ⟨x, reliable, sent, rfl, hbroadcast⟩
  · exact hrest hidle (List.nil_sublist _)
  · exact hrest hpoll (sentTo_sublist conn _)
  · exact hrest hsend (sentTo_sublist conn [x])
  · exact hrest hbroadcast
      (sentTo_broadcast_sublist conn n.server.self.clients.nodup_keys x reliable sent)

end PacketNetwork

/-- **The clients agree on the order of what the server sent**: in every state of every run,
every client to which only reliable messages were sent has handled a selection of the server's
calls in the order in which these were made. -/
theorem calls_ordered (sys : PacketSystem Obj H)
    (hunpack : ∀ x, sys.msgpack.unpack (sys.msgpack.pack x) = some x)
    (as : List (NetworkAction Obj)) :
    (packetNetwork sys).Always
      (fun n => ∀ conn s, n.sessions conn = some s →
        (∀ x ∈ s.responses, x.1 = true ∧ sys.Fits x.2) →
          s.handledDown.Sublist (n.calls.filterMap (sys.delivered (sys.clientHandlers conn))))
      (packetNetwork sys).init as := by
  have hinit : (packetNetwork sys).init.Ordered sys :=
    ⟨PacketNetwork.sound_init sys, fun conn s hs => by cases hs⟩
  refine (Machine.always_of_step (M := packetNetwork sys)
    (fun _ _ _ hstep h => h.step hstep) hinit as).mono fun n h conn s hs hregular => ?_
  obtain ⟨xs, hfirst, hhandled, -⟩ :=
    ((h.sound.delivers hunpack).down conn s hs fun x hx => (hregular x hx).2).exists_first
      fun x hx => (hregular x hx).1
  rw [hhandled]
  exact (hfirst.sublist.trans (h.responses conn s hs)).filterMap _

theorem calls_ordered_ping : (packetNetwork pingSystem).Always
    (fun n => ∀ conn s, n.sessions conn = some s →
      (∀ x ∈ s.responses, x.1 = true ∧ pingSystem.Fits x.2) →
        s.handledDown.Sublist
          (n.calls.filterMap (pingSystem.delivered (pingSystem.clientHandlers conn))))
    (packetNetwork pingSystem).init pingRun :=
  calls_ordered pingSystem (by decide) pingRun

end KbNetworking
