/-
# Bringing the library up and down

`kb_networking_init` brings up the logger and the transport, and `kb_networking_shutdown`
takes them down (`kb_networking.cpp`).  Both look at `s_initialized` first, but only the
first one writes it: after a shutdown the flag still says that the library is up.  Then an
init does nothing, and another shutdown takes down what is down already.

`staysBalanced_iff` proves that a sequence of calls goes well exactly when nothing is called
after the first shutdown that follows an init.
-/
import KbNetworking.Lib.Ledger
import KbNetworking.Lib.Machine

namespace KbNetworking

/-! ## The two functions -/

/-- A call that the library makes on its transport or on its logger. -/
inductive LibraryEffect : Type where
  | loggerInit
  | gameNetworkingSocketsInit
  | gameNetworkingSocketsKill
  | loggerShutdown
  deriving DecidableEq, Repr

/-- What is brought up and taken down. -/
inductive LibraryPart : Type where
  | transport
  | logger
  deriving DecidableEq, Repr

def LibraryEffect.bringsUp : LibraryEffect → LibraryPart → Bool
  | .gameNetworkingSocketsInit, .transport => true
  | .loggerInit, .logger => true
  | _, _ => false

def LibraryEffect.takesDown : LibraryEffect → LibraryPart → Bool
  | .gameNetworkingSocketsKill, .transport => true
  | .loggerShutdown, .logger => true
  | _, _ => false

/-- The static flag `s_initialized`, and the calls that were made. -/
structure Library where
  sInitialized : Bool := false
  trace : List LibraryEffect := []
  deriving DecidableEq, Repr

namespace Library

/-- One more entry of the trace. -/
def record (s : Library) (x : LibraryEffect) : Library := { s with trace := s.trace ++ [x] }

/-- The last call on this part of the library brought it up. -/
def isUp (s : Library) (part : LibraryPart) : Bool :=
  Ledger.live LibraryEffect.bringsUp LibraryEffect.takesDown s.trace part

/-- `GameNetworkingSockets_Init` and `GameNetworkingSockets_Kill` are called in turn, the first
one first. -/
def TransportAlternates (s : Library) : Prop :=
  Ledger.Alternates LibraryEffect.bringsUp LibraryEffect.takesDown s.trace .transport

end Library

/-- `kb_networking_init`; `errMsg` is what `GameNetworkingSockets_Init` reports when it fails.
The error is the message of `KB_ABORT`, which does not return. -/
def kbNetworkingInit (errMsg : Option String) (s : Library) : Except String Library :=
  if s.sInitialized then .ok s
  else
    let s := s.record .loggerInit
    let s := s.record .gameNetworkingSocketsInit
    match errMsg with
    | some errMsg => .error ("Failed to initialize Steam GameNetworkingSockets: " ++ errMsg)
    | none => .ok { s with sInitialized := true }

/-- `kb_networking_shutdown`: it leaves `s_initialized` as it is. -/
def kbNetworkingShutdown (s : Library) : Library :=
  if !s.sInitialized then s
  else
    let s := s.record .gameNetworkingSocketsKill
    s.record .loggerShutdown

/-! ## Runs -/

/-- A call of one of the two functions; the first with the answer of the transport. -/
inductive LibraryCall : Type where
  | init (errMsg : Option String)
  | shutdown
  deriving DecidableEq, Repr

namespace LibraryCall

def isInit : LibraryCall → Bool
  | .init _ => true
  | .shutdown => false

def run : LibraryCall → Library → Except String Library
  | .init errMsg, s => kbNetworkingInit errMsg s
  | .shutdown, s => .ok (kbNetworkingShutdown s)

end LibraryCall

/-- The library and the calls that return. -/
def library : Machine Library LibraryCall where
  init := {}
  step := fun s call => (call.run s).toOption

/-- The library together with the last call. -/
def libraryWithLast : Machine (Option LibraryCall × Library) LibraryCall :=
  library.observed none fun _ _ call _ => some call

/-- Transport and logger are up exactly when the last call was an init, and the calls on the
transport alternate. -/
structure LibraryBalanced (s : Option LibraryCall × Library) : Prop where
  isUp_iff : ∀ part, s.2.isUp part = true ↔ s.1.map LibraryCall.isInit = some true
  alternates : s.2.TransportAlternates

/-- A second init and a second shutdown have no effect. -/
def RepeatHasNoEffect (s : Option LibraryCall × Library) (call : LibraryCall)
    (s' : Option LibraryCall × Library) : Prop :=
  s.1.map LibraryCall.isInit = some call.isInit → s'.2 = s.2

/-- Every call returns, the library is balanced after each, and repeated calls have no
effect. -/
structure StaysBalanced (calls : List LibraryCall) : Prop where
  returns : ∃ s, libraryWithLast.run libraryWithLast.init calls = some s
  balanced : libraryWithLast.Always LibraryBalanced libraryWithLast.init calls
  repeats : libraryWithLast.EachStep RepeatHasNoEffect libraryWithLast.init calls

/-! ## What the calls do -/

namespace Library

/-- The library after an init that finds the flag clear. -/
def broughtUp (s : Library) : Library :=
  { sInitialized := true, trace := s.trace ++ [.loggerInit] ++ [.gameNetworkingSocketsInit] }

/-- The library after a shutdown that finds the flag set. -/
def takenDown (s : Library) : Library :=
  { s with trace := s.trace ++ [.gameNetworkingSocketsKill] ++ [.loggerShutdown] }

@[simp] theorem isUp_broughtUp (s : Library) (part : LibraryPart) :
    s.broughtUp.isUp part = true := by
  unfold isUp broughtUp
  rw [Ledger.live_concat, Ledger.live_concat]
  cases part <;> simp [LibraryEffect.bringsUp, LibraryEffect.takesDown]

@[simp] theorem isUp_takenDown (s : Library) (part : LibraryPart) :
    s.takenDown.isUp part = false := by
  unfold isUp takenDown
  rw [Ledger.live_concat, Ledger.live_concat]
  cases part <;> simp [LibraryEffect.bringsUp, LibraryEffect.takesDown]

/-- The transport may be brought up when it is down. -/
theorem transportAlternates_broughtUp_iff (s : Library) :
    s.broughtUp.TransportAlternates
      ↔ s.TransportAlternates ∧ s.isUp .transport = false := by
  unfold TransportAlternates isUp broughtUp
  rw [Ledger.alternates_concat_iff, Ledger.alternates_concat_iff, Ledger.live_concat]
  simp [LibraryEffect.bringsUp, LibraryEffect.takesDown]

/-- The transport may be taken down when it is up. -/
theorem transportAlternates_takenDown_iff (s : Library) :
    s.takenDown.TransportAlternates
      ↔ s.TransportAlternates ∧ s.isUp .transport = true := by
  unfold TransportAlternates isUp takenDown
  rw [Ledger.alternates_concat_iff, Ledger.alternates_concat_iff]
  simp [LibraryEffect.bringsUp, LibraryEffect.takesDown]

end Library

/-- An init works when the flag is clear, and returns if the transport comes up. -/
theorem library_step_init (s : Library) (errMsg : Option String) :
    library.step s (.init errMsg)
      = if s.sInitialized then some s else if errMsg = none then some s.broughtUp else none := by
  show (kbNetworkingInit errMsg s).toOption = _
  unfold kbNetworkingInit
  cases s.sInitialized with
  | true => rfl
  | false => cases errMsg <;> rfl

/-- A shutdown works when the flag is set. -/
theorem library_step_shutdown (s : Library) :
    library.step s .shutdown = some (if s.sInitialized then s.takenDown else s) := by
  show some (kbNetworkingShutdown s) = _
  unfold kbNetworkingShutdown
  cases hflag : s.sInitialized with
  | true => simp [Library.record, Library.takenDown]
  | false => simp

/-- A call that returns has found the flag set or clear, and done its work or nothing. -/
theorem library_step_cases {s s' : Library} {call : LibraryCall}
    (h : library.step s call = some s') :
    (call.isInit = true ∧ s.sInitialized = true ∧ s' = s)
      ∨ (call.isInit = true ∧ s.sInitialized = false ∧ s' = s.broughtUp)
      ∨ (call.isInit = false ∧ s.sInitialized = true ∧ s' = s.takenDown)
      ∨ (call.isInit = false ∧ s.sInitialized = false ∧ s' = s) := by
  cases call with
  | init errMsg =>
      rw [library_step_init] at h
      cases hflag : s.sInitialized with
      | true =>
          rw [hflag, if_pos rfl, Option.some.injEq] at h
          exact .inl ⟨rfl, rfl, h.symm⟩
      | false =>
          rw [hflag, if_neg Bool.false_ne_true, Option.ite_none_right_eq_some,
            Option.some.injEq] at h
          exact .inr (.inl ⟨rfl, rfl, h.2.symm⟩)
  | shutdown =>
      rw [library_step_shutdown, Option.some.injEq] at h
      cases hflag : s.sInitialized with
      | true =>
          rw [hflag, if_pos rfl] at h
          exact .inr (.inr (.inl ⟨rfl, rfl, h.symm⟩))
      | false =>
          rw [hflag, if_neg Bool.false_ne_true] at h
          exact .inr (.inr (.inr ⟨rfl, rfl, h.symm⟩))

/-! ## One call -/

/-- The flag does not say more than there is. -/
def FlagTrue (s : Option LibraryCall × Library) (_ : LibraryCall) : Prop :=
  s.2.sInitialized = true → s.2.isUp .transport = true

/-- What the calls keep, as long as the flag is true: nothing is up without the flag. -/
structure LibraryKept (s : Option LibraryCall × Library) : Prop extends LibraryBalanced s where
  flagged : s.2.isUp .transport = true → s.2.sInitialized = true

theorem libraryKept_init : LibraryKept libraryWithLast.init where
  isUp_iff := by
    intro part
    exact iff_of_false Bool.false_ne_true (by simp [libraryWithLast, Machine.observed])
  alternates := Ledger.alternates_nil _
  flagged := by
    intro hup
    cases hup

/-- With a clear flag nothing is up. -/
theorem LibraryKept.isUp_of_clear {s : Option LibraryCall × Library} (h : LibraryKept s)
    (hclear : s.2.sInitialized = false) (part : LibraryPart) : s.2.isUp part = false := by
  cases hup : s.2.isUp part with
  | false => rfl
  | true =>
      have hinit := (h.isUp_iff part).mp hup
      have hset := h.flagged ((h.isUp_iff .transport).mpr hinit)
      cases hclear.symm.trans hset

/-- A call that finds a true flag keeps the library balanced, and does nothing when it
repeats the last one. -/
theorem libraryKept_step {s s' : Option LibraryCall × Library} {call : LibraryCall}
    (hstep : libraryWithLast.step s call = some s') (h : LibraryKept s)
    (hflag : FlagTrue s call) : LibraryKept s' ∧ RepeatHasNoEffect s call s' := by
  obtain ⟨last, s⟩ := s
  obtain ⟨s', hlibrary, rfl⟩ := Machine.observed_step hstep
  have hup := h.isUp_iff .transport
  unfold RepeatHasNoEffect
  rcases library_step_cases hlibrary with
      ⟨hcall, hset, rfl⟩ | ⟨hcall, hclear, rfl⟩ | ⟨hcall, hset, rfl⟩ | ⟨hcall, hclear, rfl⟩
  -- an init of a library that is up, so the last call was an init too
  · have hinit := hup.mp (hflag hset)
    refine ⟨⟨⟨fun part => ?_, h.alternates⟩, h.flagged⟩, fun _ => rfl⟩
    rw [h.isUp_iff part]
    simp [hinit, hcall]
  · have hdown := h.isUp_of_clear hclear .transport
    refine ⟨⟨⟨fun part => ?_, ?_⟩, fun _ => rfl⟩, fun hrepeat => ?_⟩
    · simp [hcall]
    · exact (Library.transportAlternates_broughtUp_iff s).mpr ⟨h.alternates, hdown⟩
    · rw [hcall] at hrepeat
      cases hdown.symm.trans (hup.mpr hrepeat)
  · have hinit := hup.mp (hflag hset)
    refine ⟨⟨⟨fun part => ?_, ?_⟩, fun _ => hset⟩, fun hrepeat => ?_⟩
    · simp [hcall]
    · exact (Library.transportAlternates_takenDown_iff s).mpr ⟨h.alternates, hflag hset⟩
    · rw [hcall] at hrepeat
      cases hinit.symm.trans hrepeat
  -- a shutdown of a library that is down
  · refine ⟨⟨⟨fun part => ?_, h.alternates⟩, h.flagged⟩, fun _ => rfl⟩
    rw [show s'.isUp part = false from h.isUp_of_clear hclear part]
    simp [hcall]

/-- A call that finds a flag that is not true leaves the library unbalanced. -/
theorem not_libraryBalanced_step {s s' : Option LibraryCall × Library} {call : LibraryCall}
    (hstep : libraryWithLast.step s call = some s') (hflag : ¬ FlagTrue s call) :
    ¬ LibraryBalanced s' := by
  obtain ⟨last, s⟩ := s
  obtain ⟨s', hlibrary, rfl⟩ := Machine.observed_step hstep
  simp only [FlagTrue, Classical.not_imp, Bool.not_eq_true] at hflag
  obtain ⟨hset, hdown⟩ := hflag
  intro h
  rcases library_step_cases hlibrary with
      ⟨hcall, -, rfl⟩ | ⟨-, hclear, -⟩ | ⟨-, -, rfl⟩ | ⟨-, hclear, -⟩
  -- the init does nothing, so the transport is still down
  · have hup := (h.isUp_iff .transport).mpr (by simp [hcall])
    cases hdown.symm.trans hup
  · cases hclear.symm.trans hset
  -- the shutdown takes down a transport that is down
  · have hup := ((Library.transportAlternates_takenDown_iff s).mp h.alternates).2
    cases hdown.symm.trans hup
  · cases hclear.symm.trans hset

/-! ## Sequences of calls -/

/-- `GameNetworkingSockets_Init` succeeds in every call. -/
def InitSucceeds (calls : List LibraryCall) : Prop :=
  ∀ errMsg, .init errMsg ∈ calls → errMsg = none

/-- No call is made after a shutdown that comes after an init. -/
def EndsAtShutdown (calls : List LibraryCall) : Prop :=
  ∀ errMsg call, ¬ List.Sublist [.init errMsg, .shutdown, call] calls

theorem InitSucceeds.tail {call : LibraryCall} {calls : List LibraryCall}
    (h : InitSucceeds (call :: calls)) : InitSucceeds calls := by
  intro errMsg hmem
  exact h errMsg (List.mem_cons_of_mem _ hmem)

/-- A call that succeeds returns. -/
theorem InitSucceeds.exists_step {call : LibraryCall} {calls : List LibraryCall}
    (h : InitSucceeds (call :: calls)) (s : Option LibraryCall × Library) :
    ∃ s', libraryWithLast.step s call = some (some call, s')
      ∧ library.step s.2 call = some s' := by
  have hstep : ∃ s', library.step s.2 call = some s' := by
    cases call with
    | shutdown => exact ⟨_, library_step_shutdown s.2⟩
    | init errMsg =>
        obtain rfl := h errMsg List.mem_cons_self
        rw [library_step_init, if_pos rfl, ← apply_ite]
        exact ⟨_, rfl⟩
  obtain ⟨s', hs'⟩ := hstep
  exact ⟨s', Machine.observed_step_of_step _ _ s.1 hs', hs'⟩

/-- Once the flag is set and the transport down, no further call finds a true flag. -/
theorem eachStep_of_down {s : Option LibraryCall × Library} (hset : s.2.sInitialized = true)
    (hdown : s.2.isUp .transport = false) {calls : List LibraryCall} (h : InitSucceeds calls) :
    libraryWithLast.EachStep (fun s call _ => FlagTrue s call) s calls ↔ calls = [] := by
  cases calls with
  | nil => exact iff_of_true trivial rfl
  | cons call calls =>
    obtain ⟨s', hstep, -⟩ := h.exists_step s
    rw [Machine.eachStep_cons_iff_of_step hstep]
    refine iff_of_false ?_ (List.cons_ne_nil call calls)
    rintro ⟨hflag, -⟩
    cases hdown.symm.trans (hflag hset)

/-- While the library is up, nothing may follow the next shutdown. -/
theorem eachStep_of_up {s : Option LibraryCall × Library} (hset : s.2.sInitialized = true)
    (hup : s.2.isUp .transport = true) {calls : List LibraryCall} (h : InitSucceeds calls) :
    libraryWithLast.EachStep (fun s call _ => FlagTrue s call) s calls
      ↔ ∀ call, ¬ List.Sublist [.shutdown, call] calls := by
  induction calls generalizing s with
  | nil => exact iff_of_true trivial (by simp)
  | cons call calls ih =>
    obtain ⟨s', hstep, hlibrary⟩ := h.exists_step s
    have hflag : FlagTrue s call := fun _ => hup
    rw [Machine.eachStep_cons_iff_of_step hstep, and_iff_right hflag]
    cases call with
    | init errMsg =>
      rw [library_step_init, if_pos hset, Option.some.injEq] at hlibrary
      subst hlibrary
      rw [ih (s := (some (.init errMsg), s.2)) hset hup h.tail]
      simp [List.cons_sublist_cons']
    | shutdown =>
      rw [library_step_shutdown, if_pos hset, Option.some.injEq] at hlibrary
      subst hlibrary
      rw [eachStep_of_down (s := (some .shutdown, s.2.takenDown)) hset
        (Library.isUp_takenDown s.2 .transport) h.tail]
      simp [List.cons_sublist_cons, List.eq_nil_iff_forall_not_mem]

/-- While the flag is clear, nothing may follow the first shutdown after the next init. -/
theorem eachStep_of_clear {s : Option LibraryCall × Library} (hclear : s.2.sInitialized = false)
    {calls : List LibraryCall} (h : InitSucceeds calls) :
    libraryWithLast.EachStep (fun s call _ => FlagTrue s call) s calls
      ↔ EndsAtShutdown calls := by
  unfold EndsAtShutdown
  induction calls generalizing s with
  | nil => exact iff_of_true trivial (by simp)
  | cons call calls ih =>
    obtain ⟨s', hstep, hlibrary⟩ := h.exists_step s
    have hflag : FlagTrue s call := by
      intro hset
      cases hclear.symm.trans hset
    rw [Machine.eachStep_cons_iff_of_step hstep, and_iff_right hflag]
    cases call with
    | init errMsg =>
      obtain rfl := h errMsg List.mem_cons_self
      rw [library_step_init, hclear, if_neg Bool.false_ne_true, if_pos rfl,
        Option.some.injEq] at hlibrary
      subst hlibrary
      rw [eachStep_of_up rfl (Library.isUp_broughtUp s.2 .transport) h.tail]
      constructor
      · intro hno errMsg call hsublist
        rcases List.cons_sublist_cons'.mp hsublist with hlater | ⟨-, hrest⟩
        · exact hno call ((List.sublist_cons_self _ _).trans hlater)
        · exact hno call hrest
      · intro hno call hsublist
        exact hno none call (List.cons_sublist_cons.mpr hsublist)
    | shutdown =>
      rw [library_step_shutdown, hclear, if_neg Bool.false_ne_true, Option.some.injEq] at hlibrary
      subst hlibrary
      rw [ih (s := (some .shutdown, s.2)) hclear h.tail]
      simp [List.cons_sublist_cons']

/-- Where `GameNetworkingSockets_Init` succeeds every call of a run returns. -/
theorem exists_run {calls : List LibraryCall} (h : InitSucceeds calls)
    (s : Option LibraryCall × Library) : ∃ s', libraryWithLast.run s calls = some s' := by
  induction calls generalizing s with
  | nil => exact ⟨s, rfl⟩
  | cons call calls ih =>
    obtain ⟨s', hstep, -⟩ := h.exists_step s
    rw [Machine.run_cons, hstep]
    exact ih h.tail _

/-- **Init and shutdown balance** exactly in the sequences of calls where none follows a
shutdown that comes after an init. -/
theorem staysBalanced_iff (calls : List LibraryCall) (hsucceeds : InitSucceeds calls) :
    StaysBalanced calls ↔ EndsAtShutdown calls := by
  have hexact : libraryWithLast.Always LibraryBalanced libraryWithLast.init calls
      ∧ libraryWithLast.EachStep RepeatHasNoEffect libraryWithLast.init calls
      ↔ libraryWithLast.EachStep (fun s call _ => FlagTrue s call) libraryWithLast.init calls :=
    Machine.always_and_eachStep_iff (fun _ h => h.toLibraryBalanced)
      (fun _ _ _ hstep h hflag => libraryKept_step hstep h hflag)
      (fun _ _ _ hstep _ hbalanced _ =>
        by_contra fun hflag => not_libraryBalanced_step hstep hflag hbalanced)
      libraryKept_init calls
  rw [eachStep_of_clear rfl hsucceeds] at hexact
  rw [← hexact]
  constructor
  · intro h
    exact ⟨h.balanced, h.repeats⟩
  · rintro ⟨hbalanced, hrepeats⟩
    exact ⟨exists_run hsucceeds _, hbalanced, hrepeats⟩

/-- A shutdown that comes too early, two inits and one shutdown. -/
theorem staysBalanced_once :
    StaysBalanced [.shutdown, .init none, .init none, .shutdown] := by
  refine (staysBalanced_iff [.shutdown, .init none, .init none, .shutdown] ?_).mpr ?_
  · intro errMsg hmem
    simpa using hmem
  · intro errMsg call hsublist
    simp [List.cons_sublist_cons'] at hsublist

/-- The library is not brought up again after a shutdown. -/
theorem not_staysBalanced_again :
    ¬ ∀ calls : List LibraryCall, InitSucceeds calls → StaysBalanced calls := by
  intro h
  have hsucceeds : InitSucceeds [.init none, .shutdown, .init none] := by
    intro errMsg hmem
    simpa using hmem
  obtain ⟨-, hrun⟩ := (h _ hsucceeds).balanced
  obtain ⟨-, hrun⟩ := hrun _ rfl
  obtain ⟨-, hrun⟩ := hrun _ rfl
  have hbalanced : LibraryBalanced _ := hrun _ rfl
  have hup := (hbalanced.isUp_iff .transport).mpr rfl
  cases hup

end KbNetworking
