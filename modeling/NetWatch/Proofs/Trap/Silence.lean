import NetWatch.Proofs.Trap.Lifecycle

/-!
# The silence after a stop

When a stop has returned, no handler is to be called before the next start. A stop that has waited
for the listener keeps that promise, and so does one that found nothing to wait for. But a stop that
finds another one waiting returns at once, while the listener may have a message in hand:
`silent_after_stop_iff` says exactly when a return is followed by silence, and `invoked_after_stop`
is a run in which it is not.
-/

namespace NetWatch.Trap.Session

open Net (Endpoint IoError)
open Snmp (Message)

variable {s : Session} {i : Nat} {e : Event} {effect : Effect}

def Refuses (s : Session) (e : Event) : Prop := e = .start → ¬ s.MayStart

def RefusesAll (s : Session) : List Event → Prop
  | [] => True
  | e :: events => s.Refuses e ∧ (s.step e).1.RefusesAll events

/-- No handler is called before the next start, whatever else happens. -/
def IsSilent (s : Session) : Prop :=
  ∀ events : List Event, s.RefusesAll events → ∀ effect ∈ (s.run events).2, ¬ effect.isInvoked

theorem IsSilent.step (h : s.IsSilent) (hstart : s.Refuses e) : (s.step e).1.IsSilent := by
  intro events hevents effect hmem
  refine h (e :: events) ⟨hstart, hevents⟩ effect ?_
  rw [run_cons]
  exact List.mem_append_right _ hmem

/-- What holds at first and is kept by each step, but for a start that begins, holds after every
run in which none does. -/
theorem run_invariant_of_refusesAll {P : Session → Prop}
    (hstep : ∀ s e, s.Refuses e → P s → P (s.step e).1) (h : P s) {events : List Event}
    (hevents : s.RefusesAll events) : P (s.run events).1 := by
  induction events generalizing s with
  | nil => exact h
  | cons e events ih => exact ih (hstep s e hevents.1 h) hevents.2

/-- Silence by an invariant under which no step calls a handler. -/
theorem isSilent_of_invariant {P : Session → Prop}
    (hstep : ∀ s e, s.Refuses e → P s → P (s.step e).1)
    (hnone : ∀ s e, P s → ∀ effect ∈ (s.step e).2, ¬ effect.isInvoked) (h : P s) : s.IsSilent := by
  intro events
  induction events generalizing s with
  | nil => exact fun _ _ => nofun
  | cons e events ih =>
    intro hevents effect hmem
    rw [run_cons, List.mem_append] at hmem
    rcases hmem with hmem | hmem
    · exact hnone s e h effect hmem
    · exact ih (hstep s e hevents.1 h) hevents.2 effect hmem

/-! ## Who calls handlers -/

theorem isAlive_of_isDispatching (h : s.isDispatching i) : s.isAlive i := by
  obtain ⟨l, hl, hphase⟩ := (Option.any_eq_true ..).mp h
  have hlive : l.isFinished = false := by
    cases hp : l.phase with
    | finished => simp [hp, ListenerPhase.isDispatching] at hphase
    | idle | acknowledging | gathering | invoking => simp only [Listener.isFinished, hp]
  simp [isAlive, hl, hlive]

theorem dispatching_of_invoked (hmem : effect ∈ (s.step e).2) (hinvoked : effect.isInvoked) :
    ∃ i, s.isDispatching i := by
  rcases e.kind with hcall | hsend | hsetting | ⟨i, hturn⟩
  · rcases effect_call hcall hmem with ⟨_, rfl⟩ | rfl <;> cases hinvoked
  · rcases effect_send hsend hmem with ⟨_, rfl⟩ | ⟨_, _, rfl⟩ <;> cases hinvoked
  · obtain ⟨_, _, _, hstep⟩ := setting_frame hsetting s
    rw [hstep] at hmem
    cases hmem
  · exact ⟨i, (effect_turn hturn hmem).2 hinvoked⟩

/-! ## Nothing left to stop -/

/-- No listener is alive, and no start is in progress that could bring one to life. -/
inductive Closed (s : Session) : Prop where
  | resting (h : s.Resting)
  | overtaken (h : s.Binding) (hstop : s.status = .stopPending)

theorem Closed.dead (h : Closed s) (j : Nat) : ¬ s.isAlive j := by
  cases h with
  | resting h => exact h.dead j
  | overtaken h _ => exact h.dead j

theorem Closed.stopping_eq_nil (h : Closed s) : s.stopping = [] := by
  cases h with
  | resting h => exact h.stopping
  | overtaken h _ => exact h.stopping

theorem joined_idle (h : s.stopping = []) (i : Nat) : s.joined i = (s, []) := by
  simp [joined, h]

theorem Closed.step (h : Closed s) (hstart : s.Refuses e) : Closed (s.step e).1 := by
  cases hcall : e.isCall with
  | false =>
    have hu := undisturbed_step hcall s
    cases h with
    | resting h => exact .resting (h.undisturbed hu)
    | overtaken h hstop => exact .overtaken (h.undisturbed hu) (hu.status.trans hstop)
  | true =>
    cases e with
    | start =>
      rw [Session.step, start_illegal (hstart rfl)]
      exact h
    | bound result => cases h with
      | resting h =>
        rw [Session.step, bound_idle h.starting]
        exact .resting h
      | overtaken h hstop => exact .resting (h.resting_of_overtaken hstop result)
    | stop => cases h with
      | resting h => exact .resting h.stop
      | overtaken h hstop =>
        simp only [Session.step, stop, hstop]
        exact .overtaken h hstop
    | joined i =>
      rw [Session.step, joined_idle h.stopping_eq_nil]
      exact h
    | _ => cases hcall

theorem Closed.isSilent (h : Closed s) : s.IsSilent := by
  refine isSilent_of_invariant (fun _ _ hstart h => h.step hstart) ?_ h
  intro s e h effect hmem hinvoked
  obtain ⟨i, hi⟩ := dispatching_of_invoked hmem hinvoked
  exact h.dead i (isAlive_of_isDispatching hi)

/-! ## A stop that waits -/

/-- While a stop waits, no call does anything but the stop that sees the end of the listener. -/
theorem Stopping.step_call (h : s.Stopping i) (hcall : e.isCall) :
    (s.step e).1.Resting ∨ (s.step e).1 = s := by
  cases e with
  | start =>
    have hno : ¬ s.MayStart := by simp [MayStart, h.status]
    exact .inr (congrArg Prod.fst (start_illegal hno))
  | bound result => exact .inr (congrArg Prod.fst (bound_idle h.starting result))
  | stop => simp only [Session.step, stop, h.status, or_true]
  | joined j =>
    exact (Stage.stopping h).joined_cases j |>.imp_right fun hsame => congrArg Prod.fst hsame
  | _ => cases hcall

/-- A stop has been called and no start since: it may be waiting for the listener. -/
inductive Halted (s : Session) : Prop where
  | closed (h : Closed s)
  | stopping {i : Nat} (h : s.Stopping i)

theorem Halted.step (h : Halted s) (hstart : s.Refuses e) : Halted (s.step e).1 := by
  cases h with
  | closed h => exact .closed (h.step hstart)
  | stopping h => cases hcall : e.isCall with
    | false => exact .stopping (h.undisturbed (undisturbed_step hcall s))
    | true =>
      rcases h.step_call hcall with hrests | hsame
      · exact .closed (.resting hrests)
      · rw [hsame]
        exact .stopping h

theorem Stage.halted_of_stop (h : Stage s) (hreturned : .stopReturned ∈ s.stop.2) :
    Halted s.stop.1 := by
  cases h with
  | resting h => exact .closed (.resting h.stop)
  | binding h =>
    rcases h.status with hstatus | hstatus <;> simp only [Session.stop, hstatus]
    · exact .closed (.overtaken ⟨.inr rfl, h.starting, h.stopping, h.listener, h.dead⟩ rfl)
    · exact .closed (.overtaken h hstatus)
  | serving h => simp [Session.stop, h.status, h.listener] at hreturned
  | stopping h =>
    simp only [Session.stop, h.status]
    exact .stopping h

/-- What a stop leaves when it returns. -/
theorem Stage.halted_of_stopReturned (h : Stage s) (hreturned : .stopReturned ∈ (s.step e).2) :
    Halted (s.step e).1 := by
  rcases e.kind with hcall | hsend | hsetting | ⟨i, hturn⟩
  · cases e with
    | start => nomatch effect_start hreturned
    | bound => nomatch effect_bound hreturned
    | stop => exact h.halted_of_stop hreturned
    | joined i =>
      rcases h.joined_cases i with hrests | hsame
      · exact .closed (.resting hrests)
      · simp [Session.step, hsame] at hreturned
    | _ => cases hcall
  · rcases effect_send hsend hreturned with ⟨_, hne⟩ | ⟨_, _, hne⟩ <;> cases hne
  · obtain ⟨_, _, _, hstep⟩ := setting_frame hsetting s
    simp [hstep] at hreturned
  · cases (effect_turn hturn hreturned).1

/-! ## Listeners that have been told to end -/

def isCancelled (s : Session) (i : Nat) : Bool := (s.listeners[i]?).any (·.cancelled)

theorem isCancelled_step (h : s.isCancelled i) (e : Event) : (s.step e).1.isCancelled i := by
  obtain ⟨l, hl, hcancelled⟩ := (Option.any_eq_true ..).mp h
  cases hcall : e.isCall with
  | true =>
    rcases listeners_call hcall s with heq | ⟨_, heq⟩ | ⟨j, heq⟩
    · rwa [isCancelled, heq]
    · have hlt := (List.getElem?_eq_some_iff.1 hl).1
      rwa [isCancelled, heq, List.getElem?_append_left hlt]
    · by_cases hj : j = i <;> simp [isCancelled, heq, hj, hl, hcancelled]
  | false =>
    by_cases hown : e.listener? = some i
    · rcases (turn_step hown (s := s)).own with hsame | ⟨l', phase, hl', -, hnew, -⟩
      · rwa [isCancelled, hsame]
      · cases hl.symm.trans hl'
        simp [isCancelled, hnew, hcancelled]
    · rwa [isCancelled, getElem?_listeners_step hcall hown]

/-- A stop comes to wait for a listener only where that one is in charge. -/
theorem Stage.mem_stopping_step (hs : Stage s) (h : i ∈ (s.step e).1.stopping) :
    i ∈ s.stopping ∨ e = .stop ∧ ∃ address, s.Serving i address := by
  cases hcall : e.isCall with
  | false => exact .inl ((undisturbed_step hcall s).stopping ▸ h)
  | true => cases e with
    | start =>
      by_cases hmay : s.MayStart
      · simp only [Session.step, start_begins hmay] at h
        exact .inl h
      · simp only [Session.step, start_illegal hmay] at h
        exact .inl h
    | bound result =>
      by_cases hzero : s.starting = 0
      · simp only [Session.step, bound_idle hzero] at h
        exact .inl h
      · have hstopped := (hs.binding_of_starting hzero).stopping
        simp only [Session.step, Session.bound, hzero, if_false] at h
        split at h
        · exact .inl h
        · split at h <;> exact .inl h
    | stop =>
      cases hs with
      | resting hr => simp [Session.step, hr.stop.stopping] at h
      | binding hb =>
        rcases hb.status with hstatus | hstatus <;>
          simp only [Session.step, Session.stop, hstatus] at h <;> exact .inl h
      | serving hv =>
        simp only [Session.step, Session.stop, hv.status, hv.listener, hv.stopping,
          List.nil_append, List.mem_singleton] at h
        exact .inr ⟨rfl, _, h ▸ hv⟩
      | stopping hp =>
        simp only [Session.step, Session.stop, hp.status] at h
        exact .inl h
    | joined j =>
      simp only [Session.step, Session.joined] at h
      split at h
      · exact .inl (List.mem_of_mem_erase h)
      · exact .inl h
    | _ => cases hcall

theorem Serving.isCancelled_stop {address : Endpoint} (h : s.Serving i address) :
    s.stop.1.isCancelled i := by
  obtain ⟨l, hl, -⟩ := (Option.any_eq_true ..).mp h.serves
  simp [Session.stop, h.status, h.listener, isCancelled, hl]

theorem isCancelled_of_mem_stopping (config : SessionConfig) (errorHandler : Option ErrorHandler)
    (events : List Event) : let s := ((initial config errorHandler).run events).1
    ∀ i ∈ s.stopping, s.isCancelled i := by
  refine (run_invariant (P := fun s => Stage s ∧ ∀ i ∈ s.stopping, s.isCancelled i) ?_
    ⟨stage_initial config errorHandler, fun _ => nofun⟩ events).2
  rintro s e ⟨hs, hcancelled⟩
  refine ⟨hs.step e, fun i hi => ?_⟩
  rcases hs.mem_stopping_step hi with hi | ⟨rfl, address, hserving⟩
  · exact isCancelled_step (hcancelled i hi) e
  · exact hserving.isCancelled_stop

/-! ## A listener without a message -/

/-- The listener that a stop waits for has no message in hand, so all it has left is its end. -/
structure Drained (s : Session) (i : Nat) : Prop where
  stopping : s.Stopping i
  cancelled : s.isCancelled i
  spent : ¬ s.isDispatching i

theorem isDispatching_stepListener {l : Listener} (hl : s.listeners[i]? = some l)
    (hcancelled : l.cancelled) (hspent : l.phase.isDispatching = false) :
    ¬ (s.stepListener i l e).1.isDispatching i := by
  have hsame : ¬ s.isDispatching i := by simp [isDispatching, hl, hspent]
  have hphase (phase : ListenerPhase) (h : phase.isDispatching = false) :
      ¬ (s.setPhase i phase).isDispatching i := by
    simp [isDispatching, getElem?_setPhase_self hl, h]
  unfold stepListener
  split
  · simpa [hcancelled] using hsame
  · simpa [hcancelled] using hsame
  · next hp => simp [hp, ListenerPhase.isDispatching] at hspent
  · next hp => simp [hp, ListenerPhase.isDispatching] at hspent
  · next handlers hp =>
    cases handlers with
    | nil => exact hphase .idle rfl
    | cons => simp [hp, ListenerPhase.isDispatching] at hspent
  · simpa [hcancelled] using hphase .finished rfl
  · exact hsame

theorem Drained.step (h : s.Drained i) (e : Event) :
    Closed (s.step e).1 ∨ (s.step e).1.Drained i := by
  cases hcall : e.isCall with
  | true =>
    rcases h.stopping.step_call hcall with hrests | hsame
    · exact .inl (.resting hrests)
    · rw [hsame]
      exact .inr h
  | false =>
    refine .inr ⟨h.stopping.undisturbed (undisturbed_step hcall s), isCancelled_step h.cancelled e, ?_⟩
    by_cases hown : e.listener? = some i
    · obtain ⟨l, hl, hcancelled⟩ := (Option.any_eq_true ..).mp h.cancelled
      have hspent : l.phase.isDispatching = false := by simpa [isDispatching, hl] using h.spent
      rw [step_of_listener? hown, withListener, hl]
      exact isDispatching_stepListener hl hcancelled hspent
    · rw [isDispatching, getElem?_listeners_step hcall hown]
      exact h.spent

theorem Drained.isSilent (h : s.Drained i) : s.IsSilent := by
  refine isSilent_of_invariant (P := fun s => Closed s ∨ s.Drained i) ?_ ?_ (.inr h)
  · rintro s e hstart (hclosed | hdrained)
    · exact .inl (hclosed.step hstart)
    · exact hdrained.step e
  · rintro s e hs effect hmem hinvoked
    obtain ⟨j, hj⟩ := dispatching_of_invoked hmem hinvoked
    have halive := isAlive_of_isDispatching hj
    rcases hs with hclosed | hdrained
    · exact hclosed.dead j halive
    · exact hdrained.spent (hdrained.stopping.alone j halive ▸ hj)

/-! ## A listener with a message -/

variable {source : Endpoint} {message : Message} {cancelled : Bool}

theorem not_isSilent_of_invoking {handlers : List (HandlerId × Handler)}
    (hl : s.listeners[i]? = some ⟨cancelled, .invoking source message handlers⟩)
    (hne : handlers ≠ []) : ¬ s.IsSilent := by
  intro h
  obtain ⟨⟨id, handler⟩, rest, rfl⟩ := List.exists_cons_of_ne_nil hne
  have hstep : s.step (.invoke i) =
      (s.setPhase i (.invoking source message rest)).invokeOne source message id handler := by
    simp only [Session.step, withListener, hl, stepListener, invoked]
  have hrefuses : s.RefusesAll [.invoke i] := ⟨fun hstart => (by cases hstart), trivial⟩
  refine h [.invoke i] hrefuses (.invoked id source message s.status) ?_ rfl
  rw [run_cons, hstep, invokeOne_effects]
  exact .head _

/-- A handler may still be added before the listener looks which ones there are. -/
theorem not_isSilent_of_gathering
    (hl : s.listeners[i]? = some ⟨cancelled, .gathering source message⟩) : ¬ s.IsSilent := by
  intro h
  let added : Handler := .mk none none false
  have hadded : (s.step (.addHandler added)).1.IsSilent := h.step nofun
  have hgathered := hadded.step (e := .gather i) nofun
  have hinvoking : ((s.step (.addHandler added)).1.step (.gather i)).1.listeners[i]? =
      some ⟨cancelled, .invoking source message (s.handlers ++ [(s.nextId, added)])⟩ := by
    simp [Session.step, withListener, addHandler, hl, stepListener, setPhase]
  exact not_isSilent_of_invoking hinvoking (by simp) hgathered

theorem not_isSilent_of_isDispatching (h : s.isDispatching i) : ¬ s.IsSilent := by
  obtain ⟨⟨cancelled, phase⟩, hl, hdispatching⟩ := (Option.any_eq_true ..).mp h
  cases phase with
  | idle | finished => cases hdispatching
  | invoking source message handlers => cases handlers with
    | nil => cases hdispatching
    | cons => exact not_isSilent_of_invoking hl nofun
  | gathering source message => exact not_isSilent_of_gathering hl
  | acknowledging source message inform =>
    intro hsilent
    have hacknowledged := hsilent.step (e := .acknowledge i true) nofun
    have hgathering : (s.step (.acknowledge i true)).1.listeners[i]? =
        some ⟨cancelled, .gathering source message⟩ := by
      simp [Session.step, withListener, hl, stepListener, acknowledged, setPhase]
    exact not_isSilent_of_gathering hgathering hacknowledged

/-! ## Main statement -/

/-- What follows when a stop has returned, whichever steps of calls and listeners came before.

- No handler is called before the next start, exactly if no other stop is waiting for a listener
  that has a message in hand.
- In any case none is called any more once no stop is waiting.

A stop changes the status and cancels its listener in one step here. The condition is at this
granularity: where a step of the listener can come between the two, it may still take up a message
after the return of another stop, and call its handlers. -/
theorem silent_after_stop_iff (config : SessionConfig) (errorHandler : Option ErrorHandler)
    (history : List Event) (e : Event) :
    let s := ((initial config errorHandler).run history).1
    let t := (s.step e).1
    .stopReturned ∈ (s.step e).2 →
      (t.IsSilent ↔ ∀ i ∈ t.stopping, ¬ t.isDispatching i) ∧
      ∀ events : List Event, t.RefusesAll events → (t.run events).1.stopping = [] →
        (t.run events).1.IsSilent := by
  intro s t hreturned
  have hs : Stage s := stage_run config errorHandler history
  have hhalted : Halted t := hs.halted_of_stopReturned hreturned
  have hcancelled : ∀ i ∈ t.stopping, t.isCancelled i := by
    have h := isCancelled_of_mem_stopping config errorHandler (history ++ [e])
    rwa [run_append] at h
  refine ⟨⟨fun hsilent i _ hi => not_isSilent_of_isDispatching hi hsilent, fun hspent => ?_⟩, ?_⟩
  · cases hhalted with
    | closed h => exact h.isSilent
    | @stopping i h =>
      have hi : i ∈ t.stopping := by simp [h.stopping]
      exact Drained.isSilent ⟨h, hcancelled i hi, hspent i hi⟩
  · intro events hevents hnone
    cases run_invariant_of_refusesAll (fun _ _ hstart h => h.step hstart) hhalted hevents with
    | closed h => exact h.isSilent
    | stopping h => simp [h.stopping] at hnone

/-- The second stop does not wait for the first one, whose listener is idle. -/
theorem silent_after_second_stop :
    let address : Endpoint := ⟨.v4 .loopback, 1162, 0⟩
    let s := ((initial ⟨address, 1500⟩ none).run [.addHandler (.mk none none false), .start,
      .bound (.ok address), .stop]).1
    s.stopping = [0] ∧ .stopReturned ∈ (s.step .stop).2 ∧ (s.step .stop).1.IsSilent := by
  intro address s
  have hreturned : .stopReturned ∈ (s.step .stop).2 := .head _
  refine ⟨rfl, hreturned, (silent_after_stop_iff _ _ _ _ hreturned).1.2 fun i hi => ?_⟩
  cases List.mem_singleton.1 hi
  exact Bool.false_ne_true

def notification : Octets :=
  [0x30, 0x13, 0x02, 0x01, 0x01, 0x04, 0x01, 0x61, 0xA7, 0x0B, 0x02, 0x01, 0x07, 0x02, 0x01, 0x00,
    0x02, 0x01, 0x00, 0x30, 0x00]

def notificationMessage : Message := ⟨.v2c, [0x61], .pdu ⟨.trapV2, 7, 0, 0, []⟩⟩

/-- The second stop returns although the first one waits for a listener that is about to call a
handler, which it then does. -/
theorem invoked_after_stop :
    let address : Endpoint := ⟨.v4 .loopback, 1162, 0⟩
    let first := ((initial ⟨address, 1500⟩ none).run [.addHandler (.mk none none false), .start,
      .bound (.ok address)]).1
    let s := (first.run [.receive 0 address notification, .gather 0, .stop]).1
    (s.step .stop).2 = [.stopReturned] ∧
      ((s.step .stop).1.run [.invoke 0]).2 =
        [.invoked 1 address notificationMessage .stopPending] ∧
      ¬ (s.step .stop).1.IsSilent := by
  intro address first s
  have hsize : first.config.maxMessageSize = 1500 := rfl
  have hdata : Message.decode (notification.take first.config.maxMessageSize) =
      .ok notificationMessage := by
    rw [hsize]
    decide +kernel
  have hl : first.listeners[0]? = some ⟨false, .idle⟩ := rfl
  have hreceived := step_receive hl address hdata
  have hs : s = ((first.setPhase 0 (phaseOn address notificationMessage)).run
      [.gather 0, .stop]).1 := by
    have hrun := congrArg Prod.fst (run_cons first (.receive 0 address notification)
      [.gather 0, .stop])
    rwa [hreceived] at hrun
  clear_value s
  subst hs
  refine ⟨rfl, rfl, fun hsilent => ?_⟩
  exact hsilent [.invoke 0] ⟨nofun, trivial⟩ (.invoked 1 address notificationMessage .stopPending)
    (.head _) rfl

end NetWatch.Trap.Session
