import Mathlib
import NetWatch.Trap.Session

/-!
# Steps of a session

What each step leaves as it was: a section of a start or a stop (`call_frame`), a section of a send
(`send_frame`), a change of the handlers (`setting_frame`), or a step of a listener (`turn_step`).
Facts about whole runs read these and not the code of the steps.
-/

namespace NetWatch.Snmp

def Message.inform? (message : Message) : Option Pdu :=
  match message.body with
  | .pdu pdu => if pdu.pduType = .informRequest then some pdu else none
  | .trapV1 _ => none

theorem Message.inform?_eq_some_iff {message : Message} {pdu : Pdu} :
    message.inform? = some pdu ↔ message.body = .pdu pdu ∧ pdu.pduType = .informRequest := by
  cases hbody : message.body with
  | trapV1 => simp [inform?, hbody]
  | pdu p =>
    by_cases hinform : p.pduType = .informRequest
    · simp only [inform?, hbody, hinform, if_true, Option.some.injEq, PduBody.pdu.injEq]
      exact ⟨fun h => ⟨h, h ▸ hinform⟩, fun h => h.1⟩
    · simp only [inform?, hbody, hinform, if_false, PduBody.pdu.injEq]
      exact ⟨nofun, fun ⟨h, hpdu⟩ => absurd (h ▸ hpdu) hinform⟩

end NetWatch.Snmp

namespace NetWatch.Trap

def Event.listener? : Event → Option Nat
  | .receive i .. | .receiveFailed i | .acknowledge i _ | .gather i | .invoke i | .notice i =>
    some i
  | _ => none

/-- The sections of starts and stops. -/
def Event.isCall : Event → Bool
  | .start | .bound _ | .stop | .joined _ => true
  | _ => false

def Event.isSend : Event → Bool
  | .send .. | .takeSocket _ | .transmit .. => true
  | _ => false

/-- Changes of who is called, or told about faults. -/
def Event.isSetting : Event → Bool
  | .addHandler _ | .removeHandler _ | .setErrorHandler _ => true
  | _ => false

/-- Neither a stop nor a new error handler. -/
def Event.isQuiet : Event → Bool
  | .stop | .setErrorHandler _ => false
  | _ => true

theorem Event.isQuiet_of_listener? {e : Event} {i : Nat} (h : e.listener? = some i) :
    e.isQuiet := by
  cases e with
  | stop | setErrorHandler => cases h
  | _ => rfl

def Effect.isReturn : Effect → Bool
  | .startReturned _ | .stopReturned | .sendReturned _ => true
  | .invoked .. | .removed _ | .reported .. | .sent .. => false

def Effect.isInvoked : Effect → Bool
  | .invoked .. => true
  | _ => false

/-- A message is in hand for which a handler may still be called. -/
def ListenerPhase.isDispatching : ListenerPhase → Bool
  | .acknowledging .. | .gathering .. | .invoking _ _ (_ :: _) => true
  | .idle | .invoking _ _ [] | .finished => false

theorem Event.kind (e : Event) :
    e.isCall ∨ e.isSend ∨ e.isSetting ∨ ∃ i, e.listener? = some i := by
  cases e <;> simp [isCall, isSend, isSetting, listener?]

namespace Session

open Net (Endpoint IoError)
open Snmp (Message)

def initial (config : SessionConfig) (errorHandler : Option ErrorHandler) : Session :=
  { config, errorHandler }

variable {s s' : Session} {i j : Nat} {l : Listener} {e : Event}

/-! ## Runs -/

theorem run_cons (s : Session) (e : Event) (events : List Event) : s.run (e :: events) =
    (((s.step e).1.run events).1, (s.step e).2 ++ ((s.step e).1.run events).2) :=
  rfl

theorem run_append (s : Session) (events more : List Event) : s.run (events ++ more) =
    (((s.run events).1.run more).1, (s.run events).2 ++ ((s.run events).1.run more).2) := by
  induction events generalizing s with
  | nil => rfl
  | cons e events ih => rw [List.cons_append, run_cons, run_cons, ih, List.append_assoc]

theorem run_invariant {P : Session → Prop} (hstep : ∀ s e, P s → P (s.step e).1) (h : P s)
    (events : List Event) : P (s.run events).1 := by
  induction events generalizing s with
  | nil => exact h
  | cons e events ih => exact ih (hstep s e h)

def trace {α : Type} (f : Session → Event → Option α) (s : Session) : List Event → List α
  | [] => []
  | e :: events => (f s e).toList ++ trace f (s.step e).1 events

/-! ## Starts and stops -/

def MayStart (s : Session) : Prop := s.status = .startPending ∨ s.status = .stopped

theorem start_begins (h : s.MayStart) :
    s.start = ({ s with status := .starting, starting := s.starting + 1 }, []) := by
  cases hstatus : s.status with
  | startPending | stopped => simp only [start, hstatus]
  | starting | running | stopPending => simp [MayStart, hstatus] at h

theorem start_illegal (h : ¬ s.MayStart) :
    s.start = (s, [.startReturned (.error (illegal "start" s.status))]) := by
  cases hstatus : s.status with
  | startPending | stopped => simp [MayStart, hstatus] at h
  | starting | running | stopPending => simp only [start, hstatus]

theorem bound_idle (h : s.starting = 0) (result : Except IoError Endpoint) :
    s.bound result = (s, []) := by
  simp only [bound, h, if_true]

theorem bound_error (h : s.starting ≠ 0) (error : IoError) : s.bound (.error error) =
    ({ s with status := .stopped, starting := s.starting - 1 },
      [.startReturned (.error (.io (some s.config.bindAddress) error))]) := by
  simp only [bound, h, if_false]

/-- Starts and stops leave the handlers and the sends alone. -/
theorem call_frame (h : e.isCall) (s : Session) :
    ∃ status listener listeners starting stopping,
      (s.step e).1 = { s with status, listener, listeners, starting, stopping } := by
  cases e with
  | start =>
    simp only [Session.step, start]
    split <;> exact ⟨_, _, _, _, _, rfl⟩
  | bound result =>
    by_cases hzero : s.starting = 0
    · exact ⟨_, _, _, _, _, congrArg Prod.fst (bound_idle hzero result)⟩
    · simp only [Session.step, bound, hzero, if_false]
      cases result with
      | error => exact ⟨_, _, _, _, _, rfl⟩
      | ok =>
        dsimp only
        split <;> exact ⟨_, _, _, _, _, rfl⟩
  | stop =>
    simp only [Session.step, stop]
    split
    · exact ⟨_, _, _, _, _, rfl⟩
    · exact ⟨_, _, _, _, _, rfl⟩
    · split <;> exact ⟨_, _, _, _, _, rfl⟩
    · exact ⟨_, _, _, _, _, rfl⟩
    · exact ⟨_, _, _, _, _, rfl⟩
  | joined =>
    simp only [Session.step, joined]
    split <;> exact ⟨_, _, _, _, _, rfl⟩
  | _ => cases h

/-- A start may bring a listener to life, and a stop tells one to end. -/
theorem listeners_call (h : e.isCall) (s : Session) :
    (s.step e).1.listeners = s.listeners ∨ (∃ l, (s.step e).1.listeners = s.listeners ++ [l]) ∨
      ∃ j, (s.step e).1.listeners = s.listeners.modify j fun l => { l with cancelled := true } := by
  cases e with
  | start =>
    simp only [Session.step, start]
    split <;> exact .inl rfl
  | bound result =>
    by_cases hzero : s.starting = 0
    · exact .inl (congrArg (·.1.listeners) (bound_idle hzero result))
    · cases result with
      | error error => exact .inl (congrArg (·.1.listeners) (bound_error hzero error))
      | ok =>
        simp only [Session.step, bound, hzero, if_false]
        split
        · exact .inl rfl
        · exact .inr (.inl ⟨_, rfl⟩)
  | stop =>
    simp only [Session.step, stop]
    split
    · exact .inl rfl
    · exact .inl rfl
    · split
      · exact .inr (.inr ⟨_, rfl⟩)
      · exact .inl rfl
    · exact .inl rfl
    · exact .inl rfl
  | joined =>
    simp only [Session.step, joined]
    split <;> exact .inl rfl
  | _ => cases h

/-! ## Sends -/

theorem send_checked (h : s.status = .running) (target : Endpoint) (message : Message) :
    s.send target message = ({ s with sends := s.sends ++ [{ target, message }] }, []) := by
  simp only [send, h, if_true]

theorem send_illegal (h : s.status ≠ .running) (target : Endpoint) (message : Message) :
    s.send target message = (s, [.sendReturned (.error (illegal "send" s.status))]) := by
  simp only [send, h, if_false]

theorem takeSocket_cases (s : Session) (n : Nat) : s.takeSocket n = (s, []) ∨
    ∃ send, s.sends[n]? = some send ∧ send.phase = .checked ∧
      (s.takeSocket n = (s.setSendPhase n .equipped, []) ∨
        s.takeSocket n = (s.setSendPhase n .returned,
          [.sendReturned (.error (illegal "send" .stopPending))])) := by
  unfold takeSocket
  split
  · next hsend =>
    refine .inr ⟨_, hsend, rfl, ?_⟩
    split
    · exact .inl rfl
    · exact .inr rfl
  · exact .inl rfl

theorem transmit_cases (s : Session) (n : Nat) (result : Except IoError Unit) :
    s.transmit n result = (s, []) ∨ ∃ send, s.sends[n]? = some send ∧ send.phase = .equipped ∧
      s.transmit n result = (s.setSendPhase n .returned, send.outcome result) := by
  unfold transmit
  split
  · next send hsend =>
    split
    · next hphase => exact .inr ⟨send, hsend, hphase, rfl⟩
    · exact .inl rfl
  · exact .inl rfl

theorem send_frame (h : e.isSend) (s : Session) : ∃ sends, (s.step e).1 = { s with sends } := by
  cases e with
  | send target message =>
    by_cases hstatus : s.status = .running
    · exact ⟨_, congrArg Prod.fst (send_checked hstatus target message)⟩
    · exact ⟨_, congrArg Prod.fst (send_illegal hstatus target message)⟩
  | takeSocket n =>
    rcases s.takeSocket_cases n with hstep | ⟨_, _, _, hstep | hstep⟩ <;>
      exact ⟨_, congrArg Prod.fst hstep⟩
  | transmit n result =>
    rcases s.transmit_cases n result with hstep | ⟨_, _, _, hstep⟩ <;>
      exact ⟨_, congrArg Prod.fst hstep⟩
  | _ => cases h

/-! ## Turns -/

/-- What a step of listener `i` may do. That listener ends only if it is cancelled, and stays at
its end. -/
structure Turn (i : Nat) (s s' : Session) : Prop where
  frame : ∃ handlers nextId listeners, s' = { s with handlers, nextId, listeners }
  elsewhere : ∀ j, j ≠ i → s'.listeners[j]? = s.listeners[j]?
  own : s'.listeners[i]? = s.listeners[i]? ∨ ∃ l phase, s.listeners[i]? = some l ∧
    l.isFinished = false ∧ s'.listeners[i]? = some { l with phase := phase } ∧
    (phase = .finished → l.cancelled)

theorem Turn.refl (i : Nat) (s : Session) : Turn i s s :=
  ⟨⟨_, _, _, rfl⟩, fun _ _ => rfl, .inl rfl⟩

theorem getElem?_setPhase_ne (s : Session) (hne : j ≠ i) (phase : ListenerPhase) :
    (s.setPhase i phase).listeners[j]? = s.listeners[j]? := by
  rw [setPhase]
  exact List.getElem?_modify_ne _ _ hne.symm

theorem getElem?_setPhase_self (hl : s.listeners[i]? = some l) (phase : ListenerPhase) :
    (s.setPhase i phase).listeners[i]? = some { l with phase := phase } := by
  simp [setPhase, hl]

theorem Turn.setPhase (hl : s.listeners[i]? = some l) (hlive : l.isFinished = false)
    {phase : ListenerPhase} (hends : phase = .finished → l.cancelled) :
    Turn i s (s.setPhase i phase) :=
  ⟨⟨_, _, _, rfl⟩, fun _ hne => getElem?_setPhase_ne s hne phase,
    .inr ⟨l, phase, hl, hlive, getElem?_setPhase_self hl phase, hends⟩⟩

theorem invokeOne_frame (s : Session) (source : Endpoint) (message : Message) (id : HandlerId)
    (handler : Handler) : ∃ handlers nextId,
      (s.invokeOne source message id handler).1 = { s with handlers, nextId } := by
  cases hremoves : handler.removes <;> cases hadds : handler.adds <;>
    simp only [invokeOne, hremoves, hadds, removeHandler, addHandler] <;> exact ⟨_, _, rfl⟩

theorem Turn.invokeOne (h : Turn i s s') (source : Endpoint) (message : Message) (id : HandlerId)
    (handler : Handler) : Turn i s (s'.invokeOne source message id handler).1 := by
  obtain ⟨handlers, nextId, heq⟩ := invokeOne_frame s' source message id handler
  obtain ⟨_, _, listeners, hframe⟩ := h.frame
  rw [heq]
  exact ⟨⟨handlers, nextId, listeners, hframe ▸ rfl⟩, h.elsewhere, h.own⟩

/-- What a listener does next with a message. Only an inform is acknowledged. -/
def phaseOn (source : Endpoint) (message : Message) : ListenerPhase :=
  match message.inform? with
  | some pdu => .acknowledging source message pdu
  | none => .gathering source message

theorem phaseOn_ne_finished (source : Endpoint) (message : Message) :
    phaseOn source message ≠ .finished := by
  unfold phaseOn
  split <;> nofun

theorem received_eq (s : Session) (i : Nat) (source : Endpoint) (datagram : Octets) :
    s.received i source datagram =
      match Message.decode (datagram.take s.config.maxMessageSize) with
      | .error _ => (s, s.report .invalidPdu (some (datagram.take s.config.maxMessageSize)))
      | .ok message => (s.setPhase i (phaseOn source message), []) := by
  simp only [received]
  cases Message.decode (datagram.take s.config.maxMessageSize) with
  | error _ => rfl
  | ok message =>
    cases hbody : message.body with
    | trapV1 _ => simp only [hbody, phaseOn, Message.inform?]
    | pdu pdu =>
      by_cases hinform : pdu.pduType = .informRequest
      · simp only [hbody, phaseOn, Message.inform?, hinform, if_true]
      · simp only [hbody, phaseOn, Message.inform?, hinform, if_false]

theorem stepListener_finished (hends : l.isFinished) (e : Event) :
    s.stepListener i l e = (s, []) := by
  cases hphase : l.phase with
  | finished => cases e <;> simp [stepListener, hphase]
  | idle | acknowledging | gathering | invoking => simp [Listener.isFinished, hphase] at hends

theorem turn_stepListener (hl : s.listeners[i]? = some l) (e : Event) :
    Turn i s (s.stepListener i l e).1 := by
  by_cases hends : l.isFinished
  · rw [stepListener_finished hends]
    exact .refl i s
  have hlive : l.isFinished = false := Bool.eq_false_of_not_eq_true hends
  have hgoes {phase : ListenerPhase} (hne : phase ≠ .finished) : Turn i s (s.setPhase i phase) :=
    .setPhase hl hlive fun h => absurd h hne
  unfold stepListener
  split
  · split
    · exact .refl i s
    · rw [received_eq]
      split
      · exact .refl i s
      · exact hgoes (phaseOn_ne_finished _ _)
  · split <;> exact .refl i s
  · exact hgoes nofun
  · exact hgoes nofun
  · unfold invoked
    split
    · exact hgoes nofun
    · refine Turn.invokeOne (hgoes ?_) ..
      nofun
  · split
    · next hcancelled => exact .setPhase hl hlive fun _ => hcancelled
    · exact .refl i s
  · exact .refl i s

theorem step_of_listener? (h : e.listener? = some i) : s.step e = s.withListener i e := by
  cases e <;> cases h <;> rfl

theorem step_receive {datagram : Octets} {message : Message}
    (hl : s.listeners[i]? = some ⟨false, .idle⟩) (source : Endpoint)
    (hdata : Message.decode (datagram.take s.config.maxMessageSize) = .ok message) :
    s.step (.receive i source datagram) = (s.setPhase i (phaseOn source message), []) := by
  rw [step_of_listener? rfl, withListener, hl]
  simp only [stepListener, Bool.false_eq_true, if_false, received_eq, hdata]

theorem turn_step (h : e.listener? = some i) : Turn i s (s.step e).1 := by
  rw [step_of_listener? h, withListener]
  split
  · next l hl => exact turn_stepListener hl e
  · exact .refl i s

/-! ## What is seen of a step -/

variable {effect : Effect}

theorem effect_start (hmem : effect ∈ s.start.2) : ∃ result, effect = .startReturned result := by
  by_cases hmay : s.MayStart
  · rw [start_begins hmay] at hmem
    cases hmem
  · rw [start_illegal hmay] at hmem
    exact ⟨_, List.mem_singleton.1 hmem⟩

theorem effect_bound {result : Except IoError Endpoint} (hmem : effect ∈ (s.bound result).2) :
    ∃ result, effect = .startReturned result := by
  by_cases hzero : s.starting = 0
  · rw [bound_idle hzero] at hmem
    cases hmem
  · cases result with
    | error =>
      rw [bound_error hzero] at hmem
      exact ⟨_, List.mem_singleton.1 hmem⟩
    | ok =>
      simp only [bound, hzero, if_false] at hmem
      split at hmem <;> exact ⟨_, List.mem_singleton.1 hmem⟩

theorem effect_stop (hmem : effect ∈ s.stop.2) : effect = .stopReturned := by
  unfold stop at hmem
  split at hmem
  · exact List.mem_singleton.1 hmem
  · exact List.mem_singleton.1 hmem
  · split at hmem
    · cases hmem
    · exact List.mem_singleton.1 hmem
  · exact List.mem_singleton.1 hmem
  · exact List.mem_singleton.1 hmem

theorem effect_joined (hmem : effect ∈ (s.joined i).2) : effect = .stopReturned := by
  unfold joined at hmem
  split at hmem
  · exact List.mem_singleton.1 hmem
  · cases hmem

theorem effect_call (h : e.isCall) (hmem : effect ∈ (s.step e).2) :
    (∃ result, effect = .startReturned result) ∨ effect = .stopReturned := by
  cases e with
  | start => exact .inl (effect_start hmem)
  | bound => exact .inl (effect_bound hmem)
  | stop => exact .inr (effect_stop hmem)
  | joined => exact .inr (effect_joined hmem)
  | _ => cases h

theorem effect_send (h : e.isSend) (hmem : effect ∈ (s.step e).2) :
    (∃ result, effect = .sendReturned result) ∨ ∃ target data, effect = .sent target data := by
  cases e with
  | send target message =>
    by_cases hstatus : s.status = .running
    · simp [Session.step, send_checked hstatus] at hmem
    · simp_all [Session.step, send_illegal hstatus]
  | takeSocket n =>
    rw [Session.step] at hmem
    rcases s.takeSocket_cases n with hstep | ⟨_, _, _, hstep | hstep⟩ <;> rw [hstep] at hmem
    · cases hmem
    · cases hmem
    · exact .inl ⟨_, List.mem_singleton.1 hmem⟩
  | transmit n result =>
    rw [Session.step] at hmem
    rcases s.transmit_cases n result with hstep | ⟨_, _, _, hstep⟩ <;> rw [hstep] at hmem
    · cases hmem
    · cases result with
      | ok =>
        rcases List.mem_pair.1 hmem with rfl | rfl
        · exact .inr ⟨_, _, rfl⟩
        · exact .inl ⟨_, rfl⟩
      | error => exact .inl ⟨_, List.mem_singleton.1 hmem⟩
  | _ => cases h

def isDispatching (s : Session) (i : Nat) : Bool :=
  (s.listeners[i]?).any fun l => l.phase.isDispatching

theorem effect_report {fault : Fault} {reference : Option Octets}
    (hmem : effect ∈ s.report fault reference) : effect = .reported fault reference s.status := by
  unfold report at hmem
  split at hmem <;> simp_all

theorem invokeOne_effects (s : Session) (source : Endpoint) (message : Message) (id : HandlerId)
    (handler : Handler) : (s.invokeOne source message id handler).2 =
      .invoked id source message s.status ::
        ((handler.removes.map fun id => Effect.removed (s.hasHandler id)).toList ++
          if handler.panics then s.report .exception none else []) := by
  cases handler with
  | mk removes adds panics => cases removes <;> cases adds <;> cases panics <;> rfl

theorem isReturn_invokeOne {source : Endpoint} {message : Message} {id : HandlerId}
    {handler : Handler} (hmem : effect ∈ (s.invokeOne source message id handler).2) :
    effect.isReturn = false := by
  rw [invokeOne_effects, List.mem_cons, List.mem_append] at hmem
  rcases hmem with rfl | hmem | hmem
  · rfl
  · obtain ⟨_, -, rfl⟩ := Option.map_eq_some_iff.1 (Option.mem_toList.1 hmem)
    rfl
  · split at hmem
    · rw [effect_report hmem]
      rfl
    · cases hmem

/-- A listener returns from no call, and it calls a handler only if it has a message in hand. -/
theorem effect_stepListener (hmem : effect ∈ (s.stepListener i l e).2) :
    effect.isReturn = false ∧ (effect.isInvoked → l.phase.isDispatching) := by
  have hreported {fault : Fault} {reference : Option Octets}
      (h : effect ∈ s.report fault reference) :
      effect.isReturn = false ∧ (effect.isInvoked → l.phase.isDispatching) := by
    rw [effect_report h]
    exact ⟨rfl, nofun⟩
  unfold stepListener at hmem
  split at hmem
  · split at hmem
    · cases hmem
    · rw [received_eq] at hmem
      split at hmem
      · exact hreported hmem
      · cases hmem
  · split at hmem
    · cases hmem
    · exact hreported hmem
  · simp only [acknowledged] at hmem
    split at hmem
    · cases List.mem_singleton.1 hmem
      exact ⟨rfl, nofun⟩
    · exact hreported hmem
  · cases hmem
  · next hphase =>
    unfold invoked at hmem
    split at hmem
    · cases hmem
    · exact ⟨isReturn_invokeOne hmem, fun _ => by rw [hphase]; rfl⟩
  · split at hmem <;> cases hmem
  · cases hmem

theorem effect_turn (h : e.listener? = some i) (hmem : effect ∈ (s.step e).2) :
    effect.isReturn = false ∧ (effect.isInvoked → s.isDispatching i) := by
  rw [step_of_listener? h, withListener] at hmem
  split at hmem
  · next l hl =>
    obtain ⟨hreturn, hinvoked⟩ := effect_stepListener hmem
    exact ⟨hreturn, fun hi => by simp [isDispatching, hl, hinvoked hi]⟩
  · cases hmem

/-! ## All steps -/

theorem setting_frame (h : e.isSetting) (s : Session) : ∃ handlers nextId errorHandler,
    s.step e = ({ s with handlers, nextId, errorHandler }, []) := by
  cases e with
  | addHandler | removeHandler | setErrorHandler => exact ⟨_, _, _, rfl⟩
  | _ => cases h

theorem getElem?_listeners_step (hcall : e.isCall = false) (hother : e.listener? ≠ some i)
    (s : Session) : (s.step e).1.listeners[i]? = s.listeners[i]? := by
  rcases e.kind with h | h | h | ⟨j, h⟩
  · simp [h] at hcall
  · obtain ⟨_, hstep⟩ := send_frame h s
    rw [hstep]
  · obtain ⟨_, _, _, hstep⟩ := setting_frame h s
    rw [hstep]
  · refine (turn_step h).elsewhere i fun hij => hother ?_
    rw [h, hij]

theorem config_step (s : Session) (e : Event) : (s.step e).1.config = s.config := by
  rcases e.kind with h | h | h | ⟨i, h⟩
  · obtain ⟨_, _, _, _, _, hstep⟩ := call_frame h s
    rw [hstep]
  · obtain ⟨_, hstep⟩ := send_frame h s
    rw [hstep]
  · obtain ⟨_, _, _, hstep⟩ := setting_frame h s
    rw [hstep]
  · obtain ⟨_, _, _, hstep⟩ := (turn_step h (s := s)).frame
    rw [hstep]

theorem errorHandler_step (h : e.isQuiet) (s : Session) :
    (s.step e).1.errorHandler = s.errorHandler := by
  rcases e.kind with hcall | hsend | hsetting | ⟨i, hturn⟩
  · obtain ⟨_, _, _, _, _, hstep⟩ := call_frame hcall s
    rw [hstep]
  · obtain ⟨_, hstep⟩ := send_frame hsend s
    rw [hstep]
  · cases e with
    | addHandler | removeHandler => rfl
    | setErrorHandler => cases h
    | _ => cases hsetting
  · obtain ⟨_, _, _, hstep⟩ := (turn_step hturn (s := s)).frame
    rw [hstep]

theorem config_run (s : Session) (events : List Event) : (s.run events).1.config = s.config :=
  run_invariant (P := fun t => t.config = s.config)
    (fun t e h => (config_step t e).trans h) rfl events

end Session

end NetWatch.Trap
