import NetWatch.Proofs.Snmp.Response
import NetWatch.Proofs.Trap.Lifecycle

/-!
# What becomes of a datagram

The steps of a listener may have any other steps between them, as long as nobody stops the session
or puts another error handler in place. `At` says where the listener stands meanwhile, and that what
it depends on is as it was; one lemma for each of its steps moves it on. Only the handlers may
change, and they matter at one moment.
-/

namespace NetWatch.Trap.Session

open Net (Endpoint)
open Snmp (Message Pdu)

variable {base s s' : Session} {i : Nat} {address source : Endpoint} {phase phase' : ListenerPhase}
  {message : Message} {e : Event} {events : List Event}

/-! ## The steps of one listener -/

def stepsOf (i : Nat) (events : List Event) : List Event :=
  events.filter fun e => e.listener? = some i

def effectsOf (i : Nat) (s : Session) : List Event → List Effect
  | [] => []
  | e :: events =>
    (if e.listener? = some i then (s.step e).2 else []) ++ effectsOf i (s.step e).1 events

theorem effectsOf_append (i : Nat) (s : Session) (events more : List Event) :
    effectsOf i s (events ++ more) =
      effectsOf i s events ++ effectsOf i (s.run events).1 more := by
  induction events generalizing s with
  | nil => rfl
  | cons e events ih => rw [List.cons_append, effectsOf, effectsOf, ih, run_cons, List.append_assoc]

theorem effectsOf_cons_of_eq (hown : e.listener? = some i) (s : Session) (events : List Event) :
    effectsOf i s (e :: events) = (s.step e).2 ++ effectsOf i (s.step e).1 events := by
  rw [effectsOf, if_pos hown]

theorem effectsOf_cons_of_ne (hother : e.listener? ≠ some i) (s : Session) (events : List Event) :
    effectsOf i s (e :: events) = effectsOf i (s.step e).1 events := by
  rw [effectsOf, if_neg hother, List.nil_append]

theorem stepsOf_cons_of_eq (hown : e.listener? = some i) (events : List Event) :
    stepsOf i (e :: events) = e :: stepsOf i events :=
  List.filter_cons_of_pos (by simpa using hown)

theorem stepsOf_cons_of_ne (hother : e.listener? ≠ some i) (events : List Event) :
    stepsOf i (e :: events) = stepsOf i events :=
  List.filter_cons_of_neg (by simpa using hother)

theorem stepsOf_append (i : Nat) (events more : List Event) :
    stepsOf i (events ++ more) = stepsOf i events ++ stepsOf i more :=
  List.filter_append ..

/-! ## Where a listener stands -/

/-- Listener `i` is in charge and stands at `phase`. The settings are those of `base`. -/
structure At (base : Session) (i : Nat) (address : Endpoint) (phase : ListenerPhase)
    (s : Session) : Prop where
  serving : s.Serving i address
  config : s.config = base.config
  errorHandler : s.errorHandler = base.errorHandler
  phase : s.listeners[i]? = some ⟨false, phase⟩

theorem At.self (h : s.Serving i address) (hphase : s.listeners[i]? = some ⟨false, phase⟩) :
    At s i address phase s :=
  ⟨h, rfl, rfl, hphase⟩

theorem report_congr (herror : s'.errorHandler = s.errorHandler) (hstatus : s'.status = s.status)
    (fault : Fault) (reference : Option Octets) :
    s'.report fault reference = s.report fault reference := by
  simp only [report, herror, hstatus]

theorem At.report_eq (h : At base i address phase s) (hbase : base.status = .running)
    (fault : Fault) (reference : Option Octets) :
    s.report fault reference = base.report fault reference :=
  report_congr h.errorHandler (h.serving.status.trans hbase.symm) fault reference

/-! ## Steps of others -/

theorem Serving.call_idle (h : s.Serving i address) (hcall : e.isCall) (hquiet : e.isQuiet) :
    (s.step e).1 = s := by
  cases e with
  | start =>
    have hno : ¬ s.MayStart := by simp [MayStart, h.status]
    exact congrArg Prod.fst (start_illegal hno)
  | bound result => exact congrArg Prod.fst (bound_idle h.starting result)
  | stop => cases hquiet
  | joined j => simp [step, joined, h.stopping]
  | _ => cases hcall

theorem At.other (h : At base i address phase s) (hquiet : e.isQuiet)
    (hother : e.listener? ≠ some i) : At base i address phase (s.step e).1 := by
  cases hcall : e.isCall with
  | true =>
    rw [h.serving.call_idle hcall hquiet]
    exact h
  | false => exact {
      serving := h.serving.undisturbed (undisturbed_step hcall s)
      config := (config_step s e).trans h.config
      errorHandler := (errorHandler_step hquiet s).trans h.errorHandler
      phase := (getElem?_listeners_step hcall hother s).trans h.phase }

theorem At.others (h : At base i address phase s) (hquiet : ∀ e ∈ events, e.isQuiet)
    (hsteps : stepsOf i events = []) :
    At base i address phase (s.run events).1 ∧ effectsOf i s events = [] := by
  induction events generalizing s with
  | nil => exact ⟨h, rfl⟩
  | cons e events ih =>
    have hother : e.listener? ≠ some i := fun hown => by
      rw [stepsOf_cons_of_eq hown] at hsteps
      cases hsteps
    rw [stepsOf_cons_of_ne hother] at hsteps
    obtain ⟨hat, hnone⟩ := ih (h.other (hquiet e (.head _)) hother)
      (fun e he => hquiet e (.tail _ he)) hsteps
    exact ⟨hat, by rw [effectsOf_cons_of_ne hother, hnone]⟩

/-- Before the listener takes its next step, others may take some, and nothing is seen of it. -/
theorem At.next (h : At base i address phase s) (hquiet : ∀ e ∈ events, e.isQuiet)
    {rest : List Event} (hsteps : stepsOf i events = e :: rest) :
    ∃ t more, At base i address phase t ∧ (∀ e ∈ more, e.isQuiet) ∧ stepsOf i more = rest ∧
      (s.run events).1 = ((t.step e).1.run more).1 ∧
      effectsOf i s events = (t.step e).2 ++ effectsOf i (t.step e).1 more := by
  obtain ⟨front, more, rfl, hfront, hown, hmore⟩ := List.filter_eq_cons_iff.1 hsteps
  have hown : e.listener? = some i := of_decide_eq_true hown
  obtain ⟨hat, hnone⟩ := h.others (fun e he => hquiet e (List.mem_append_left _ he))
    (List.filter_eq_nil_iff.2 hfront)
  refine ⟨(s.run front).1, more, hat, fun e he => hquiet e ?_, hmore, ?_, ?_⟩
  · exact List.mem_append_right _ (.tail _ he)
  · rw [run_append, run_cons]
  · rw [effectsOf_append, hnone, List.nil_append, effectsOf_cons_of_eq hown]

/-! ## Steps of its own -/

theorem At.step_eq (h : At base i address phase s) (hown : e.listener? = some i) :
    s.step e = s.stepListener i ⟨false, phase⟩ e := by
  rw [step_of_listener? hown, withListener, h.phase]

theorem At.goes (h : At base i address phase s) (hown : e.listener? = some i)
    (hphase : (s.step e).1.listeners[i]? = some ⟨false, phase'⟩) :
    At base i address phase' (s.step e).1 where
  serving := h.serving.undisturbed (turn_step hown).undisturbed
  config := (config_step s e).trans h.config
  errorHandler := (errorHandler_step (Event.isQuiet_of_listener? hown) s).trans h.errorHandler
  phase := hphase

theorem At.setsPhase (h : At base i address phase s) (hown : e.listener? = some i)
    {effects : List Effect} (hstep : s.step e = (s.setPhase i phase', effects)) :
    At base i address phase' (s.step e).1 ∧ (s.step e).2 = effects := by
  refine ⟨h.goes hown ?_, congrArg Prod.snd hstep⟩
  rw [hstep]
  exact getElem?_setPhase_self h.phase _

theorem At.receive_undecodable (h : At base i address .idle s) (source : Endpoint)
    (hbase : base.status = .running) {datagram : Octets} {error : DecodeError}
    (hdata : Message.decode (datagram.take base.config.maxMessageSize) = .error error) :
    s.step (.receive i source datagram) =
      (s, base.report .invalidPdu (some (datagram.take base.config.maxMessageSize))) := by
  rw [← h.config] at hdata ⊢
  rw [h.step_eq rfl, ← h.report_eq hbase]
  simp [stepListener, received_eq, hdata]

theorem At.receive (h : At base i address .idle s) (source : Endpoint) {datagram : Octets}
    (hdata : Message.decode (datagram.take base.config.maxMessageSize) = .ok message) :
    At base i address (phaseOn source message) (s.step (.receive i source datagram)).1 ∧
      (s.step (.receive i source datagram)).2 = [] := by
  rw [← h.config] at hdata
  exact h.setsPhase rfl (step_receive h.phase source hdata)

/-- What is seen before the handlers of a message are called: of an inform its acknowledgement, or
the report that it could not be sent. -/
inductive Acknowledges (s : Session) (source : Endpoint) (message : Message) :
    (sent : Bool) → List Effect → Prop where
  | unasked {sent : Bool} : (∀ pdu, message.body = .pdu pdu → pdu.pduType ≠ .informRequest) →
      Acknowledges s source message sent []
  | sent {pdu : Pdu} {data : Octets} : message.body = .pdu pdu → pdu.pduType = .informRequest →
      Message.decode data = .ok ⟨message.version, message.community,
        .pdu ⟨.response, pdu.requestId, 0, 0, pdu.varbinds⟩⟩ →
      Acknowledges s source message true [.sent source data]
  | failed {pdu : Pdu} : message.body = .pdu pdu → pdu.pduType = .informRequest →
      Acknowledges s source message false (s.report .ioError none)

theorem At.acknowledge (h : At base i address (phaseOn source message) s) (sent : Bool) :
    At base i address (.gathering source message) (s.step (.acknowledge i sent)).1 := by
  cases hinform : message.inform? with
  | none =>
    simp only [phaseOn, hinform] at h
    have hstep : s.step (.acknowledge i sent) = (s, []) := h.step_eq rfl
    rwa [hstep]
  | some pdu =>
    simp only [phaseOn, hinform] at h
    have hstep : s.step (.acknowledge i sent) = s.acknowledged i source message pdu sent :=
      h.step_eq rfl
    exact (h.setsPhase rfl hstep).1

theorem At.acknowledges (h : At base i address (phaseOn source message) s)
    (hbase : base.status = .running) {data : Octets} (hdata : Message.decode data = .ok message)
    (short : data.length < 2 ^ 30) (sent : Bool) :
    Acknowledges base source message sent (s.step (.acknowledge i sent)).2 := by
  cases hinform : message.inform? with
  | none =>
    simp only [phaseOn, hinform] at h
    have hstep : s.step (.acknowledge i sent) = (s, []) := h.step_eq rfl
    rw [hstep]
    refine .unasked fun pdu hbody hinf => ?_
    cases hinform.symm.trans (Message.inform?_eq_some_iff.2 ⟨hbody, hinf⟩)
  | some pdu =>
    obtain ⟨hbody, hinf⟩ := Message.inform?_eq_some_iff.1 hinform
    simp only [phaseOn, hinform] at h
    have hstep : s.step (.acknowledge i sent) = s.acknowledged i source message pdu sent :=
      h.step_eq rfl
    rw [(h.setsPhase rfl hstep).2]
    cases sent with
    | true => exact .sent hbody hinf (Message.decode_encode_respond hdata hbody short)
    | false =>
      simp only [Bool.false_eq_true, if_false, h.report_eq hbase]
      exact .failed hbody hinf

theorem At.gather (h : At base i address (.gathering source message) s) :
    At base i address (.invoking source message s.handlers) (s.step (.gather i)).1 ∧
      (s.step (.gather i)).2 = [] :=
  h.setsPhase rfl (h.step_eq rfl)

/-- What is seen of the call of one handler: the call, what the handler does, and a report if it
panics. -/
inductive Calls (s : Session) (source : Endpoint) (message : Message) :
    HandlerId × Handler → List Effect → Prop where
  | intro {id : HandlerId} {handler : Handler} {removals : List Effect} :
      (∀ effect ∈ removals, ∃ found, effect = .removed found) →
      Calls s source message (id, handler) (.invoked id source message .running ::
        (removals ++ if handler.panics then s.report .exception none else []))

theorem At.invoke {id : HandlerId} {handler : Handler} {rest : List (HandlerId × Handler)}
    (h : At base i address (.invoking source message ((id, handler) :: rest)) s)
    (hbase : base.status = .running) :
    At base i address (.invoking source message rest) (s.step (.invoke i)).1 ∧
      Calls base source message (id, handler) (s.step (.invoke i)).2 := by
  have hstep : s.step (.invoke i) =
      (s.setPhase i (.invoking source message rest)).invokeOne source message id handler :=
    h.step_eq rfl
  constructor
  · refine h.goes rfl ?_
    obtain ⟨_, _, hframe⟩ :=
      invokeOne_frame (s.setPhase i (.invoking source message rest)) source message id handler
    rw [hstep, hframe]
    exact getElem?_setPhase_self h.phase _
  · have hreport : (s.setPhase i (.invoking source message rest)).report .exception none =
        base.report .exception none := h.report_eq hbase _ _
    have hstatus : (s.setPhase i (.invoking source message rest)).status = .running :=
      h.serving.status
    rw [hstep, invokeOne_effects, hreport, hstatus]
    refine .intro fun effect hmem => ?_
    obtain ⟨removed, -, rfl⟩ := Option.map_eq_some_iff.1 (Option.mem_toList.1 hmem)
    exact ⟨_, rfl⟩

theorem At.invoked (h : At base i address (.invoking source message []) s) :
    At base i address .idle (s.step (.invoke i)).1 ∧ (s.step (.invoke i)).2 = [] :=
  h.setsPhase rfl (h.step_eq rfl)

/-! ## Runs of its own -/

theorem At.waits (h : At base i address .idle s) (hquiet : ∀ e ∈ events, e.isQuiet)
    (hsteps : ∀ e ∈ stepsOf i events, (∃ sent, e = .acknowledge i sent) ∨ e = .gather i ∨
      e = .invoke i) :
    At base i address .idle (s.run events).1 ∧ effectsOf i s events = [] := by
  induction events generalizing s with
  | nil => exact ⟨h, rfl⟩
  | cons e events ih =>
    have hlater : ∀ e ∈ events, e.isQuiet := fun e he => hquiet e (.tail _ he)
    by_cases hown : e.listener? = some i
    · rw [stepsOf_cons_of_eq hown] at hsteps
      have hstep : s.step e = (s, []) := by
        rw [h.step_eq hown]
        rcases hsteps e (.head _) with ⟨sent, rfl⟩ | rfl | rfl <;> rfl
      rw [run_cons, effectsOf_cons_of_eq hown, hstep]
      exact ih h hlater fun e he => hsteps e (.tail _ he)
    · rw [stepsOf_cons_of_ne hown] at hsteps
      rw [run_cons, effectsOf_cons_of_ne hown]
      exact ih (h.other (hquiet e (.head _)) hown) hlater hsteps

/-- All handlers are called, one at a time and in order. -/
theorem At.invokes {handlers : List (HandlerId × Handler)}
    (h : At base i address (.invoking source message handlers) s) (hbase : base.status = .running)
    (hquiet : ∀ e ∈ events, e.isQuiet)
    (hsteps : stepsOf i events = List.replicate (handlers.length + 1) (.invoke i)) :
    At base i address .idle (s.run events).1 ∧ ∃ calls, effectsOf i s events = calls.flatten ∧
      List.Forall₂ (Calls base source message) handlers calls := by
  induction handlers generalizing s events with
  | nil =>
    obtain ⟨t, more, hat, hmore, hrest, hrun, heffects⟩ := h.next hquiet hsteps
    obtain ⟨hidle, hnone⟩ := hat.invoked
    obtain ⟨hend, hothers⟩ := hidle.others hmore hrest
    rw [hrun, heffects, hnone, hothers]
    exact ⟨hend, [], rfl, .nil⟩
  | cons handler handlers ih =>
    obtain ⟨t, more, hat, hmore, hrest, hrun, heffects⟩ := h.next hquiet hsteps
    obtain ⟨hgoes, hcall⟩ := hat.invoke hbase
    obtain ⟨hend, calls, hcalls, hall⟩ := ih hgoes hmore hrest
    rw [hrun, heffects, hcalls]
    exact ⟨hend, _ :: calls, rfl, .cons hcall hall⟩

/-- A message is acknowledged if it asks for it. -/
theorem At.answers {datagram : Octets} {sent : Bool} (h : At base i address .idle s)
    (hbase : base.status = .running)
    (hdata : Message.decode (datagram.take base.config.maxMessageSize) = .ok message)
    (short : datagram.length < 2 ^ 30) (hquiet : ∀ e ∈ events, e.isQuiet)
    (hsteps : stepsOf i events = [.receive i source datagram, .acknowledge i sent]) :
    At base i address (.gathering source message) (s.run events).1 ∧
      Acknowledges base source message sent (effectsOf i s events) := by
  have hshort : (datagram.take base.config.maxMessageSize).length < 2 ^ 30 :=
    Nat.lt_of_le_of_lt (List.length_take_le' ..) short
  obtain ⟨t, more, hat, hmore, hrest, hrun, heffects⟩ := h.next hquiet hsteps
  obtain ⟨hreceived, hnone⟩ := hat.receive source hdata
  obtain ⟨t', more', hat', hmore', hrest', hrun', heffects'⟩ := hreceived.next hmore hrest
  obtain ⟨hend, hothers⟩ := (hat'.acknowledge sent).others hmore' hrest'
  rw [hrun, hrun', heffects, heffects', hnone, hothers, List.nil_append, List.append_nil]
  exact ⟨hend, hat'.acknowledges hbase hdata hshort sent⟩

/-- The handlers are called that are there when the listener looks them up. -/
theorem At.delivers (h : At base i address (.gathering source message) s)
    (hbase : base.status = .running) (hquiet : ∀ e ∈ events, e.isQuiet)
    (hsteps : stepsOf i events = List.replicate (s.handlers.length + 1) (.invoke i)) :
    At base i address .idle (s.run (.gather i :: events)).1 ∧ ∃ calls,
      effectsOf i s (.gather i :: events) = calls.flatten ∧
      List.Forall₂ (Calls base source message) s.handlers calls := by
  obtain ⟨hinvoking, hnone⟩ := h.gather
  obtain ⟨hend, calls, hcalls, hall⟩ := hinvoking.invokes hbase hquiet hsteps
  refine ⟨hend, calls, ?_, hall⟩
  rw [effectsOf_cons_of_eq rfl, hnone, List.nil_append, hcalls]

/-- A datagram that is no message is reported, and that is all. -/
theorem At.discards {datagram : Octets} {error : DecodeError} {rest : List Event}
    (h : At base i address .idle s) (hbase : base.status = .running)
    (hdata : Message.decode (datagram.take base.config.maxMessageSize) = .error error)
    (hquiet : ∀ e ∈ events, e.isQuiet)
    (hsteps : stepsOf i events = .receive i source datagram :: rest)
    (hrest : ∀ e ∈ rest, (∃ sent, e = .acknowledge i sent) ∨ e = .gather i ∨ e = .invoke i) :
    At base i address .idle (s.run events).1 ∧ effectsOf i s events =
      base.report .invalidPdu (some (datagram.take base.config.maxMessageSize)) := by
  obtain ⟨t, more, hat, hmore, hmoreSteps, hrun, heffects⟩ := h.next hquiet hsteps
  have hstep := hat.receive_undecodable source hbase hdata
  obtain ⟨hend, hnone⟩ := hat.waits hmore (hmoreSteps ▸ hrest)
  rw [hrun, heffects, hstep, hnone, List.append_nil]
  exact ⟨hend, rfl⟩

def informDatagram : Octets :=
  [0x30, 0x13, 0x02, 0x01, 0x01, 0x04, 0x01, 0x61, 0xA6, 0x0B, 0x02, 0x01, 0x07, 0x02, 0x01, 0x00,
    0x02, 0x01, 0x00, 0x30, 0x00]

end NetWatch.Trap.Session
