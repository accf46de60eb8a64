import NetWatch.Proofs.Trap.Steps

/-!
# The life of a session

However starts and stops overlap, a session is always in one of four stages. Each of them says which
call is in progress, whether there is a listener entry, and which listener may still be alive.
`Stage.step` goes through what each event does to a stage; the rest reads it off.
-/

namespace NetWatch.Trap

namespace Session

open Net (Endpoint IoError)
open Snmp (Message)

variable {s s' : Session} {i j : Nat} {address : Endpoint} {e : Event}

def isAlive (s : Session) (i : Nat) : Bool := (s.listeners[i]?).any fun l => !l.isFinished

/-- Listener `i` is alive, and nobody has told it to end. -/
def isServing (s : Session) (i : Nat) : Bool :=
  (s.listeners[i]?).any fun l => !l.cancelled && !l.isFinished

/-- No call is in progress and nothing is bound. -/
structure Resting (s : Session) : Prop where
  status : s.MayStart
  starting : s.starting = 0
  stopping : s.stopping = []
  listener : s.listener = none
  dead : ∀ j, ¬ s.isAlive j

/-- One start waits for its bind. A stop may have come meanwhile. -/
structure Binding (s : Session) : Prop where
  status : s.status = .starting ∨ s.status = .stopPending
  starting : s.starting = 1
  stopping : s.stopping = []
  listener : s.listener = none
  dead : ∀ j, ¬ s.isAlive j

/-- Listener `i` is in charge, and it is the only one that is alive. -/
structure Serving (s : Session) (i : Nat) (address : Endpoint) : Prop where
  status : s.status = .running
  starting : s.starting = 0
  stopping : s.stopping = []
  listener : s.listener = some (i, address)
  serves : s.isServing i
  alone : ∀ j, s.isAlive j → j = i

/-- One stop waits for listener `i`, which it has cancelled. -/
structure Stopping (s : Session) (i : Nat) : Prop where
  status : s.status = .stopPending
  starting : s.starting = 0
  stopping : s.stopping = [i]
  listener : s.listener = none
  alone : ∀ j, s.isAlive j → j = i

inductive Stage (s : Session) : Prop where
  | resting (h : s.Resting)
  | binding (h : s.Binding)
  | serving {i : Nat} {address : Endpoint} (h : s.Serving i address)
  | stopping {i : Nat} (h : s.Stopping i)

theorem stage_initial (config : SessionConfig) (errorHandler : Option ErrorHandler) :
    Stage (initial config errorHandler) :=
  .resting ⟨.inl rfl, rfl, rfl, rfl, fun _ => nofun⟩

/-! ## What tells the stages apart -/

theorem Stage.resting_of_mayStart (h : Stage s) (hmay : s.MayStart) : s.Resting := by
  cases h with
  | resting h => exact h
  | binding h => rcases h.status with hs | hs <;> simp [MayStart, hs] at hmay
  | serving h => simp [MayStart, h.status] at hmay
  | stopping h => simp [MayStart, h.status] at hmay

theorem Stage.binding_of_starting (h : Stage s) (hpos : s.starting ≠ 0) : s.Binding := by
  cases h with
  | resting h => exact absurd h.starting hpos
  | binding h => exact h
  | serving h => exact absurd h.starting hpos
  | stopping h => exact absurd h.starting hpos

theorem Stage.binding_of_status (h : Stage s) (hstatus : s.status = .starting) : s.Binding := by
  cases h with
  | resting h => simpa [MayStart, hstatus] using h.status
  | binding h => exact h
  | serving h => simpa [hstatus] using h.status
  | stopping h => simpa [hstatus] using h.status

theorem Stage.serving_of_running (h : Stage s) (hstatus : s.status = .running) :
    ∃ i address, s.Serving i address := by
  cases h with
  | resting h => simpa [MayStart, hstatus] using h.status
  | binding h => simpa [hstatus] using h.status
  | serving h => exact ⟨_, _, h⟩
  | stopping h => simpa [hstatus] using h.status

theorem Stage.stopping_of_mem (h : Stage s) (hmem : i ∈ s.stopping) : s.Stopping i := by
  cases h with
  | resting h => simp [h.stopping] at hmem
  | binding h => simp [h.stopping] at hmem
  | serving h => simp [h.stopping] at hmem
  | stopping h =>
    obtain rfl : i = _ := by simpa [h.stopping] using hmem
    exact h

/-! ## Steps between the calls -/

/-- Neither the status nor a call in progress changes, and a listener ends only if it is told to. -/
structure Undisturbed (s s' : Session) : Prop where
  status : s'.status = s.status
  starting : s'.starting = s.starting
  stopping : s'.stopping = s.stopping
  listener : s'.listener = s.listener
  alive : ∀ j, s'.isAlive j → s.isAlive j
  serves : ∀ j, s.isServing j → s'.isServing j

theorem Turn.undisturbed (h : Turn i s s') : Undisturbed s s' := by
  obtain ⟨⟨handlers, nextId, listeners, rfl⟩, helsewhere, hown⟩ := h
  refine ⟨rfl, rfl, rfl, rfl, fun j => ?alive, fun j => ?serves⟩ <;>
    obtain rfl | hne := eq_or_ne j i
  case alive.inl =>
    obtain hsame | ⟨l, phase, hl, hlive, _, _⟩ := hown
    · simp only [isAlive, hsame, imp_self]
    · simp [isAlive, hl, hlive]
  case alive.inr => simp only [isAlive, helsewhere j hne, imp_self]
  case serves.inl =>
    obtain hsame | ⟨l, phase, hl, hlive, hl', hends⟩ := hown
    · simp only [isServing, hsame, imp_self]
    · simp only [isServing, hl, hl', Option.any_some, Bool.and_eq_true, Bool.not_eq_true']
      rintro ⟨hcancelled, _⟩
      refine ⟨hcancelled, ?_⟩
      cases phase with
      | finished => simp [hends rfl] at hcancelled
      | idle | acknowledging | gathering | invoking => rfl
  case serves.inr => simp only [isServing, helsewhere j hne, imp_self]

theorem Undisturbed.mayStart_iff (hu : Undisturbed s s') : s'.MayStart ↔ s.MayStart := by
  rw [MayStart, MayStart, hu.status]

theorem Resting.undisturbed (h : s.Resting) (hu : Undisturbed s s') : s'.Resting where
  status := hu.mayStart_iff.2 h.status
  starting := hu.starting.trans h.starting
  stopping := hu.stopping.trans h.stopping
  listener := hu.listener.trans h.listener
  dead j hj := h.dead j (hu.alive j hj)

theorem Binding.undisturbed (h : s.Binding) (hu : Undisturbed s s') : s'.Binding where
  status := hu.status ▸ h.status
  starting := hu.starting.trans h.starting
  stopping := hu.stopping.trans h.stopping
  listener := hu.listener.trans h.listener
  dead j hj := h.dead j (hu.alive j hj)

theorem Serving.undisturbed (h : s.Serving i address) (hu : Undisturbed s s') :
    s'.Serving i address where
  status := hu.status.trans h.status
  starting := hu.starting.trans h.starting
  stopping := hu.stopping.trans h.stopping
  listener := hu.listener.trans h.listener
  serves := hu.serves i h.serves
  alone j hj := h.alone j (hu.alive j hj)

theorem Stopping.undisturbed (h : s.Stopping i) (hu : Undisturbed s s') : s'.Stopping i where
  status := hu.status.trans h.status
  starting := hu.starting.trans h.starting
  stopping := hu.stopping.trans h.stopping
  listener := hu.listener.trans h.listener
  alone j hj := h.alone j (hu.alive j hj)

theorem Stage.undisturbed (h : Stage s) (hu : Undisturbed s s') : Stage s' := by
  cases h with
  | resting h => exact .resting (h.undisturbed hu)
  | binding h => exact .binding (h.undisturbed hu)
  | serving h => exact .serving (h.undisturbed hu)
  | stopping h => exact .stopping (h.undisturbed hu)

/-! ## Starts -/

theorem Stage.start (h : Stage s) : Stage s.start.1 := by
  by_cases hmay : s.MayStart
  · have hr := h.resting_of_mayStart hmay
    rw [start_begins hmay]
    exact .binding ⟨.inl rfl, congrArg (· + 1) hr.starting, hr.stopping, hr.listener, hr.dead⟩
  · rw [start_illegal hmay]
    exact h

theorem Binding.resting_of_error (h : s.Binding) (error : IoError) :
    (s.bound (.error error)).1.Resting := by
  have hpos : s.starting ≠ 0 := by simp [h.starting]
  rw [bound_error hpos]
  exact ⟨.inr rfl, by simp [h.starting], h.stopping, h.listener, h.dead⟩

/-- A stop that came before the end of the bind has its way. -/
theorem Binding.resting_of_overtaken (h : s.Binding) (hstop : s.status = .stopPending)
    (result : Except IoError Endpoint) : (s.bound result).1.Resting := by
  cases result with
  | error error => exact h.resting_of_error error
  | ok address =>
    simp only [Session.bound, h.starting, hstop]
    exact ⟨.inr rfl, rfl, h.stopping, h.listener, h.dead⟩

theorem eq_length_of_isAlive_append {l : Listener} (hdead : ∀ j, ¬ s.isAlive j)
    (heq : s'.listeners = s.listeners ++ [l]) (h : s'.isAlive j) : j = s.listeners.length := by
  rcases Nat.lt_trichotomy j s.listeners.length with hlt | hsame | hgt
  · refine absurd ?_ (hdead j)
    rwa [isAlive, heq, List.getElem?_append_left hlt] at h
  · exact hsame
  · have hnone : (s.listeners ++ [l])[j]? = none := List.getElem?_eq_none (by simpa using hgt)
    simp [isAlive, heq, hnone] at h

theorem Stage.bound (h : Stage s) (result : Except IoError Endpoint) :
    Stage (s.bound result).1 := by
  by_cases hzero : s.starting = 0
  · rw [bound_idle hzero]
    exact h
  have hb := h.binding_of_starting hzero
  cases result with
  | error error => exact .resting (hb.resting_of_error error)
  | ok address =>
    by_cases hstop : s.status = .stopPending
    · exact .resting (hb.resting_of_overtaken hstop _)
    · simp only [Session.bound, hb.starting, hstop, if_false]
      refine .serving ⟨rfl, rfl, hb.stopping, rfl, ?_, fun j hj => ?_⟩
      · simp [isServing, Listener.isFinished]
      · exact eq_length_of_isAlive_append hb.dead rfl hj

/-! ## Stops -/

theorem isAlive_cancel (heq : s'.listeners = s.listeners.modify i fun l =>
    { l with cancelled := true }) (j : Nat) : s'.isAlive j = s.isAlive j := by
  obtain rfl | hne := eq_or_ne j i
  · cases hl : s.listeners[j]? <;> simp [isAlive, heq, hl, Listener.isFinished]
  · rw [isAlive, heq, List.getElem?_modify_ne _ _ hne.symm, isAlive]

theorem Resting.stop (h : s.Resting) : s.stop.1.Resting := by
  rcases h.status with hstatus | hstatus <;> simp only [Session.stop, hstatus]
  · exact ⟨.inr rfl, h.starting, h.stopping, h.listener, h.dead⟩
  · exact h

theorem Stage.stop (h : Stage s) : Stage s.stop.1 := by
  cases hstatus : s.status with
  | startPending | stopped =>
    exact .resting (h.resting_of_mayStart (by simp [MayStart, hstatus])).stop
  | starting =>
    have hb := h.binding_of_status hstatus
    simp only [Session.stop, hstatus]
    exact .binding ⟨.inr rfl, hb.starting, hb.stopping, hb.listener, hb.dead⟩
  | running =>
    obtain ⟨i, address, hs⟩ := h.serving_of_running hstatus
    simp only [Session.stop, hstatus, hs.listener]
    refine .stopping ⟨rfl, hs.starting, by rw [hs.stopping]; rfl, rfl, fun j hj => ?_⟩
    rw [isAlive_cancel rfl] at hj
    exact hs.alone j hj
  | stopPending =>
    simp only [Session.stop, hstatus]
    exact h

/-- A stop that has seen the end of its listener leaves nothing behind; any other does not return. -/
theorem Stage.joined_cases (h : Stage s) (i : Nat) :
    (s.joined i).1.Resting ∨ s.joined i = (s, []) := by
  unfold Session.joined
  split
  · next hdue =>
    obtain ⟨hmem, hends⟩ := (Bool.and_eq_true ..).mp hdue
    have hs := h.stopping_of_mem (List.contains_iff_mem.1 hmem)
    refine .inl ⟨.inr rfl, hs.starting, by simp [hs.stopping], hs.listener, fun j hj => ?_⟩
    -- only this listener could be alive, and it has come to its end
    obtain rfl := hs.alone j hj
    obtain ⟨l, hl, hlive⟩ := (Option.any_eq_true ..).mp hj
    simp [hl] at hends hlive
    simp [hends] at hlive
  · exact .inr rfl

theorem Stage.joined (h : Stage s) (i : Nat) : Stage (s.joined i).1 := by
  rcases h.joined_cases i with hr | hsame
  · exact .resting hr
  · rw [hsame]
    exact h

theorem undisturbed_step (h : e.isCall = false) (s : Session) : Undisturbed s (s.step e).1 := by
  rcases e.kind with hcall | hsend | hsetting | ⟨i, hturn⟩
  · simp [h] at hcall
  · obtain ⟨sending, hstep⟩ := send_frame hsend s
    rw [hstep]
    exact ⟨rfl, rfl, rfl, rfl, fun _ => id, fun _ => id⟩
  · obtain ⟨handlers, nextId, errorHandler, hstep⟩ := setting_frame hsetting s
    rw [hstep]
    exact ⟨rfl, rfl, rfl, rfl, fun _ => id, fun _ => id⟩
  · exact (turn_step hturn).undisturbed

theorem Stage.step (h : Stage s) (e : Event) : Stage (s.step e).1 := by
  cases hcall : e.isCall with
  | false => exact h.undisturbed (undisturbed_step hcall s)
  | true =>
    cases e with
    | start => exact h.start
    | bound result => exact h.bound result
    | stop => exact h.stop
    | joined i => exact h.joined i
    | _ => cases hcall

theorem stage_run (config : SessionConfig) (errorHandler : Option ErrorHandler)
    (events : List Event) : Stage ((initial config errorHandler).run events).1 :=
  run_invariant (fun _ e h => h.step e) (stage_initial config errorHandler) events

theorem Stage.listener_iff (h : Stage s) : s.listener.isSome ↔ s.status = .running := by
  constructor
  · intro hsome
    cases h with
    | serving h => exact h.status
    | resting h => simp [h.listener] at hsome
    | binding h => simp [h.listener] at hsome
    | stopping h => simp [h.listener] at hsome
  · intro hstatus
    obtain ⟨i, address, hs⟩ := h.serving_of_running hstatus
    simp [hs.listener]

theorem Stage.serving_of_listener (h : Stage s) (hlistener : s.listener = some (i, address)) :
    s.Serving i address := by
  have hstatus := h.listener_iff.1 (by rw [hlistener]; rfl)
  obtain ⟨j, bound, hs⟩ := h.serving_of_running hstatus
  cases hlistener.symm.trans hs.listener
  exact hs

theorem Stage.alone (h : Stage s) (hi : s.isAlive i) (hj : s.isAlive j) : i = j := by
  cases h with
  | resting h => exact absurd hi (h.dead i)
  | binding h => exact absurd hi (h.dead i)
  | serving h => exact (h.alone i hi).trans (h.alone j hj).symm
  | stopping h => exact (h.alone i hi).trans (h.alone j hj).symm

/-- With no call in progress, the session is at one of the places where it can stay. -/
theorem Stage.settled (h : Stage s) (hstarting : s.starting = 0) (hstopping : s.stopping = []) :
    s.status = .startPending ∨ s.status = .running ∨ s.status = .stopped := by
  cases h with
  | resting h => exact h.status.imp_right .inr
  | binding h => cases hstarting.symm.trans h.starting
  | serving h => exact .inr (.inl h.status)
  | stopping h => cases hstopping.symm.trans h.stopping

theorem handlers_run (calls : List Event) (hcalls : ∀ e ∈ calls, e.isCall) (s : Session) :
    (s.run calls).1.handlers = s.handlers ∧ (s.run calls).1.nextId = s.nextId := by
  induction calls generalizing s with
  | nil => exact ⟨rfl, rfl⟩
  | cons e calls ih =>
    obtain ⟨hhandlers, hnext⟩ := ih (fun e he => hcalls e (.tail _ he)) (s.step e).1
    obtain ⟨_, _, _, _, _, hstep⟩ := call_frame (hcalls e (.head _)) s
    rw [run_cons, hhandlers, hnext, hstep]
    exact ⟨rfl, rfl⟩

/-! ## Sends -/

theorem sends_step (h : e.isSend = false) (s : Session) : (s.step e).1.sends = s.sends := by
  rcases e.kind with hcall | hsend | hsetting | ⟨i, hturn⟩
  · obtain ⟨_, _, _, _, _, hstep⟩ := call_frame hcall s
    rw [hstep]
  · simp [h] at hsend
  · obtain ⟨_, _, _, hstep⟩ := setting_frame hsetting s
    rw [hstep]
  · obtain ⟨_, _, _, hstep⟩ := (turn_step hturn (s := s)).frame
    rw [hstep]

def request (send : Send) : Endpoint × Message := (send.target, send.message)

/-- The send that an event lets through, because it finds the session running. -/
def checked? (s : Session) : Event → Option (Endpoint × Message)
  | .send target message => if s.status = .running then some (target, message) else none
  | _ => none

@[simp] theorem requests_setSendPhase (s : Session) (n : Nat) (phase : SendPhase) :
    (s.setSendPhase n phase).sends.map request = s.sends.map request := by
  refine List.ext_getElem? fun m => ?_
  rw [setSendPhase, List.getElem?_map, List.getElem?_map, List.getElem?_modify]
  cases s.sends[m]? with
  | none => rfl
  | some send => by_cases hm : n = m <;> simp [hm, request]

/-- A send comes to be by passing its check, and in no other way. -/
theorem requests_step (s : Session) (e : Event) :
    (s.step e).1.sends.map request = s.sends.map request ++ (s.checked? e).toList := by
  cases e with
  | send target message =>
    by_cases h : s.status = .running
    · simp [checked?, Session.step, send_checked h, h, request]
    · simp [checked?, Session.step, send_illegal h, h]
  | takeSocket n =>
    rw [Session.step]
    rcases s.takeSocket_cases n with hstep | ⟨_, _, _, hstep | hstep⟩ <;> simp [hstep, checked?]
  | transmit n result =>
    rw [Session.step]
    rcases s.transmit_cases n result with hstep | ⟨_, _, _, hstep⟩ <;> simp [hstep, checked?]
  | _ =>
    rw [sends_step rfl]
    exact (List.append_nil _).symm

theorem requests_run (s : Session) (events : List Event) :
    (s.run events).1.sends.map request = s.sends.map request ++ s.trace checked? events := by
  induction events generalizing s with
  | nil => simp [trace, run]
  | cons e events ih => rw [run_cons, ih, requests_step, trace, List.append_assoc]

theorem returned_step {n : Nat} {send : Send} (hsend : s.sends[n]? = some send)
    (hreturned : send.phase = .returned) (e : Event) : (s.step e).1.sends[n]? = some send := by
  -- a step moves on no send but one that has not returned
  have hother {m : Nat} {other : Send} {phase : SendPhase} (hm : s.sends[m]? = some other)
      (hphase : other.phase ≠ .returned) : (s.setSendPhase m phase).sends[n]? = some send := by
    have hne : m ≠ n := by
      rintro rfl
      obtain rfl := Option.some.inj (hm.symm.trans hsend)
      exact hphase hreturned
    rw [setSendPhase, List.getElem?_modify_ne _ _ hne, hsend]
  cases e with
  | send target message =>
    by_cases h : s.status = .running
    · rw [Session.step, send_checked h, List.getElem?_append_left
        (List.getElem?_eq_some_iff.1 hsend).1, hsend]
    · rwa [Session.step, send_illegal h]
  | takeSocket m =>
    rw [Session.step]
    rcases s.takeSocket_cases m with hstep | ⟨_, hm, hphase, hstep | hstep⟩ <;> rw [hstep]
    · exact hsend
    · exact hother hm (by simp [hphase])
    · exact hother hm (by simp [hphase])
  | transmit m result =>
    rw [Session.step]
    rcases s.transmit_cases m result with hstep | ⟨_, hm, hphase, hstep⟩ <;> rw [hstep]
    · exact hsend
    · exact hother hm (by simp [hphase])
  | _ => rwa [sends_step rfl]

theorem returned_run {n : Nat} {send : Send} (hsend : s.sends[n]? = some send)
    (hreturned : send.phase = .returned) (events : List Event) :
    (s.run events).1.sends[n]? = some send :=
  run_invariant (P := fun t => t.sends[n]? = some send)
    (fun _ e h => returned_step h hreturned e) hsend events

/-- Only a send that has the socket returns well, and it has put its message on the wire. -/
theorem sent_of_sendReturned (h : .sendReturned (.ok ()) ∈ (s.step e).2) :
    ∃ n send, e = .transmit n (.ok ()) ∧ s.sends[n]? = some send ∧ send.phase = .equipped ∧
      (s.step e).1.sends[n]? = some { send with phase := .returned } ∧
      (s.step e).2 = [.sent send.target send.message.encode, .sendReturned (.ok ())] := by
  cases e with
  | transmit n result =>
    rw [Session.step] at h ⊢
    rcases s.transmit_cases n result with hstep | ⟨send, hsend, hphase, hstep⟩ <;>
      rw [hstep] at h ⊢
    · cases h
    · cases result with
      | error => simp [Send.outcome] at h
      | ok => exact ⟨n, send, rfl, hsend, hphase, by simp [setSendPhase, hsend], rfl⟩
  | takeSocket n =>
    rw [Session.step] at h
    rcases s.takeSocket_cases n with hstep | ⟨_, _, _, hstep | hstep⟩ <;> simp [hstep] at h
  | send target message =>
    by_cases hstatus : s.status = .running
    · simp [Session.step, send_checked hstatus] at h
    · simp [Session.step, send_illegal hstatus] at h
  | start | bound | stop | joined => rcases effect_call rfl h with ⟨_, h⟩ | h <;> cases h
  | addHandler | removeHandler | setErrorHandler => simp [Session.step] at h
  | receive | receiveFailed | acknowledge | gather | invoke | notice =>
    exact absurd (effect_turn rfl h).1 (by decide)

/-- A stop overtakes a bind. Then the session runs, a send takes the socket, and the session is
stopped and started again before that send goes out. -/
def overlap (address : Endpoint) (message : Message) : List Event :=
  [.start, .stop, .start, .bound (.ok address), .start, .bound (.ok address),
    .send address message, .takeSocket 0, .stop, .notice 0, .joined 0, .start]

end Session

end NetWatch.Trap
