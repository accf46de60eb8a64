import Mathlib
import NetWatch.Probing.Correlator

/-!
# What a step can do

`Change c e c'` lists everything that an event may do to a correlator, with the conditions under
which it does so; `change_step` says that a step does nothing else. A probe `Moves` when the event
concerns its own record only, and `Ends` when it gives up its entry. Facts about runs are proved
from these lists and not from the step function.
-/

namespace NetWatch.Probing

namespace Correlator

/-- A probe goes on, or ends before it has an entry. -/
inductive Moves (c : Correlator) (i : Nat) (p : Probe) : Event → Probe → Prop where
  | admitted : p.phase = .called → c.closed = false →
      Moves c i p (.check i) { p with phase := .admitted }
  | refused : p.phase = .called → c.closed = true →
      Moves c i p (.check i) { p with phase := .returned (.error .shutDown) }
  | confirmed : p.phase = .registered → c.closed = false →
      Moves c i p (.recheck i) { p with phase := .sending }
  | sent : p.phase = .sending →
      Moves c i p (.send i true) { p with phase := .waiting, attempts := p.attempts + 1 }
  | timedOut : p.phase = .waiting → p.cancelled = false → p.signal = .silent →
      p.attempts ≤ p.policy.retries → Moves c i p (.look i true) { p with phase := .sending }
  | withdrawn : Moves c i p (.cancel i) { p with cancelled := true }
  | dropped : p.phase = .called ∨ p.phase = .admitted →
      Moves c i p (.drop i) { p with phase := .dropped }

inductive Ends (c : Correlator) (i : Nat) (p : Probe) : Event → Probe → Prop where
  | overtaken : p.phase = .registered → c.closed = true →
      Ends c i p (.recheck i) { p with phase := .returned (.error .shutDown) }
  | sendFailed : p.phase = .sending → Ends c i p (.send i false)
      { p with
        phase := .returned (.ok (.unanswered (p.attempts + 1))), attempts := p.attempts + 1 }
  | cancelled {expired : Bool} : p.phase = .waiting → p.cancelled = true →
      Ends c i p (.look i expired)
        { p with phase := .returned (.error (.cancelled (some p.target))) }
  | answered {expired : Bool} : p.phase = .waiting → p.cancelled = false → p.signal = .answered →
      Ends c i p (.look i expired) { p with phase := .returned (.ok (.answered p.attempts)) }
  | channelClosed {expired : Bool} : p.phase = .waiting → p.cancelled = false →
      p.signal = .closed →
      Ends c i p (.look i expired) { p with phase := .returned (.error .shutDown) }
  | exhausted : p.phase = .waiting → p.cancelled = false → p.signal = .silent →
      p.policy.retries < p.attempts →
      Ends c i p (.look i true) { p with phase := .returned (.ok (.unanswered p.attempts)) }
  | dropped : p.isRegistered → Ends c i p (.drop i) { p with phase := .dropped }

/-- The probe that an event registers, and the key that it gets. -/
def registration? (c : Correlator) : Event → Option (Nat × Key)
  | .register i => match c.probes[i]? with
    | some p => match p.phase with
      | .admitted =>
        if c.hasFreeKey then some (i, freeKey c.pending c.nextKey (c.pending.length + 1)) else none
      | _ => none
    | none => none
  | _ => none

/-- The probe whose signal an event takes out of the map to answer it. -/
def signalled? (c : Correlator) : Event → Option Nat
  | .route source (some key) =>
    if c.receiver = .running then match c.lookup key with
      | some entry => if entry.target = source then entry.signals else none
      | none => none
    else none
  | _ => none

inductive Change (c : Correlator) : Event → Correlator → Prop where
  /-- The event is not due. -/
  | idle {e : Event} : c.registration? e = none → c.signalled? e = none → Change c e c
  | call (target : Net.IpAddress) (policy : Policy) : Change c (.call target policy)
      { c with probes := c.probes ++ [{ target := target, policy := policy }] }
  | moves {i : Nat} {p p' : Probe} {e : Event} : c.probes[i]? = some p → Moves c i p e p' →
      Change c e { c with probes := c.probes.set i p' }
  | registers {i : Nat} {p : Probe} {key : Key} : c.probes[i]? = some p → p.phase = .admitted →
      c.hasFreeKey → key = freeKey c.pending c.nextKey (c.pending.length + 1) →
      Change c (.register i)
        { c with
          pending := (key, ⟨p.target, some i⟩) :: c.pending
          nextKey := c.nextKey + 1
          probes := c.probes.set i { p with phase := .registered, key := key } }
  | ends {i : Nat} {p p' : Probe} {e : Event} : c.probes[i]? = some p → Ends c i p e p' →
      Change c e { c.erase p.key with probes := c.probes.set i p' }
  | answers {source : Net.IpAddress} {key : Key} {i : Nat} : c.receiver = .running →
      c.lookup key = some ⟨source, some i⟩ →
      Change c (.route source (some key)) ((c.spend key).deliver .answered i)
  | leaves : c.receiver = .running → Change c .leave { c with receiver := .leaving, closed := true }
  | clears : c.receiver = .leaving → Change c .clear { c.cleared with receiver := .gone }
  | shuts : c.closed = false →
      Change c .shutdown { c with closed := true, stopping := c.stopping + 1 }
  | shut : 0 < c.stopping → c.receiver = .gone →
      Change c .shutdownEnd { c.cleared with stopping := c.stopping - 1 }

/-! ## Steps are changes -/

theorem modifyProbe_eq {c : Correlator} {i : Nat} {p : Probe} (h : c.probes[i]? = some p)
    (f : Probe → Probe) : c.modifyProbe i f = { c with probes := c.probes.set i (f p) } := by
  have : Inhabited Probe := ⟨p⟩
  rw [modifyProbe, List.modify_eq_set, h]
  rfl

theorem finish_eq {c : Correlator} {i : Nat} {p : Probe} (h : c.probes[i]? = some p)
    (result : Except Error Outcome) : c.finish i p result =
      { c.erase p.key with probes := c.probes.set i { p with phase := .returned result } } :=
  modifyProbe_eq (c := c.erase p.key) h _

section

variable {c : Correlator} {i : Nat} {p : Probe}

theorem change_check (h : c.probes[i]? = some p) (hphase : p.phase = .called) :
    Change c (.check i) (c.checked i) := by
  unfold checked
  rw [modifyProbe_eq h]
  split
  · next hc => exact .moves h (.refused hphase hc)
  · next hc => exact .moves h (.admitted hphase (Bool.eq_false_iff.2 hc))

theorem change_register (h : c.probes[i]? = some p) (hphase : p.phase = .admitted) :
    Change c (.register i) (if c.hasFreeKey then c.registered i p else c) := by
  split
  · next hfree =>
    unfold registered
    simp only
    rw [modifyProbe_eq (c := (c.insertFresh p.target i).2) h]
    exact .registers h hphase hfree rfl
  · next hfull => exact .idle (by simp [registration?, h, hphase, hfull]) rfl

theorem change_recheck (h : c.probes[i]? = some p) (hphase : p.phase = .registered) :
    Change c (.recheck i) (c.rechecked i p) := by
  unfold rechecked
  rw [finish_eq h, modifyProbe_eq h]
  split
  · next hc => exact .ends h (.overtaken hphase hc)
  · next hc => exact .moves h (.confirmed hphase (Bool.eq_false_iff.2 hc))

theorem change_send (h : c.probes[i]? = some p) (hphase : p.phase = .sending) (sent : Bool) :
    Change c (.send i sent) (c.afterSend i p sent) := by
  have hi := (List.getElem?_eq_some_iff.1 h).1
  unfold afterSend
  simp only [modifyProbe_eq h]
  cases sent with
  | true => exact .moves h (.sent hphase)
  | false =>
    have h' : (c.probes.set i { p with phase := .waiting, attempts := p.attempts + 1 })[i]? =
        some { p with phase := .waiting, attempts := p.attempts + 1 } :=
      List.getElem?_set_self hi
    rw [if_neg Bool.false_ne_true, finish, modifyProbe_eq h']
    simp only [erase, List.set_set]
    exact .ends h (.sendFailed hphase)

theorem change_look (h : c.probes[i]? = some p) (hphase : p.phase = .waiting) (expired : Bool) :
    Change c (.look i expired) (c.looked i p expired) := by
  unfold looked
  simp only [finish_eq h]
  split
  · next hcan => exact .ends h (.cancelled hphase hcan)
  next hcan =>
  have hcan := Bool.eq_false_iff.2 hcan
  split
  · next hs => exact .ends h (.answered hphase hcan hs)
  · next hs => exact .ends h (.channelClosed hphase hcan hs)
  · next hs =>
    cases expired with
    | false => exact .idle rfl rfl
    | true =>
      rw [if_pos rfl, modifyProbe_eq h]
      split
      · next hle => exact .moves h (.timedOut hphase hcan hs hle)
      · next hlt => exact .ends h (.exhausted hphase hcan hs (UInt32.not_le.1 hlt))

theorem change_drop (h : c.probes[i]? = some p) :
    Change c (.drop i) (c.stepProbe i p (.drop i)) := by
  rw [stepProbe]
  cases hphase : p.phase with
  | returned result => exact .idle rfl rfl
  | dropped => exact .idle rfl rfl
  | called | admitted =>
    rw [if_neg (by simp [Probe.isRegistered, hphase]), modifyProbe_eq h]
    exact .moves h (.dropped (by simp [hphase]))
  | registered | sending | waiting =>
    have hreg : p.isRegistered := by simp [Probe.isRegistered, hphase]
    rw [if_pos hreg, modifyProbe_eq (c := c.erase p.key) h]
    exact .ends h (.dropped hreg)

theorem change_stepProbe (h : c.probes[i]? = some p) {e : Event} (he : e.probe? = some i) :
    Change c e (c.stepProbe i p e) := by
  cases e with
  | check _ =>
    cases he
    rw [stepProbe]
    split
    · next hphase => exact change_check h hphase
    · exact .idle rfl rfl
  | register _ =>
    cases he
    rw [stepProbe]
    split
    · next hphase => exact change_register h hphase
    · next hphase => exact .idle (by simp [registration?, h]) rfl
  | recheck _ =>
    cases he
    rw [stepProbe]
    split
    · next hphase => exact change_recheck h hphase
    · exact .idle rfl rfl
  | send _ sent =>
    cases he
    rw [stepProbe]
    split
    · next hphase => exact change_send h hphase sent
    · exact .idle rfl rfl
  | look _ expired =>
    cases he
    rw [stepProbe]
    split
    · next hphase => exact change_look h hphase expired
    · exact .idle rfl rfl
  | cancel _ =>
    cases he
    rw [stepProbe, modifyProbe_eq h]
    exact .moves h .withdrawn
  | drop _ =>
    cases he
    exact change_drop h
  | call | route | leave | clear | shutdown | shutdownEnd => cases he

end

theorem change_route (c : Correlator) (source : Net.IpAddress) (key : Option Key) :
    Change c (.route source key) (c.stepOwn (.route source key)) := by
  cases key with
  | none => exact .idle rfl rfl
  | some key =>
    rw [stepOwn]
    split
    · next hr =>
      unfold routed
      split
      · next target i hl =>
        split
        · next ht =>
          subst ht
          exact .answers hr hl
        · next ht => exact .idle rfl (by simp [signalled?, hr, hl, ht])
      · next hl =>
        refine .idle rfl ?_
        rw [signalled?, if_pos hr]
        cases he : c.lookup key with
        | none => rfl
        | some entry =>
          obtain ⟨target, signals⟩ := entry
          cases signals with
          | none => exact ite_self _
          | some i => exact absurd he (hl target i)
    · next hr => exact .idle rfl (by simp [signalled?, hr])

theorem change_step (c : Correlator) (e : Event) : Change c e (c.step e) := by
  unfold step
  cases he : e.probe? with
  | some i =>
    simp only
    cases h : c.probes[i]? with
    | some p => exact change_stepProbe h he
    | none =>
      refine .idle ?_ ?_ <;> cases e <;> first | rfl | cases he
      simp [registration?, h]
  | none =>
    simp only
    cases e with
    | call target policy => exact .call target policy
    | route source key => exact change_route c source key
    | leave =>
      rw [stepOwn]
      split
      · next h => exact .leaves h
      · exact .idle rfl rfl
    | clear =>
      rw [stepOwn]
      split
      · next h => exact .clears h
      · exact .idle rfl rfl
    | shutdown =>
      rw [stepOwn]
      split
      · exact .idle rfl rfl
      · next h => exact .shuts (Bool.eq_false_iff.2 h)
    | shutdownEnd =>
      rw [stepOwn]
      split
      · next h => exact .shut h.1 h.2
      · exact .idle rfl rfl
    | check | register | recheck | send | cancel | look | drop => cases he

end Correlator

end NetWatch.Probing
