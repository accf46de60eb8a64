import NetWatch.Proofs.Ber.Extent
import NetWatch.Proofs.Trap.Dispatch

/-!
# Datagrams longer than the buffer

A listener takes the octets of a datagram that fit its buffer for the whole of it. A datagram that
does not fit is discarded unless these octets happen to be a message (`discards_oversized_iff`). A
message that is cut short never is one, since an element says where it ends. But a message that
fills the buffer, with anything behind it, reaches the handlers: `oversized_not_discarded` is such a
datagram.
-/

namespace NetWatch.Trap.Session

open Net (Endpoint)
open Snmp (Message)

variable {base s : Session} {i : Nat} {address source : Endpoint} {datagram : Octets}
  {message : Message}

/-- All that listener `i` does with a datagram is to report the octets that fit its buffer. Its
steps for the datagram may have others between them, but for a stop or a change of the error
handler. -/
def Discards (s : Session) (i : Nat) (source : Endpoint) (datagram : Octets) : Prop :=
  ∀ events rest : List Event, (∀ e ∈ events, e.isQuiet) →
    stepsOf i events = .receive i source datagram :: rest →
    (∀ e ∈ rest, (∃ sent, e = .acknowledge i sent) ∨ e = .gather i ∨ e = .invoke i) →
    effectsOf i s events = s.report .invalidPdu (some (datagram.take s.config.maxMessageSize))

/-! ## Messages and their fronts -/

/-- No other front of a datagram is a message if one is that ends within the datagram. -/
theorem not_isDatagram_take {n k : Nat} (hover : n < datagram.length) (hk : k ≠ n)
    (h : Message.IsDatagram (datagram.take k) message) (other : Message) :
    ¬ Message.IsDatagram (datagram.take n) other := by
  intro hother
  have hsame := congrArg List.length (h.take_unique hother)
  rw [List.length_take, List.length_take] at hsame
  omega

/-! ## What is kept decides -/

theorem At.discards_of_not_isDatagram (h : At s i address .idle s)
    (hdata : ∀ message, ¬ Message.IsDatagram (datagram.take s.config.maxMessageSize) message) :
    s.Discards i source datagram := by
  intro events rest hquiet hsteps hrest
  cases hdecode : Message.decode (datagram.take s.config.maxMessageSize) with
  | error error => exact (h.discards h.serving.status hdecode hquiet hsteps hrest).2
  | ok message =>
    rw [Message.decode_eq_ok_iff_read, Message.fills_read (.whole _)] at hdecode
    exact absurd hdecode (hdata message)

theorem Calls.invoked_mem {id : HandlerId} {handler : Handler} {effects : List Effect}
    (h : Calls s source message (id, handler) effects) :
    .invoked id source message .running ∈ effects := by
  cases h
  exact .head _

/-- A message is not discarded: a handler that is added before the listener looks is called. -/
theorem At.not_discards (h : At s i address .idle s)
    (hdata : Message.IsDatagram (datagram.take s.config.maxMessageSize) message) :
    ¬ s.Discards i source datagram := by
  intro hdiscards
  have hdecode : Message.decode (datagram.take s.config.maxMessageSize) = .ok message := by
    rw [Message.decode_eq_ok_iff_read, Message.fills_read (.whole _)]
    exact hdata
  let added : Event := .addHandler (.mk none none false)
  have hother : added.listener? ≠ some i := by simp [added, Event.listener?]
  have hgathering := (h.receive source hdecode).1.acknowledge true
  have hinvoking := (hgathering.other rfl hother).gather.1
  obtain ⟨⟨id, handler⟩, handlers, hhandlers⟩ := List.exists_cons_of_ne_nil
    (show (Session.step _ added).1.handlers ≠ [] by simp [added, Session.step, addHandler])
  rw [hhandlers] at hinvoking
  have hinvoked := (hinvoking.invoke h.serving.status).2.invoked_mem
  have hseen := hdiscards [.receive i source datagram, .acknowledge i true, added, .gather i,
    .invoke i] [.acknowledge i true, .gather i, .invoke i] (by simp [added, Event.isQuiet])
    (by simp [stepsOf, added, Event.listener?]) (by simp)
  rw [effectsOf_cons_of_eq rfl, effectsOf_cons_of_eq rfl, effectsOf_cons_of_ne hother,
    effectsOf_cons_of_eq rfl, effectsOf_cons_of_eq rfl] at hseen
  have hreported : Effect.invoked id source message .running ∈
      s.report .invalidPdu (some (datagram.take s.config.maxMessageSize)) := by
    rw [← hseen]
    simp only [List.mem_append]
    exact .inr (.inr (.inr (.inl hinvoked)))
  cases effect_report hreported

/-! ## Main statement -/

/-- What becomes of a datagram that does not fit the buffer.

- It is discarded exactly if the octets that fit are not a message.
- It is discarded if any other of its fronts is a message, so in particular if it is one itself. -/
theorem discards_oversized_iff (config : SessionConfig) (errorHandler : Option ErrorHandler)
    (history : List Event) {s : Session} (hrun : s = ((initial config errorHandler).run history).1)
    {i : Nat} {address : Endpoint} (hlistener : s.listener = some (i, address))
    (hidle : s.listeners[i]? = some ⟨false, .idle⟩) (source : Endpoint) (datagram : Octets)
    (hover : config.maxMessageSize < datagram.length) :
    (s.Discards i source datagram ↔
      ∀ message, ¬ Message.IsDatagram (datagram.take config.maxMessageSize) message) ∧
    ∀ (k : Nat) (message : Message), k ≠ config.maxMessageSize →
      Message.IsDatagram (datagram.take k) message → s.Discards i source datagram := by
  have hserving : s.Serving i address :=
    (hrun ▸ stage_run config errorHandler history : Stage s).serving_of_listener hlistener
  have hat : At s i address .idle s := .self hserving hidle
  have hconfig : s.config = config := by
    rw [hrun]
    exact config_run _ history
  subst hconfig
  have hiff : s.Discards i source datagram ↔
      ∀ message, ¬ Message.IsDatagram (datagram.take s.config.maxMessageSize) message :=
    ⟨fun h _ hdata => hat.not_discards hdata h, hat.discards_of_not_isDatagram⟩
  exact ⟨hiff, fun k message hk hdata => hiff.2 (not_isDatagram_take hover hk hdata)⟩

/-- An inform that lacks one octet of room. -/
theorem discards_cut_inform :
    let address : Endpoint := ⟨.v4 .loopback, 1162, 0⟩
    let s := ((initial ⟨address, 20⟩ (some {})).run [.start, .bound (.ok address)]).1
    20 < informDatagram.length ∧ s.Discards 0 address informDatagram := by
  intro address s
  have hover : 20 < informDatagram.length := by decide
  have hdata : Message.IsDatagram (informDatagram.take 21)
      ⟨.v2c, [0x61], .pdu ⟨.informRequest, 7, 0, 0, []⟩⟩ :=
    (Message.fills_read (.whole _) _).1 (Message.decode_eq_ok_iff_read.1 (by decide +kernel))
  exact ⟨hover, (discards_oversized_iff ⟨address, 20⟩ (some {}) _ rfl rfl rfl address
    informDatagram hover).2 21 _ (by decide) hdata⟩

/-- A notification of 21 octets with one octet behind it. -/
def overlong : Octets :=
  [0x30, 0x13, 0x02, 0x01, 0x01, 0x04, 0x01, 0x61, 0xA7, 0x0B, 0x02, 0x01, 0x07, 0x02, 0x01, 0x00,
    0x02, 0x01, 0x00, 0x30, 0x00, 0x00]

/-- The buffer holds just the notification, and its handler is called. -/
theorem oversized_not_discarded :
    let address : Endpoint := ⟨.v4 .loopback, 1162, 0⟩
    let s := ((initial ⟨address, 21⟩ (some {})).run [.addHandler (.mk none none false), .start,
      .bound (.ok address)]).1
    21 < overlong.length ∧
      effectsOf 0 s [.receive 0 address overlong, .gather 0, .invoke 0, .invoke 0] =
        [.invoked 1 address ⟨.v2c, [0x61], .pdu ⟨.trapV2, 7, 0, 0, []⟩⟩ .running] ∧
      ¬ s.Discards 0 address overlong := by
  intro address s
  have hsize : s.config.maxMessageSize = 21 := rfl
  have hdata : Message.decode (overlong.take s.config.maxMessageSize) =
      .ok ⟨.v2c, [0x61], .pdu ⟨.trapV2, 7, 0, 0, []⟩⟩ := by
    rw [hsize]
    decide +kernel
  have hl : s.listeners[0]? = some ⟨false, .idle⟩ := rfl
  have hreceived := step_receive hl address hdata
  have hcalled : effectsOf 0 s [.receive 0 address overlong, .gather 0, .invoke 0, .invoke 0] =
      [.invoked 1 address ⟨.v2c, [0x61], .pdu ⟨.trapV2, 7, 0, 0, []⟩⟩ .running] := by
    rw [effectsOf_cons_of_eq rfl, hreceived]
    rfl
  refine ⟨by decide, hcalled, fun hdiscards => ?_⟩
  have hseen := hdiscards [.receive 0 address overlong, .gather 0, .invoke 0, .invoke 0]
    [.gather 0, .invoke 0, .invoke 0] (by simp [Event.isQuiet]) rfl (by simp)
  nomatch hcalled.symm.trans hseen

end NetWatch.Trap.Session
