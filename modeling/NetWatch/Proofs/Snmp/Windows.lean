import NetWatch.Proofs.Ber.Windows
import NetWatch.Proofs.Snmp.Recognition

/-!
# Histories of a decoder

Windows are taken out of a message and out of each other, and each of them is read on its own, in
any order, by reads that succeed and reads that fail. Whatever the history, every window stays
inside the message and only moves forward, and the windows that were taken out of the same one do
not meet (`windows_of_history`). It comes from what a single step may do (`Step`), which holds
because every reader of a message is confined to its window.
-/

namespace NetWatch

open Ber Ber.Reader

/-! ## The readers of a message are confined -/

theorem Smi.Value.confined_readTagged (tag : Tag) : (readTagged tag).Confined := by
  intro start
  have hnumber (f : UInt32 → Value) : (f <$> Reader.unsigned32 tag).ConfinedFrom start :=
    (confined_unsigned32 tag).map f start
  have hstring (f : Octets → Value) : (f <$> Reader.string tag).ConfinedFrom start :=
    (confined_string tag).map f start
  have hempty (v : Value) : ((fun _ => v) <$> Reader.empty tag).ConfinedFrom start :=
    (confined_empty tag).map _ start
  -- the tags in the order in which they are looked for
  refine .ite (confined_integer.map _ start) ?_
  refine .ite (hnumber unsigned32) ?_
  refine .ite (hnumber counter32) ?_
  refine .ite (hnumber timeTicks) ?_
  refine .ite ((confined_unsigned64 tag).map _ start) ?_
  refine .ite (hstring octetString) ?_
  refine .ite (hstring opaqueData) ?_
  refine .ite (confined_ipAddress.map _ start) ?_
  refine .ite (confined_oid.map _ start) ?_
  refine .ite ((confined_empty _).map _ start) ?_
  refine .ite (hempty noSuchObject) ?_
  refine .ite (hempty noSuchInstance) ?_
  refine .ite (hempty endOfMibView) ?_
  exact confined_offset_bind (fun o => confinedFrom_fail o _) start

theorem Smi.Value.confined_read : Value.read.Confined := by
  refine fun start => confinedFrom_peekTag?_bind fun tag => ?_
  cases tag with
  | none => exact confined_offset_bind (fun o => confinedFrom_fail o _) start
  | some tag => exact confined_readTagged tag start

namespace Snmp

open Smi

theorem confined_expectEnd_return (a : α) :
    (do expectEnd; return a : Reader α).Confined :=
  confined_expectEnd.bind fun _ _ => confinedFrom_pure a

theorem confined_constructed_within {body : Reader α} (h : body.Confined) (tag : Tag) :
    (do within (← constructed tag) body : Reader α).Confined :=
  confined_within (confined_constructed tag) (takes_constructed tag) h

theorem VarBind.confined_read : VarBind.read.Confined :=
  confined_constructed_within (confined_oid.bind fun _ => Value.confined_read.bind fun _ =>
    confined_expectEnd_return _) Tag.sequence

theorem VarBind.confined_readList : VarBind.readList.Confined :=
  confined_constructed_within (confined_untilEnd confined_read) Tag.sequence

theorem Pdu.confined_readBody (pduType : PduType) : (Pdu.readBody pduType).Confined :=
  confined_integer.bind fun _ => confined_integer.bind fun _ => confined_integer.bind fun _ =>
    VarBind.confined_readList.bind fun _ => confined_expectEnd_return _

theorem Pdu.confined_read : Pdu.read.Confined := by
  refine confined_offset_bind fun start => (confined_header start).bind fun (tag, length) => ?_
  have hfail : ConfinedFrom start (fail start (.unknownPduType tag) : Reader Pdu) :=
    confinedFrom_fail start _
  have hread (pduType : PduType) :
      (do within (← window length) (Pdu.readBody pduType) : Reader Pdu).ConfinedFrom start :=
    confined_within (confined_window length) (takes_window length) (confined_readBody pduType) start
  dsimp only
  split
  · exact hfail
  · exact hfail
  · exact hread _

theorem TrapPdu.confined_read : TrapPdu.read.Confined :=
  confined_constructed_within (confined_oid.bind fun _ => confined_ipAddress.bind fun _ =>
    confined_integer.bind fun _ => confined_integer.bind fun _ =>
    (confined_unsigned32 _).bind fun _ => VarBind.confined_readList.bind fun _ =>
    confined_expectEnd_return _) Tag.trapV1

theorem PduBody.confined_read : PduBody.read.Confined :=
  fun start => confinedFrom_peekTag?_bind fun _ =>
    (TrapPdu.confined_read.map _ start).ite (Pdu.confined_read.map _ start)

theorem Message.confined_readBody : Message.readBody.Confined := by
  refine confined_offset_bind fun start => (confined_integer start).bind fun number => ?_
  split
  · exact confinedFrom_fail start _
  next version _ =>
  refine (confined_string _).bind (fun community => confined_offset_bind fun bodyStart => ?_) start
  have hbody : Confined (do
      let body ← PduBody.read
      expectEnd
      return Message.mk version community body) :=
    PduBody.confined_read.bind fun body =>
      confined_expectEnd_return (Message.mk version community body)
  exact confinedFrom_peekTag?_bind fun tag => (confinedFrom_fail bodyStart _).ite (hbody bodyStart)

theorem Message.confined_read : Message.read.Confined := by
  rw [read_eq]
  exact (confined_constructed_within confined_readBody Tag.sequence).bind fun m =>
    confined_expectEnd_return m

theorem Message.decode_error_offset_le {data : Octets} {e : DecodeError}
    (h : Message.decode data = .error e) : e.offset ≤ data.length := by
  rw [decode, runOn] at h
  split at h
  · cases h
  next e' w' hr =>
  cases h
  have hle := ((confined_iff.1 confined_read).2 _ _ _ hr).2.2
  simpa [Window.stop, Window.whole] using hle

/-! ## Histories -/

/-- What can be asked of a window. The last six read parts of a message, by way of windows of their
own; a history may also go through these windows with the other requests. -/
inductive Operation where
  | header
  | bytes (n : Nat)
  /-- A window over the next octets. -/
  | window (n : Nat)
  | constructed (tag : Tag)
  | sequence
  | integer
  | integerTagged (tag : Tag)
  | unsigned32 (tag : Tag)
  | unsigned64 (tag : Tag)
  | string (tag : Tag)
  | octetString
  | empty (tag : Tag)
  | null
  | oid
  | ipAddress
  | expectEnd
  | value
  | varBind
  | varBinds
  | pdu
  | trap
  | body

namespace Operation

def reader : Operation → Reader (Option Window)
  | header => (fun _ => none) <$> Reader.header
  | bytes n => (fun _ => none) <$> Reader.bytes n
  | window n => some <$> Reader.window n
  | constructed tag => some <$> Reader.constructed tag
  | sequence => some <$> Reader.sequence
  | integer => (fun _ => none) <$> Reader.integer
  | integerTagged tag => (fun _ => none) <$> Reader.integerTagged tag
  | unsigned32 tag => (fun _ => none) <$> Reader.unsigned32 tag
  | unsigned64 tag => (fun _ => none) <$> Reader.unsigned64 tag
  | string tag => (fun _ => none) <$> Reader.string tag
  | octetString => (fun _ => none) <$> Reader.octetString
  | empty tag => (fun _ => none) <$> Reader.empty tag
  | null => (fun _ => none) <$> Reader.null
  | oid => (fun _ => none) <$> Reader.oid
  | ipAddress => (fun _ => none) <$> Reader.ipAddress
  | expectEnd => (fun _ => none) <$> Reader.expectEnd
  | value => (fun _ => none) <$> Value.read
  | varBind => (fun _ => none) <$> VarBind.read
  | varBinds => (fun _ => none) <$> VarBind.readList
  | pdu => (fun _ => none) <$> Pdu.read
  | trap => (fun _ => none) <$> TrapPdu.read
  | body => (fun _ => none) <$> PduBody.read

/-- What may have moved when it fails: it has passed a header, an address or parts of what it is
made of. -/
def mayMove : Operation → Bool
  | constructed _ | sequence | ipAddress | value | varBind | varBinds | pdu | trap | body => true
  | _ => false

theorem confined (op : Operation) : op.reader.Confined := by
  cases op with
  | header => exact confined_header.map _
  | bytes n => exact (confined_bytes n).map _
  | window n => exact (confined_window n).map _
  | constructed tag => exact (confined_constructed tag).map _
  | sequence => exact (confined_constructed _).map _
  | integer => exact confined_integer.map _
  | integerTagged tag => exact (confined_integerTagged tag).map _
  | unsigned32 tag => exact (confined_unsigned32 tag).map _
  | unsigned64 tag => exact (confined_unsigned64 tag).map _
  | string tag => exact (confined_string tag).map _
  | octetString => exact (confined_string _).map _
  | empty tag => exact (confined_empty tag).map _
  | null => exact (confined_empty _).map _
  | oid => exact confined_oid.map _
  | ipAddress => exact confined_ipAddress.map _
  | expectEnd => exact confined_expectEnd.map _
  | value => exact Value.confined_read.map _
  | varBind => exact VarBind.confined_read.map _
  | varBinds => exact VarBind.confined_readList.map _
  | pdu => exact Pdu.confined_read.map _
  | trap => exact TrapPdu.confined_read.map _
  | body => exact PduBody.confined_read.map _

theorem cuts {op : Operation} {w part w' : Window} (h : op.reader w = .ok (some part) w') :
    w.Cuts part w' := by
  cases op with
  | window n =>
    obtain ⟨_, hr, ⟨⟩⟩ := map_eq_ok_iff.1 h
    exact takes_window n hr
  | constructed tag =>
    obtain ⟨_, hr, ⟨⟩⟩ := map_eq_ok_iff.1 h
    exact takes_constructed tag hr
  | sequence =>
    obtain ⟨_, hr, ⟨⟩⟩ := map_eq_ok_iff.1 h
    exact takes_constructed _ hr
  | _ =>
    obtain ⟨_, _, hnone⟩ := map_eq_ok_iff.1 h
    cases hnone

theorem stays {op : Operation} (hop : op.mayMove = false) : op.reader.Stays := by
  intro w w' e h
  cases op with
  | header => exact stays_header (map_eq_error_iff.1 h)
  | bytes n => exact stays_bytes n (map_eq_error_iff.1 h)
  | window n => exact stays_window n (map_eq_error_iff.1 h)
  | integer | integerTagged | unsigned32 | unsigned64 | string | octetString | empty | null | oid =>
    exact stays_tagged _ _ (map_eq_error_iff.1 h)
  | expectEnd => exact stays_expectEnd (map_eq_error_iff.1 h)
  | constructed | sequence | ipAddress | value | varBind | varBinds | pdu | trap | body => cases hop

/-- What is given lies between where the window was and where it is then. -/
theorem ok_bounds {op : Operation} {w w' : Window} {part : Option Window}
    (h : op.reader w = .ok part w') : w.offset ≤ w'.offset ∧ w'.stop = w.stop ∧
      ∀ p, part = some p → w.offset ≤ p.offset ∧ p.stop = w'.offset := by
  have hr := (confined_iff.1 op.confined).1 w part w' h
  refine ⟨hr.offset_le, hr.stop_eq, ?_⟩
  rintro p rfl
  exact ⟨(cuts h).offset_le, (cuts h).stop_eq⟩

theorem error_bounds {op : Operation} {w w' : Window} {e : DecodeError}
    (h : op.reader w = .error e w') : w.offset ≤ w'.offset ∧ w'.stop = w.stop ∧
      w.offset ≤ e.offset ∧ e.offset ≤ w.stop ∧ (op.mayMove = false → w' = w) := by
  obtain ⟨hr, hle, hstop⟩ := (confined_iff.1 op.confined).2 w e w' h
  exact ⟨hr.offset_le, hr.stop_eq, hle, hstop, fun hop => stays hop h⟩

end Operation

structure Cursor where
  /-- The cursor whose octets it was made of. -/
  parent : Option Nat
  /-- Where its window began. -/
  start : Nat
  window : Window
  deriving DecidableEq

namespace Cursor

def initial (data : Octets) : List Cursor := [⟨none, 0, .whole data⟩]

/-- Something is asked of cursor `i`. A window that is given becomes a cursor of its own. -/
def step (cursors : List Cursor) (i : Nat) (op : Operation) : List Cursor :=
  match cursors[i]? with
  | none => cursors
  | some c => match op.reader c.window with
    | .ok none w | .error _ w => cursors.set i { c with window := w }
    | .ok (some part) w =>
      cursors.set i { c with window := w } ++ [⟨some i, part.offset, part⟩]

def run (cursors : List Cursor) : List (Nat × Operation) → List Cursor
  | [] => cursors
  | (i, op) :: history => run (step cursors i op) history

/-! ## What a step may do -/

variable {data : Octets} {cursors cursors' cursors'' : List Cursor} {c c' c'' : Cursor} {i : Nat}

structure Moves (c c' : Cursor) : Prop where
  parent : c'.parent = c.parent
  start : c'.start = c.start
  window : c.window.Reaches c'.window

def Onward (cursors cursors' : List Cursor) : Prop :=
  ∀ (i : Nat) (c : Cursor), cursors[i]? = some c → ∃ c', cursors'[i]? = some c' ∧ c.Moves c'

/-- The cursors go forward. One that is new comes last, and is cut out of what another one passes.
-/
structure Step (cursors cursors' : List Cursor) : Prop where
  onward : Onward cursors cursors'
  fresh {k : Nat} {c : Cursor} (h : cursors'[k]? = some c) (hk : cursors.length ≤ k) :
    k = cursors.length ∧ c.start = c.window.offset ∧ ∃ i p p', c.parent = some i ∧
      cursors[i]? = some p ∧ cursors'[i]? = some p' ∧ p.window.Cuts c.window p'.window

theorem moves_refl (c : Cursor) : c.Moves c := ⟨rfl, rfl, c.window.reaches_refl⟩

theorem moves_to {w : Window} (h : c.window.Reaches w) : c.Moves { c with window := w } :=
  ⟨rfl, rfl, h⟩

theorem Moves.trans (h : c.Moves c') (h' : c'.Moves c'') : c.Moves c'' :=
  ⟨h'.parent.trans h.parent, h'.start.trans h.start, h.window.trans h'.window⟩

theorem onward_refl (cursors : List Cursor) : Onward cursors cursors :=
  fun _ c h => ⟨c, h, c.moves_refl⟩

theorem Onward.trans (h : Onward cursors cursors') (h' : Onward cursors' cursors'') :
    Onward cursors cursors'' := by
  intro i c hc
  obtain ⟨c', hc', hm⟩ := h i c hc
  obtain ⟨c'', hc'', hm'⟩ := h' i c' hc'
  exact ⟨c'', hc'', hm.trans hm'⟩

theorem Onward.back (h : Onward cursors cursors') (hc' : cursors'[i]? = some c')
    (hi : i < cursors.length) : ∃ c, cursors[i]? = some c ∧ c.Moves c' := by
  have hc := List.getElem?_eq_getElem hi
  obtain ⟨c'', hc'', hm⟩ := h i _ hc
  obtain rfl := Option.some.inj (hc''.symm.trans hc')
  exact ⟨_, hc, hm⟩

theorem onward_set (hc : cursors[i]? = some c) (hm : c.Moves c') :
    Onward cursors (cursors.set i c') := by
  intro j c₀ hj
  rw [List.getElem?_set, hj]
  split
  · next hij =>
    subst hij
    obtain rfl := Option.some.inj (hc.symm.trans hj)
    exact ⟨c', by simp [(List.getElem?_eq_some_iff.1 hj).1], hm⟩
  · exact ⟨c₀, rfl, c₀.moves_refl⟩

theorem step_set (hc : cursors[i]? = some c) {w : Window} (hw : c.window.Reaches w) :
    Step cursors (cursors.set i { c with window := w }) where
  onward := onward_set hc (moves_to hw)
  fresh h hk := by
    have hlt := (List.getElem?_eq_some_iff.1 h).1
    rw [List.length_set] at hlt
    omega

theorem step_spec (cursors : List Cursor) (i : Nat) (op : Operation) :
    Step cursors (step cursors i op) := by
  unfold step
  split
  · refine ⟨onward_refl cursors, fun h hk => ?_⟩
    exact absurd hk (Nat.not_le.2 (List.getElem?_eq_some_iff.1 h).1)
  next c hc =>
  obtain ⟨hok, herror⟩ := confined_iff.1 op.confined
  split
  · next w hr => exact step_set hc (hok _ _ _ hr)
  · next w hr => exact step_set hc (herror _ _ _ hr).1
  · next part w hr =>
    have hcut := Operation.cuts hr
    have hset := onward_set hc (moves_to hcut.reaches)
    have honward : Onward cursors
        (cursors.set i { c with window := w } ++ [⟨some i, part.offset, part⟩]) := by
      intro j c₀ hj
      obtain ⟨c', hc', hm⟩ := hset j c₀ hj
      refine ⟨c', ?_, hm⟩
      rw [List.getElem?_append_left (List.getElem?_eq_some_iff.1 hc').1, hc']
    refine ⟨honward, fun {k c'} h hk => ?_⟩
    rw [List.getElem?_append_right (by rwa [List.length_set]), List.length_set] at h
    have hlast : k - cursors.length = 0 := by
      have hlt := (List.getElem?_eq_some_iff.1 h).1
      rw [List.length_singleton] at hlt
      omega
    rw [hlast] at h
    obtain rfl := Option.some.inj h
    obtain ⟨p, hp, -⟩ := honward i c hc
    have hi := (List.getElem?_eq_some_iff.1 hc).1
    have hpassed : (cursors.set i { c with window := w } ++ [⟨some i, part.offset, part⟩])[i]? =
        some { c with window := w } := by
      rw [List.getElem?_append_left (by rwa [List.length_set]), List.getElem?_set_self hi]
    exact ⟨by omega, rfl, i, c, _, rfl, hc, hpassed, hcut⟩

/-! ## What a history leaves -/

/-- Every window lies in the message behind where it began, and in what its parent has passed. Of
the windows of one parent the later one begins where the earlier one has ended. -/
structure Placed (data : Octets) (cursors : List Cursor) : Prop where
  inMessage {i : Nat} {c : Cursor} (h : cursors[i]? = some c) :
    c.window.InMessage data ∧ c.start ≤ c.window.offset
  passed {i j : Nat} {c : Cursor} (h : cursors[j]? = some c) (hi : c.parent = some i) :
    ∃ p, cursors[i]? = some p ∧ p.start ≤ c.start ∧ c.window.stop ≤ p.window.offset
  apart {i j k : Nat} {c c' : Cursor} (hjk : j < k) (h : cursors[j]? = some c)
    (h' : cursors[k]? = some c') (hi : c.parent = some i) (hi' : c'.parent = some i) :
    c.window.stop ≤ c'.start

theorem placed_initial (data : Octets) : Placed data (initial data) := by
  have honly {i : Nat} {c : Cursor} (h : (initial data)[i]? = some c) :
      i = 0 ∧ c = ⟨none, 0, .whole data⟩ := by
    cases i with
    | zero => exact ⟨rfl, (Option.some.inj h).symm⟩
    | succ i => cases h
  refine ⟨fun h => ?_, fun h hi => ?_, fun hjk h h' => ?_⟩
  · obtain ⟨-, rfl⟩ := honly h
    exact ⟨Window.inMessage_whole data, Nat.le_refl 0⟩
  · obtain ⟨-, rfl⟩ := honly h
    cases hi
  · obtain ⟨rfl, -⟩ := honly h'
    cases hjk

theorem Placed.step (h : Placed data cursors) (hs : Step cursors cursors') :
    Placed data cursors' := by
  -- a cursor of the new list is an old one that went forward, or the fresh one behind all others
  refine ⟨fun {k c'} hc' => ?_, fun {i k c'} hc' hi => ?_,
    fun {i j k b' c'} hjk hb' hc' hi hi' => ?_⟩
  · by_cases hk : k < cursors.length
    · obtain ⟨c, hc, hm⟩ := hs.onward.back hc' hk
      obtain ⟨hmessage, hstart⟩ := h.inMessage hc
      exact ⟨hmessage.reaches hm.window, hm.start ▸ Nat.le_trans hstart hm.window.offset_le⟩
    · obtain ⟨-, hstart, i, p, p', -, hp, -, hcut⟩ := hs.fresh hc' (Nat.not_lt.1 hk)
      exact ⟨(h.inMessage hp).1.cuts hcut, Nat.le_of_eq hstart⟩
  · by_cases hk : k < cursors.length
    · obtain ⟨c, hc, hm⟩ := hs.onward.back hc' hk
      obtain ⟨p, hp, hstart, hstop⟩ := h.passed hc (hm.parent ▸ hi)
      obtain ⟨p', hp', hm'⟩ := hs.onward _ p hp
      refine ⟨p', hp', ?_, ?_⟩
      · rw [hm'.start, hm.start]
        exact hstart
      · rw [hm.window.stop_eq]
        exact Nat.le_trans hstop hm'.window.offset_le
    · obtain ⟨-, hstart, i', p, p', hparent, hp, hp', hcut⟩ := hs.fresh hc' (Nat.not_lt.1 hk)
      obtain rfl := Option.some.inj (hparent.symm.trans hi)
      obtain ⟨p'', hp'', hm⟩ := hs.onward _ p hp
      obtain rfl := Option.some.inj (hp''.symm.trans hp')
      refine ⟨p'', hp', ?_, Nat.le_of_eq hcut.stop_eq⟩
      rw [hm.start, hstart]
      exact Nat.le_trans (h.inMessage hp).2 hcut.offset_le
  · by_cases hk : k < cursors.length
    · obtain ⟨b, hb, hm⟩ := hs.onward.back hb' (Nat.lt_trans hjk hk)
      obtain ⟨c, hc, hm'⟩ := hs.onward.back hc' hk
      rw [hm.window.stop_eq, hm'.start]
      exact h.apart hjk hb hc (hm.parent ▸ hi) (hm'.parent ▸ hi')
    · obtain ⟨rfl, hstart, i', p, p', hparent, hp, -, hcut⟩ := hs.fresh hc' (Nat.not_lt.1 hk)
      obtain rfl := Option.some.inj (hparent.symm.trans hi')
      obtain ⟨b, hb, hm⟩ := hs.onward.back hb' hjk
      obtain ⟨p₀, hp₀, -, hstop⟩ := h.passed hb (hm.parent ▸ hi)
      obtain rfl := Option.some.inj (hp₀.symm.trans hp)
      rw [hm.window.stop_eq, hstart]
      exact Nat.le_trans hstop hcut.offset_le

theorem placed_run (h : Placed data cursors) (history : List (Nat × Operation)) :
    Placed data (run cursors history) := by
  induction history generalizing cursors with
  | nil => exact h
  | cons request history ih => exact ih (h.step (step_spec cursors request.1 request.2))

theorem onward_run (cursors : List Cursor) (history : List (Nat × Operation)) :
    Onward cursors (run cursors history) := by
  induction history generalizing cursors with
  | nil => exact onward_refl cursors
  | cons request history ih =>
    exact (step_spec cursors request.1 request.2).onward.trans (ih _)

/-- After any history, every window lies in the message, between where it began and its end, and
what is taken out of it are slices of the message. It was made of octets that its parent has passed.
A request moves it forward and keeps its end, and gives a window that lies in what has been passed;
one that fails does so at an offset of the message, and leaves it where it was unless it is of those
that may have moved. It never goes back, whatever comes later. The windows of one parent do not
meet. -/
theorem windows_of_history (data : Octets) (history : List (Nat × Operation)) :
    let cursors := run (initial data) history
    (∀ (i : Nat) (c : Cursor), cursors[i]? = some c →
      c.start ≤ c.window.offset ∧ c.window.offset ≤ c.window.stop ∧ c.window.InMessage data ∧
      c.window.SlicesInMessage data ∧
      (∀ j, c.parent = some j →
        ∃ p, cursors[j]? = some p ∧ p.start ≤ c.start ∧ c.window.stop ≤ p.window.offset) ∧
      (∀ op part w, Operation.reader op c.window = .ok part w →
        c.window.offset ≤ w.offset ∧ w.stop = c.window.stop ∧
        ∀ p, part = some p → c.window.offset ≤ p.offset ∧ p.stop = w.offset) ∧
      (∀ op e w, Operation.reader op c.window = .error e w →
        c.window.offset ≤ w.offset ∧ w.stop = c.window.stop ∧ e.offset ≤ data.length ∧
        (op.mayMove = false → w = c.window)) ∧
      ∀ later, ∃ c', (run cursors later)[i]? = some c' ∧ c'.parent = c.parent ∧
        c'.start = c.start ∧ c.window.offset ≤ c'.window.offset ∧
        c'.window.stop = c.window.stop) ∧
    ∀ (i j k : Nat) (b c : Cursor), i ≠ j → cursors[i]? = some b → cursors[j]? = some c →
      b.parent = some k → c.parent = some k →
        b.window.stop ≤ c.start ∨ c.window.stop ≤ b.start := by
  intro cursors
  have hplaced : Placed data cursors := placed_run (placed_initial data) history
  refine ⟨fun i c hc => ?_, fun i j k b c hij hb hc hk hk' => ?_⟩
  · obtain ⟨hmessage, hstart⟩ := hplaced.inMessage hc
    refine ⟨hstart, c.window.offset_le_stop, hmessage, hmessage.slices,
      fun j hj => hplaced.passed hc hj, fun op part w => Operation.ok_bounds,
      fun op e w h => ?_, fun later => ?_⟩
    · obtain ⟨hle, hstop, -, he, hstays⟩ := Operation.error_bounds h
      exact ⟨hle, hstop, Nat.le_trans he hmessage.stop_le, hstays⟩
    · obtain ⟨c', hc', hm⟩ := onward_run cursors later i c hc
      exact ⟨c', hc', hm.parent, hm.start, hm.window.offset_le, hm.window.stop_eq⟩
  · rcases Nat.lt_or_gt_of_ne hij with hlt | hgt
    · exact .inl (hplaced.apart hlt hb hc hk hk')
    · exact .inr (hplaced.apart hgt hc hb hk' hk)

/-- Two windows are taken out of a message. In the first an identifier is asked for where a number
stands, in the second a header whose content is not there: both fail and leave their windows. -/
theorem windows_of_history_siblings :
    let data : Octets := [0x30, 0x03, 0x02, 0x01, 0x05, 0x04, 0x01, 0x61]
    let cursors := run (initial data) [(0, .sequence), (0, .window 2), (1, .oid), (2, .header)]
    let first : Cursor := ⟨some 0, 2, ⟨2, [0x02, 0x01, 0x05]⟩⟩
    let second : Cursor := ⟨some 0, 5, ⟨5, [0x04, 0x01]⟩⟩
    cursors[1]? = some first ∧ cursors[2]? = some second ∧
    (first.window.stop ≤ second.start ∨ second.window.stop ≤ first.start) ∧
    (∃ e, Operation.oid.reader first.window = .error e first.window ∧ e.offset ≤ data.length) ∧
    (∃ p, cursors[0]? = some p ∧ second.window.stop ≤ p.window.offset) ∧
    second.window.octets = data.extract 5 7 := by
  intro data cursors first second
  have hfirst : cursors[1]? = some first := by decide +kernel
  have hsecond : cursors[2]? = some second := by decide +kernel
  obtain ⟨hall, hapart⟩ := windows_of_history data
    [(0, .sequence), (0, .window 2), (1, .oid), (2, .header)]
  obtain ⟨-, -, -, -, -, -, herror, -⟩ := hall 1 first hfirst
  obtain ⟨-, -, hmessage, -, hparent, -⟩ := hall 2 second hsecond
  obtain ⟨p, hp, -, hstop⟩ := hparent 0 rfl
  have hoid : Operation.oid.reader first.window =
      .error ⟨2, .unexpectedTag Tag.objectIdentifier Tag.integer⟩ first.window := rfl
  exact ⟨hfirst, hsecond, hapart 1 2 0 first second (by decide) hfirst hsecond rfl rfl,
    ⟨_, hoid, (herror .oid _ _ hoid).2.2.1⟩, ⟨p, hp, hstop⟩, hmessage.octets⟩

end Cursor

end Snmp

end NetWatch
