import NetWatch.Proofs.Ber.Recognition

/-!
# Windows stay in their message

A read moves its window forward and keeps its end, whether it succeeds or not, and what it refuses
stands in the window (`Confined`). A window that is taken out of another one is made of octets that
the other one passes at that moment (`Takes`). Most reads that fail have not moved at all (`Stays`).
These hold of the single reads, and of the readers that are put together from them.
-/

namespace NetWatch.Ber

/-! ## Windows of a message -/

namespace Window

variable {data d : Octets} {w w' w'' part : Window} {n : Nat}

def stop (w : Window) : Nat := w.offset + w.octets.length

/-- `w'` is what is left of `w` behind some octets. -/
def Reaches (w w' : Window) : Prop := ∃ d, w.Passes d w'

/-- `part` is made of the last octets that are passed on the way from `w` to `w'`. -/
def Cuts (w part w' : Window) : Prop :=
  ∃ front, part.offset = w.offset + front.length ∧ w.Passes (front ++ part.octets) w'

/-- A window shows the octets that stand in the message between its bounds. -/
structure InMessage (data : Octets) (w : Window) : Prop where
  stop_le : w.stop ≤ data.length
  octets : w.octets = data.extract w.offset w.stop

theorem offset_le_stop (w : Window) : w.offset ≤ w.stop := Nat.le_add_right _ _

theorem reaches_refl (w : Window) : w.Reaches w := ⟨[], passes_nil_iff.2 rfl⟩

theorem Reaches.trans (h : w.Reaches w') (h' : w'.Reaches w'') : w.Reaches w'' := by
  obtain ⟨d, hd⟩ := h
  obtain ⟨d', hd'⟩ := h'
  exact ⟨d ++ d', passes_append_iff.2 ⟨w', hd, hd'⟩⟩

theorem Reaches.offset_le (h : w.Reaches w') : w.offset ≤ w'.offset := by
  obtain ⟨d, hd⟩ := h
  rw [hd.offset]
  exact Nat.le_add_right _ _

theorem Reaches.stop_eq (h : w.Reaches w') : w'.stop = w.stop := by
  obtain ⟨d, hd⟩ := h
  rw [stop, stop, hd.offset, hd.octets, List.length_append, Nat.add_assoc]

theorem Cuts.reaches (h : w.Cuts part w') : w.Reaches w' := by
  obtain ⟨front, -, hp⟩ := h
  exact ⟨_, hp⟩

theorem Cuts.offset_le (h : w.Cuts part w') : w.offset ≤ part.offset := by
  obtain ⟨front, ho, -⟩ := h
  rw [ho]
  exact Nat.le_add_right _ _

theorem Cuts.stop_eq (h : w.Cuts part w') : part.stop = w'.offset := by
  obtain ⟨front, ho, hp⟩ := h
  rw [stop, ho, hp.offset, List.length_append, Nat.add_assoc]

theorem Reaches.cuts (h : w.Reaches w') (h' : w'.Cuts part w'') : w.Cuts part w'' := by
  obtain ⟨d, hd⟩ := h
  obtain ⟨front, ho, hp⟩ := h'
  refine ⟨d ++ front, ?_, ?_⟩
  · rw [ho, hd.offset, List.length_append, Nat.add_assoc]
  · rw [List.append_assoc]
    exact passes_append_iff.2 ⟨w', hd, hp⟩

theorem Reaches.cuts_rest (h : w.Reaches w') : w.Cuts w' ⟨w'.stop, []⟩ := by
  obtain ⟨d, hd⟩ := h
  refine ⟨d, hd.offset, ?_, ?_⟩
  · rw [List.append_nil]
    exact hd.octets
  · rw [stop, hd.offset, List.length_append, Nat.add_assoc]

theorem cuts_of_split? (h : w.split? n = some (d, w')) : w.Cuts ⟨w.offset, d⟩ w' :=
  ⟨[], rfl, (split?_eq_some_iff.1 h).2⟩

/-- A window is in a message where it is cut out of the whole of it. -/
theorem inMessage_iff : InMessage data w ↔ ∃ w', (whole data).Cuts w w' := by
  constructor
  · rintro ⟨hle, hoctets⟩
    have hlen : w.offset ≤ data.length := Nat.le_trans w.offset_le_stop hle
    refine ⟨startingAt data w.stop, data.take w.offset, ?_, ?_, ?_⟩
    · rw [whole, Nat.zero_add, List.length_take_of_le hlen]
    · have hback : data.drop w.offset = w.octets ++ data.drop w.stop := by
        conv_lhs => rw [← List.take_append_drop (w.stop - w.offset) (data.drop w.offset)]
        rw [List.drop_drop, Nat.add_sub_cancel' w.offset_le_stop, hoctets]
      rw [whole, startingAt, List.append_assoc, ← hback, List.take_append_drop]
    · rw [startingAt, whole, Nat.zero_add, List.length_append, List.length_take_of_le hlen]
      rfl
  · rintro ⟨w', front, ho, hp⟩
    have hdata : data = front ++ w.octets ++ w'.octets := hp.octets
    have ho : w.offset = front.length := by rw [ho, whole, Nat.zero_add]
    constructor
    · rw [stop, ho, hdata, List.length_append, List.length_append]
      exact Nat.le_add_right _ _
    · rw [stop, List.extract, ho, hdata, List.append_assoc, List.drop_left, Nat.add_sub_cancel_left,
        List.take_left]

theorem inMessage_whole (data : Octets) : InMessage data (whole data) :=
  inMessage_iff.2 ⟨⟨data.length, []⟩, [], rfl, by simp [whole], by simp [whole]⟩

theorem InMessage.cuts (h : InMessage data w) (hc : w.Cuts part w') : InMessage data part := by
  obtain ⟨w₀, front, ho, hp⟩ := inMessage_iff.1 h
  obtain ⟨front', ho', hp'⟩ := hc
  refine inMessage_iff.2 ⟨⟨part.stop, w'.octets ++ w₀.octets⟩, front ++ front', ?_, ?_, ?_⟩
  · rw [ho', ho, List.length_append, Nat.add_assoc]
  · rw [hp.octets, hp'.octets]
    simp only [List.append_assoc]
  · rw [stop, ho', ho, List.length_append, List.length_append, Nat.add_assoc, Nat.add_assoc,
      Nat.add_assoc]

theorem InMessage.reaches (h : InMessage data w) (hr : w.Reaches w') : InMessage data w' :=
  h.cuts hr.cuts_rest

end Window

/-! ## What is found and where it fails -/

open Window

theorem Length.read_error {w : Window} {e : DecodeError} (h : Length.read w = .error e) :
    w.offset ≤ e.offset ∧ e.offset ≤ w.stop := by
  obtain ⟨o, data⟩ := w
  cases data with
  | nil =>
    cases h
    exact ⟨Nat.le_refl _, Nat.le_refl _⟩
  | cons first rest =>
    have hat : o + 1 ≤ stop ⟨o, first :: rest⟩ := by simp only [stop, List.length_cons]; omega
    have hfirst : o ≤ o ∧ o ≤ stop ⟨o, first :: rest⟩ := ⟨Nat.le_refl o, Nat.le_of_succ_le hat⟩
    simp only [read] at h
    split at h
    · cases h
    split at h
    · cases h
      exact hfirst
    split at h
    · cases h
      exact hfirst
    split at h
    · cases h
      exact ⟨Nat.le_succ o, hat⟩
    · cases h

namespace Window

variable {w : Window}

theorem header_extent {h : Header} (hh : w.header = .ok h) :
    w.Reaches h.body ∧ w.offset < h.body.offset ∧ h.body.offset + h.length ≤ w.stop := by
  obtain ⟨hle, l, -, hp⟩ := header_eq_ok_iff.1 hh
  have hr : w.Reaches h.body := ⟨_, hp⟩
  refine ⟨hr, ?_, ?_⟩
  · rw [hp.offset, List.length_cons]
    omega
  · rw [← hr.stop_eq]
    exact Nat.add_le_add_left hle _

theorem header_error {e : DecodeError} (h : w.header = .error e) :
    w.offset ≤ e.offset ∧ e.offset ≤ w.stop := by
  obtain ⟨o, data⟩ := w
  cases data with
  | nil =>
    cases h
    exact ⟨Nat.le_refl _, Nat.le_refl _⟩
  | cons tag rest =>
    have hr : Reaches ⟨o, tag :: rest⟩ ⟨o + 1, rest⟩ := ⟨[tag], rfl, rfl⟩
    simp only [header, bind, Except.bind] at h
    split at h
    · next e' hread =>
      cases h
      obtain ⟨hle, hstop⟩ := Length.read_error hread
      rw [hr.stop_eq] at hstop
      exact ⟨Nat.le_trans hr.offset_le hle, hstop⟩
    next p hp =>
    split at h
    · cases h
      obtain ⟨l, -, hl⟩ := Length.read_eq_ok_iff.1 hp
      have hr' := hr.trans ⟨l, hl⟩
      refine ⟨hr'.offset_le, ?_⟩
      rw [← hr'.stop_eq]
      exact offset_le_stop _
    · cases h

/-- The content of an element is passed with it, and begins behind the tag. -/
theorem element_cuts {e : Element} (h : w.element = .ok e) :
    e.start = w.offset ∧ w.offset < e.content.offset ∧ w.Cuts e.content e.after := by
  obtain ⟨hstart, l, -, ho, hp⟩ := element_eq_ok_iff.1 h
  refine ⟨hstart, by omega, e.tag :: l, ?_, hp⟩
  rw [ho, List.length_cons]
  omega

theorem element_error {e : DecodeError} (h : w.element = .error e) :
    w.offset ≤ e.offset ∧ e.offset ≤ w.stop := by
  simp only [element, bind, Except.bind] at h
  split at h
  · next e' hh =>
    cases h
    exact header_error hh
  next hd hh =>
  obtain ⟨hr, -, hle⟩ := header_extent hh
  split at h
  · cases h
    exact ⟨hr.offset_le, Nat.le_trans (Nat.le_add_right _ _) hle⟩
  · cases h

end Window

/-- What is wrong with an element is found at its tag or at its content. -/
def Element.Blames (item : Element → Except DecodeError α) : Prop :=
  ∀ e problem, item e = .error problem →
    problem.offset = e.start ∨ problem.offset = e.content.offset

namespace Element

theorem blames_integer32 : Blames integer32 := by
  intro e problem h
  simp only [integer32] at h
  split at h
  · cases h; exact .inr rfl
  split at h
  · cases h; exact .inr rfl
  · cases h

theorem blames_unsigned32 : Blames unsigned32 := by
  intro e problem h
  simp only [unsigned32] at h
  split at h
  · cases h; exact .inr rfl
  split at h
  · cases h
  · cases h; exact .inr rfl

theorem blames_unsigned64 : Blames unsigned64 := by
  intro e problem h
  simp only [unsigned64] at h
  split at h
  · cases h; exact .inr rfl
  split at h
  · cases h
  · cases h; exact .inr rfl

theorem blames_string : Blames string := by
  intro e problem h
  unfold string at h
  split at h
  · cases h; exact .inl rfl
  · cases h

theorem blames_null : Blames null := by
  intro e problem h
  unfold null at h
  split at h
  · cases h
  · cases h; exact .inr rfl

theorem blames_oid : Blames oid := by
  intro e problem h
  unfold oid at h
  split at h
  · cases h
  · cases h; exact .inr rfl

theorem Blames.tagged {item : Element → Except DecodeError α} (h : Blames item) (expected : Tag) :
    Blames (fun e => do
      let value ← item e
      if e.tag = expected then return value
      else .error ⟨e.start, .unexpectedTag expected e.tag⟩) := by
  intro e problem hp
  simp only [bind, Except.bind] at hp
  split at hp
  · next e' hitem =>
    cases hp
    exact h e _ hitem
  split at hp
  · cases hp
  · cases hp; exact .inl rfl

end Element

namespace Reader

variable {r : Reader α} {f : α → Reader β} {start : Nat}

/-! ## Joining -/

/-- Standing at `start` or behind it, a read moves forward and keeps the end of the window, and
fails between `start` and this end. -/
structure ConfinedFrom (start : Nat) (r : Reader α) : Prop where
  ok {w w' : Window} {a : α} (hle : start ≤ w.offset) (h : r w = .ok a w') : w.Reaches w'
  error {w w' : Window} {e : DecodeError} (hle : start ≤ w.offset) (h : r w = .error e w') :
    w.Reaches w' ∧ start ≤ e.offset ∧ e.offset ≤ w.stop

def Confined (r : Reader α) : Prop := ∀ start, r.ConfinedFrom start

/-- A read that fails has not moved. -/
def Stays (r : Reader α) : Prop :=
  ∀ {w w' : Window} {e : DecodeError}, r w = .error e w' → w' = w

/-- The window that is read is made of octets that are passed. -/
def Takes (r : Reader Window) : Prop :=
  ∀ {w part w' : Window}, r w = .ok part w' → w.Cuts part w'

theorem bind_eq_error_iff {w w'' : Window} {e : DecodeError} : (r >>= f) w = .error e w'' ↔
    r w = .error e w'' ∨ ∃ a w', r w = .ok a w' ∧ f a w' = .error e w'' := by
  change EStateM.bind r f w = _ ↔ _
  unfold EStateM.bind
  cases h : r w with
  | ok a w' => simp
  | error e w' => simp

theorem map_eq_error_iff {g : α → β} {w w' : Window} {e : DecodeError} :
    (g <$> r) w = .error e w' ↔ r w = .error e w' := by
  change EStateM.map g r w = _ ↔ _
  unfold EStateM.map
  cases h : r w with
  | ok a w' => simp
  | error e w' => simp

/-- Where the read does not look back, it is confined to what is left of its window. -/
theorem confined_iff : r.Confined ↔
    (∀ w a w', r w = .ok a w' → w.Reaches w') ∧
    ∀ w e w', r w = .error e w' → w.Reaches w' ∧ w.offset ≤ e.offset ∧ e.offset ≤ w.stop := by
  constructor
  · intro h
    exact ⟨fun w _ _ => (h w.offset).ok (Nat.le_refl _),
      fun w _ _ => (h w.offset).error (Nat.le_refl _)⟩
  · rintro ⟨hok, herror⟩ start
    refine ⟨fun _ => hok _ _ _, fun hle h => ?_⟩
    obtain ⟨hr, hle', hstop⟩ := herror _ _ _ h
    exact ⟨hr, Nat.le_trans hle hle', hstop⟩

theorem confinedFrom_pure (a : α) : ConfinedFrom start (pure a : Reader α) where
  ok {w w' b} _ h := by
    cases h
    exact reaches_refl w
  error _ h := by cases h

/-- A failure may be put where the window stood before. -/
theorem confinedFrom_fail (start : Nat) (problem : DecodeProblem) :
    ConfinedFrom start (fail start problem : Reader α) where
  ok _ h := by cases h
  error {w w' e} hle h := by
    cases h
    exact ⟨reaches_refl w, Nat.le_refl _, Nat.le_trans hle w.offset_le_stop⟩

theorem ConfinedFrom.bind (hr : r.ConfinedFrom start) (hf : ∀ a, (f a).ConfinedFrom start) :
    (r >>= f).ConfinedFrom start where
  ok hle h := by
    obtain ⟨a, w', ha, hb⟩ := bind_eq_ok_iff.1 h
    have hreach := hr.ok hle ha
    exact hreach.trans ((hf a).ok (Nat.le_trans hle hreach.offset_le) hb)
  error hle h := by
    rcases bind_eq_error_iff.1 h with h | ⟨a, w', ha, hb⟩
    · exact hr.error hle h
    · have hreach := hr.ok hle ha
      obtain ⟨hreach', hstart, hstop⟩ := (hf a).error (Nat.le_trans hle hreach.offset_le) hb
      exact ⟨hreach.trans hreach', hstart, hreach.stop_eq ▸ hstop⟩

theorem ConfinedFrom.map (hr : r.ConfinedFrom start) (g : α → β) :
    (g <$> r).ConfinedFrom start where
  ok hle h := by
    obtain ⟨a, ha, -⟩ := map_eq_ok_iff.1 h
    exact hr.ok hle ha
  error hle h := hr.error hle (map_eq_error_iff.1 h)

theorem ConfinedFrom.ite {c : Prop} [Decidable c] {r' : Reader α} (h : r.ConfinedFrom start)
    (h' : r'.ConfinedFrom start) : (if c then r else r').ConfinedFrom start := by
  split
  · exact h
  · exact h'

theorem Confined.bind (hr : r.Confined) (hf : ∀ a, (f a).Confined) : (r >>= f).Confined :=
  fun start => (hr start).bind fun a => hf a start

theorem Confined.map (hr : r.Confined) (g : α → β) : (g <$> r).Confined :=
  fun start => (hr start).map g

/-- The offset that is asked for is one that the rest may look back to. -/
theorem confined_offset_bind {f : Nat → Reader β} (hf : ∀ start, (f start).ConfinedFrom start) :
    (Reader.offset >>= f).Confined :=
  confined_iff.2 ⟨fun w _ _ => (hf w.offset).ok (Nat.le_refl _),
    fun w _ _ => (hf w.offset).error (Nat.le_refl _)⟩

theorem confinedFrom_peekTag?_bind {f : Option Tag → Reader β}
    (hf : ∀ tag, (f tag).ConfinedFrom start) : (peekTag? >>= f).ConfinedFrom start :=
  ⟨fun hle h => (hf _).ok hle h, fun hle h => (hf _).error hle h⟩

/-- What is read inside a window that has just been taken lies in what has been passed. -/
theorem confined_within {take : Reader Window} {body : Reader α} (htake : take.Confined)
    (hpart : take.Takes) (hbody : body.Confined) :
    (take >>= fun inner => within inner body).Confined := by
  refine confined_iff.2 ⟨fun w a w' h => ?_, fun w e w' h => ?_⟩
  · obtain ⟨inner, w₁, hinner, hb⟩ := bind_eq_ok_iff.1 h
    obtain ⟨-, rfl⟩ : _ ∧ w₁ = w' := by
      unfold within at hb
      split at hb <;> cases hb
      exact ⟨trivial, rfl⟩
    exact (hpart hinner).reaches
  · rcases bind_eq_error_iff.1 h with h | ⟨inner, w₁, hinner, hb⟩
    · exact (confined_iff.1 htake).2 w e w' h
    have hcut := hpart hinner
    unfold within at hb
    split at hb
    · cases hb
    next e' w₂ he =>
    cases hb
    obtain ⟨-, hle, hstop⟩ := (confined_iff.1 hbody).2 inner _ w₂ he
    have hend := w'.offset_le_stop
    rw [hcut.reaches.stop_eq, ← hcut.stop_eq] at hend
    exact ⟨hcut.reaches, Nat.le_trans hcut.offset_le hle, Nat.le_trans hstop hend⟩

theorem confined_repeatedly {item : Reader α} (h : item.Confined) (fuel : Nat) :
    (repeatedly item fuel).Confined := by
  induction fuel with
  | zero => exact fun _ => confinedFrom_pure []
  | succ fuel ih =>
    have hmore : Confined (do
        let a ← item
        let rest ← repeatedly item fuel
        return a :: rest) :=
      h.bind fun _ => ih.bind fun _ _ => confinedFrom_pure _
    obtain ⟨hok, herror⟩ := confined_iff.1 hmore
    refine confined_iff.2 ⟨fun w as w' => ?_, fun w e w' => ?_⟩
    · rw [repeatedly_succ]
      split
      · intro hr
        cases hr
        exact reaches_refl w
      · exact hok w as w'
    · rw [repeatedly_succ]
      split
      · exact nofun
      · exact herror w e w'

theorem confined_untilEnd {item : Reader α} (h : item.Confined) : (untilEnd item).Confined :=
  fun start => ⟨fun hle hr => (confined_repeatedly h _ start).ok hle hr,
    fun hle hr => (confined_repeatedly h _ start).error hle hr⟩

/-! ## Single reads -/

/-- A read that does not move when it fails, and fails in its window. -/
theorem confined_of_stays (hok : ∀ w a w', r w = .ok a w' → w.Reaches w') (hs : r.Stays)
    (herror : ∀ w e w', r w = .error e w' → w.offset ≤ e.offset ∧ e.offset ≤ w.stop) :
    r.Confined := by
  refine confined_iff.2 ⟨hok, fun w e w' h => ⟨?_, herror w e w' h⟩⟩
  rw [hs h]
  exact reaches_refl w

theorem element_eq_ok_iff {item : Element → Except DecodeError α} {w w' : Window} {a : α} :
    element item w = .ok a w' ↔ ∃ e, w.element = .ok e ∧ item e = .ok a ∧ e.after = w' := by
  unfold element
  cases w.element with
  | error e => simp
  | ok e => cases hitem : item e <;> simp [hitem]

theorem element_eq_error_iff {item : Element → Except DecodeError α} {w w' : Window}
    {problem : DecodeError} : element item w = .error problem w' ↔ w' = w ∧
      (w.element = .error problem ∨ ∃ e, w.element = .ok e ∧ item e = .error problem) := by
  unfold element
  cases w.element with
  | error e => simp [and_comm, eq_comm]
  | ok e => cases hitem : item e <;> simp [hitem, and_comm, eq_comm]

theorem stays_tagged (tag : Tag) (item : Element → Except DecodeError α) :
    (tagged tag item).Stays :=
  fun h => (element_eq_error_iff.1 h).1

theorem confined_tagged {item : Element → Except DecodeError α} (h : Element.Blames item)
    (tag : Tag) : (tagged tag item).Confined := by
  refine confined_of_stays (fun w a w' hr => ?_) (stays_tagged tag item) fun w problem w' hr => ?_
  · obtain ⟨e, he, -, rfl⟩ := element_eq_ok_iff.1 hr
    exact (element_cuts he).2.2.reaches
  · obtain ⟨-, herror | ⟨e, he, hitem⟩⟩ := element_eq_error_iff.1 hr
    · exact element_error herror
    obtain ⟨hstart, hlt, hcut⟩ := element_cuts he
    have hle := e.content.offset_le_stop
    have hend := e.after.offset_le_stop
    rw [hcut.stop_eq] at hle
    rw [hcut.reaches.stop_eq] at hend
    have hoffset := h.tagged tag e problem hitem
    omega

theorem stays_header : header.Stays := by
  intro w w' e h
  unfold header at h
  split at h <;> cases h
  rfl

theorem confined_header : header.Confined := by
  refine confined_of_stays (fun w a w' h => ?_) stays_header fun w e w' h => ?_
  · unfold header at h
    split at h
    · cases h
    next hd hh =>
    cases h
    exact (header_extent hh).1
  · unfold header at h
    split at h
    · next e' hh =>
      cases h
      exact header_error hh
    · cases h

theorem bytes_cuts {n : Nat} {w w' : Window} {d : Octets} (h : bytes n w = .ok d w') :
    d.length = n ∧ w.Cuts ⟨w.offset, d⟩ w' := by
  unfold bytes at h
  split at h
  · cases h
  next hs =>
  cases h
  exact ⟨(split?_eq_some_iff.1 hs).1, cuts_of_split? hs⟩

theorem takes_window (n : Nat) : (window n).Takes := by
  intro w part w' h
  unfold window at h
  split at h
  · cases h
  next hs =>
  cases h
  exact cuts_of_split? hs

theorem stays_bytes (n : Nat) : (bytes n).Stays := by
  intro w w' e h
  unfold bytes at h
  split at h <;> cases h
  rfl

theorem stays_window (n : Nat) : (window n).Stays := by
  intro w w' e h
  unfold window at h
  split at h <;> cases h
  rfl

theorem stays_expectEnd : expectEnd.Stays := by
  intro w w' e h
  unfold expectEnd at h
  split at h <;> cases h
  rfl

theorem confined_bytes (n : Nat) : (bytes n).Confined := by
  refine confined_of_stays (fun w d w' h => (bytes_cuts h).2.reaches) (stays_bytes n)
    fun w e w' h => ?_
  unfold bytes at h
  split at h <;> cases h
  exact ⟨Nat.le_refl _, w.offset_le_stop⟩

theorem confined_window (n : Nat) : (window n).Confined := by
  refine confined_of_stays (fun w d w' h => (takes_window n h).reaches) (stays_window n)
    fun w e w' h => ?_
  unfold window at h
  split at h <;> cases h
  exact ⟨Nat.le_refl _, w.offset_le_stop⟩

theorem confined_expectEnd : expectEnd.Confined := by
  refine confined_of_stays (fun w _ w' h => ?_) stays_expectEnd fun w e w' h => ?_
  · unfold expectEnd at h
    split at h <;> cases h
    exact reaches_refl w
  · unfold expectEnd at h
    split at h <;> cases h
    exact ⟨Nat.le_refl _, w.offset_le_stop⟩

theorem confined_integerTagged (tag : Tag) : (integerTagged tag).Confined :=
  confined_tagged Element.blames_integer32 tag

theorem confined_integer : integer.Confined := confined_integerTagged _

theorem confined_unsigned32 (tag : Tag) : (unsigned32 tag).Confined :=
  confined_tagged Element.blames_unsigned32 tag

theorem confined_unsigned64 (tag : Tag) : (unsigned64 tag).Confined :=
  confined_tagged Element.blames_unsigned64 tag

theorem confined_string (tag : Tag) : (string tag).Confined :=
  confined_tagged Element.blames_string tag

theorem confined_empty (tag : Tag) : (empty tag).Confined := confined_tagged Element.blames_null tag

theorem confined_oid : oid.Confined := confined_tagged Element.blames_oid _

/-- A wrong length is reported where the element began. -/
theorem confined_ipAddress : ipAddress.Confined := by
  refine confined_offset_bind fun start => (confined_string _ start).bind fun data => ?_
  split
  · exact confinedFrom_pure _
  · exact confinedFrom_fail start _

theorem confined_constructed (tag : Tag) : (constructed tag).Confined :=
  confined_offset_bind fun start => (confined_header start).bind fun (_, length) =>
    (confined_window length start).ite (confinedFrom_fail start _)

theorem takes_constructed (tag : Tag) : (constructed tag).Takes := by
  intro w part w' h
  change (header >>= fun p => if p.1 = tag then window p.2 else fail w.offset _) w = _ at h
  obtain ⟨p, w₁, hh, hw⟩ := bind_eq_ok_iff.1 h
  rcases ite_eq_ok_iff.1 hw with ⟨-, hw⟩ | ⟨-, ⟨⟩⟩
  exact ((confined_iff.1 confined_header).1 w p w₁ hh).cuts (takes_window p.2 hw)

end Reader

/-! ## Slices -/

structure Window.SlicesInMessage (data : Octets) (w : Window) : Prop where
  /-- Every window that is cut out of this one, what is left of it at any time included. -/
  part {part after : Window} (hc : w.Cuts part after) : part.stop ≤ w.stop ∧ part.InMessage data
  /-- Every slice is taken in this way, the digits of a length included. -/
  split {part after after' : Window} {n : Nat} {d : Octets} (hc : w.Cuts part after)
    (h : part.split? n = some (d, after')) :
    part.offset + n ≤ part.stop ∧ d = data.extract part.offset (part.offset + n)
  header {h : Header} (hh : w.header = .ok h) :
    w.offset < h.body.offset ∧ h.body.offset + h.length ≤ w.stop
  content {e : Element} (he : w.element = .ok e) :
    w.offset < e.content.offset ∧ e.content.stop = e.after.offset ∧ e.after.offset ≤ w.stop ∧
      e.content.octets = data.extract e.content.offset e.after.offset
  bytes {n : Nat} {d : Octets} {w' : Window} (h : Reader.bytes n w = .ok d w') :
    w'.offset = w.offset + n ∧ w'.offset ≤ w.stop ∧ d = data.extract w.offset w'.offset
  string {tag : Tag} {d : Octets} {w' : Window} (h : Reader.string tag w = .ok d w') :
    w.offset + d.length < w'.offset ∧ w'.offset ≤ w.stop ∧
      d = data.extract (w'.offset - d.length) w'.offset

theorem Window.InMessage.cuts_extract {data : Octets} {w part w' : Window} (h : InMessage data w)
    (hc : w.Cuts part w') :
    w'.offset ≤ w.stop ∧ part.octets = data.extract part.offset w'.offset := by
  refine ⟨?_, ?_⟩
  · rw [← hc.reaches.stop_eq]
    exact w'.offset_le_stop
  · rw [← hc.stop_eq]
    exact (h.cuts hc).octets

theorem Reader.string_eq_ok {tag : Tag} {d : Octets} {w w' : Window}
    (h : Reader.string tag w = .ok d w') :
    ∃ e, w.element = .ok e ∧ e.content.octets = d ∧ e.after = w' := by
  obtain ⟨e, he, hitem, hafter⟩ := Reader.element_eq_ok_iff.1 h
  refine ⟨e, he, ?_, hafter⟩
  simp only [Element.string, bind, Except.bind] at hitem
  split at hitem
  · cases hitem
  next value hvalue =>
  split at hvalue
  · cases hvalue
  split at hitem
  · cases hvalue
    cases hitem
    rfl
  · cases hitem

theorem Window.InMessage.slices {data : Octets} {w : Window} (h : InMessage data w) :
    w.SlicesInMessage data where
  part hc := by
    refine ⟨?_, h.cuts hc⟩
    rw [hc.stop_eq]
    exact (h.cuts_extract hc).1
  split {part after after' n d} hc hs := by
    have hcut := cuts_of_split? hs
    have hstop : part.offset + n = after'.offset := by
      rw [← hcut.stop_eq, stop, (split?_eq_some_iff.1 hs).1]
    rw [hstop]
    exact (h.cuts hc).cuts_extract hcut
  header hh := (header_extent hh).2
  content he := by
    obtain ⟨-, hlt, hcut⟩ := element_cuts he
    exact ⟨hlt, hcut.stop_eq, h.cuts_extract hcut⟩
  bytes {n d w'} hb := by
    obtain ⟨rfl, hcut⟩ := Reader.bytes_cuts hb
    exact ⟨hcut.stop_eq.symm, h.cuts_extract hcut⟩
  string {tag d w'} hs := by
    obtain ⟨e, he, rfl, rfl⟩ := Reader.string_eq_ok hs
    obtain ⟨-, hlt, hcut⟩ := element_cuts he
    obtain ⟨hle, hoctets⟩ := h.cuts_extract hcut
    have hstop : e.content.offset + e.content.octets.length = e.after.offset := hcut.stop_eq
    refine ⟨by omega, hle, ?_⟩
    rw [← Nat.eq_sub_of_add_eq hstop]
    exact hoctets

end NetWatch.Ber
