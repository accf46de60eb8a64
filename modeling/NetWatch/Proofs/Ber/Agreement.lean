import NetWatch.Proofs.Ber.Recognition

/-!
# Reads at an offset and readers

A value can be read at an offset of a buffer or by a reader that stands there. `Agrees` says that a
reader does what was found at the offset, failures included. A typed read looks at the content
before it looks at the tag, so it agrees where its own tag stands (`agrees_tagged`); elsewhere the
two may fail in different ways.
-/

namespace NetWatch.Ber

variable {data : Octets} {offset next : Nat} {tag : Tag} {item : Element → Except DecodeError α}

/-! ## Windows of a buffer -/

theorem Window.head?_startingAt (data : Octets) (offset : Nat) :
    (startingAt data offset).octets.head? = data[offset]? :=
  List.head?_drop

theorem Window.Passes.eq_startingAt {d : Octets} {w : Window}
    (h : (startingAt data offset).Passes d w) : w = startingAt data w.offset := by
  have hoctets : data.drop offset = d ++ w.octets := h.octets
  rw [startingAt, h.offset]
  simp only [startingAt]
  rw [← List.drop_drop, hoctets, List.drop_left]
  exact congrArg (Window.mk · w.octets) h.offset

theorem Window.element_startingAt {e : Element} (h : (startingAt data offset).element = .ok e) :
    data[offset]? = some e.tag ∧ e.start = offset ∧
      e.after = startingAt data e.after.offset := by
  obtain ⟨hstart, l, -, -, hp⟩ := element_eq_ok_iff.1 h
  refine ⟨?_, hstart, hp.eq_startingAt⟩
  rw [← head?_startingAt]
  exact hp.head?_eq rfl

/-- Skipping the front of a message leads to any place in it. -/
theorem Reader.bytes_whole (h : offset ≤ data.length) :
    Reader.bytes offset (.whole data) = .ok (data.take offset) (.startingAt data offset) := by
  have hs : (Window.whole data).split? offset =
      some (data.take offset, .startingAt data offset) := by
    refine Window.split?_eq_some_iff.2 ⟨List.length_take_of_le h, ?_, ?_⟩
    · exact (List.take_append_drop offset data).symm
    · simp [Window.startingAt, Window.whole, h]
  simp only [bytes, hs]

/-! ## What was found at an offset -/

theorem parseAt_error {e : DecodeError} (he : (Window.startingAt data offset).element = .error e)
    (item : Element → Except DecodeError α) : parseAt item data offset = .error e := by
  simp only [parseAt, he]
  rfl

theorem parseAt_ok {e : Element} (he : (Window.startingAt data offset).element = .ok e)
    (item : Element → Except DecodeError α) :
    parseAt item data offset = (item e).map fun a => ⟨e.after.offset, e.tag, a⟩ := by
  cases hitem : item e <;> simp only [parseAt, he, hitem, bind, Except.bind] <;> rfl

theorem parseAt_map (f : α → β) (item : Element → Except DecodeError α) (data : Octets)
    (offset : Nat) : parseAt (fun e => f <$> item e) data offset =
      (parseAt item data offset).map fun p => ⟨p.next, p.tag, f p.value⟩ := by
  cases he : (Window.startingAt data offset).element with
  | error e => rw [parseAt_error he, parseAt_error he, Except.map]
  | ok e =>
    rw [parseAt_ok he, parseAt_ok he]
    cases item e <;> rfl

namespace Reader

/-- The reader does from `offset` on what was found there: it takes the value and stops behind it, or
fails with the same error, wherever that leaves it. -/
def Agrees (r : Reader α) (data : Octets) (offset : Nat) : Except DecodeError (Nat × α) → Prop
  | .ok (next, a) => r (.startingAt data offset) = .ok a (.startingAt data next)
  | .error e => ∃ w, r (.startingAt data offset) = .error e w

theorem Agrees.congr {r r' : Reader α} {found : Except DecodeError (Nat × α)}
    (hr : r (.startingAt data offset) = r' (.startingAt data offset))
    (h : r'.Agrees data offset found) : r.Agrees data offset found := by
  cases found <;> simpa only [Agrees, hr] using h

theorem Agrees.eq_ok_iff {r : Reader α} {found : Except DecodeError (Nat × α)}
    (h : r.Agrees data offset found) {a : α} {w : Window} :
    r (.startingAt data offset) = .ok a w ↔
      ∃ next, found = .ok (next, a) ∧ w = .startingAt data next := by
  cases found with
  | error e =>
    obtain ⟨w', hr⟩ := h
    rw [hr]
    exact ⟨nofun, nofun⟩
  | ok p =>
    rw [show r (.startingAt data offset) = .ok p.2 (.startingAt data p.1) from h]
    constructor
    · rintro ⟨⟩
      exact ⟨p.1, rfl, rfl⟩
    · rintro ⟨_, ⟨⟩, rfl⟩
      rfl

theorem Agrees.found_iff {r : Reader α} {found : Except DecodeError (Nat × α)}
    (h : r.Agrees data offset found) {a : α} :
    found = .ok (next, a) ↔ r (.startingAt data offset) = .ok a (.startingAt data next) := by
  rw [h.eq_ok_iff]
  constructor
  · exact fun hfound => ⟨next, hfound, rfl⟩
  · rintro ⟨next', hfound, hnext⟩
    rw [hfound, show next = next' from congrArg Window.offset hnext]

theorem map_tagged (f : α → β) (tag : Tag) (item : Element → Except DecodeError α) :
    f <$> tagged tag item = tagged tag fun e => f <$> item e := by
  funext w
  change EStateM.map f (tagged tag item) w = _
  simp only [EStateM.map, tagged, element]
  cases w.element with
  | error _ => rfl
  | ok e =>
    cases hitem : item e with
    | error _ => simp [hitem, bind, Except.bind, Functor.map, Except.map]
    | ok a => by_cases htag : e.tag = tag <;>
        simp [hitem, htag, bind, Except.bind, Functor.map, Except.map, pure, Except.pure]

/-- Where the tag is the right one, only the element and its content matter. -/
theorem agrees_tagged (htag : data[offset]? = some tag) (item : Element → Except DecodeError α) :
    (tagged tag item).Agrees data offset
      ((parseAt item data offset).map fun p => (p.next, p.value)) := by
  cases he : (Window.startingAt data offset).element with
  | error e =>
    rw [parseAt_error he]
    exact ⟨.startingAt data offset, by simp only [tagged, element, he]⟩
  | ok e =>
    rw [parseAt_ok he]
    obtain ⟨htag', -, hafter⟩ := Window.element_startingAt he
    obtain rfl := Option.some.inj (htag'.symm.trans htag)
    cases hitem : item e with
    | error e' =>
      exact ⟨.startingAt data offset, by simp only [tagged, element, he, hitem, bind, Except.bind]⟩
    | ok a =>
      change tagged e.tag item (.startingAt data offset) = .ok a (.startingAt data e.after.offset)
      simp [tagged, element, he, hitem, bind, Except.bind, pure, Except.pure, ← hafter]

end Reader

end NetWatch.Ber
