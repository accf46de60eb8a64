import NetWatch.Proofs.Ber.Agreement
import NetWatch.Proofs.Snmp.Recognition
import NetWatch.Smi.Syntax

/-!
# Three ways to read a value

A value can be read by its syntax at an offset, at an offset whatever its syntax, and by a reader.
The first looks at the tag alone before anything else, the second lets the tag choose the syntax, and
the typed reads of a reader look at the tag last. They agree all the same, `decoders_agree`: with the
same value, the same end, and where the tag is known also the same error.
-/

namespace NetWatch.Smi

open NetWatch.Ber Reader

variable {data : Octets} {offset next : Nat} {tag : Tag} {v : Value}

/-! ## Syntaxes -/

namespace Syntax

variable {s : Syntax}

def read : Syntax → Reader Value
  | int32 => Value.int32 <$> Reader.integer
  | unsigned32 => Value.unsigned32 <$> Reader.unsigned32 Tag.unsigned32
  | counter32 => Value.counter32 <$> Reader.unsigned32 Tag.counter32
  | timeTicks => Value.timeTicks <$> Reader.unsigned32 Tag.timeTicks
  | counter64 => Value.counter64 <$> Reader.unsigned64 Tag.counter64
  | octetString => Value.octetString <$> Reader.octetString
  | opaqueData => Value.opaqueData <$> Reader.string Tag.opaqueData
  | ipAddress => Value.ipAddress <$> Reader.ipAddress
  | objectId => Value.objectId <$> Reader.oid
  | null => (fun _ => Value.null) <$> Reader.null

theorem readTagged_tag (s : Syntax) : Value.readTagged s.tag = s.read := by
  cases s <;> rfl

theorem ofTag?_eq_some_iff : ofTag? tag = some s ↔ s.tag = tag :=
  find?_key_eq_some_iff fun s => by cases s <;> rfl

/-- Any syntax but addresses is read from one element. -/
theorem read_eq_tagged (h : s ≠ ipAddress) : s.read = tagged s.tag fun e => s.valueOf e := by
  cases s with
  | ipAddress => exact absurd rfl h
  | _ => exact map_tagged _ _ _

theorem decodeAt_of_tag (htag : data[offset]? = some s.tag) : s.decodeAt data offset =
    (parseAt (fun e => s.valueOf e) data offset).map fun p => (p.next, p.value) := by
  simp only [decodeAt, checkTag, htag, if_true, bind, Except.bind]
  cases parseAt (fun e => s.valueOf e) data offset <;> rfl

/-- An address is taken as a string, and what is wrong with it is found out behind it. -/
theorem read_ipAddress (w : Window) : read ipAddress w =
    match Reader.string Tag.ipAddress w with
    | .error e w' => .error e w'
    | .ok content w' => match Net.Ipv4.ofOctets? content with
      | some ip => .ok (.ipAddress ip) w'
      | none => .error ⟨w.offset, .ipAddressLength content.length⟩ w' := by
  change EStateM.map Value.ipAddress (EStateM.bind (Reader.string Tag.ipAddress) _) w = _
  unfold EStateM.map EStateM.bind
  cases Reader.string Tag.ipAddress w with
  | error e w' => rfl
  | ok content w' => cases h : Net.Ipv4.ofOctets? content <;> simp only [h] <;> rfl

theorem agrees_read_ipAddress (htag : data[offset]? = some Tag.ipAddress) :
    (read ipAddress).Agrees data offset
      ((parseAt (fun e => valueOf e ipAddress) data offset).map fun p => (p.next, p.value)) := by
  have hstring := agrees_tagged htag Element.string
  cases he : (Window.startingAt data offset).element with
  | error e =>
    rw [parseAt_error he] at hstring ⊢
    obtain ⟨w, hr⟩ := hstring
    exact ⟨w, by rw [read_ipAddress, Reader.string, hr]⟩
  | ok e =>
    rw [parseAt_ok he] at hstring ⊢
    obtain ⟨htag', hstart, -⟩ := Window.element_startingAt he
    have hcontent : e.string = .ok e.content.octets :=
      if_neg (by rw [Option.some.inj (htag'.symm.trans htag)]; decide)
    rw [hcontent] at hstring
    have hr : Reader.string Tag.ipAddress (.startingAt data offset) =
        .ok e.content.octets (.startingAt data e.after.offset) := hstring
    cases hip : Net.Ipv4.ofOctets? e.content.octets with
    | none =>
      have hvalue : valueOf e ipAddress =
          .error ⟨offset, .ipAddressLength e.content.octets.length⟩ := by
        simp only [valueOf, hcontent, hstart, bind, Except.bind, hip]
      rw [hvalue]
      refine ⟨.startingAt data e.after.offset, ?_⟩
      simp only [read_ipAddress, hr, hip]
      rfl
    | some ip =>
      have hvalue : valueOf e ipAddress = .ok (.ipAddress ip) := by
        simp only [valueOf, hcontent, bind, Except.bind, hip]
        rfl
      rw [hvalue]
      change read ipAddress (.startingAt data offset) =
        .ok (.ipAddress ip) (.startingAt data e.after.offset)
      simp only [read_ipAddress, hr, hip]

theorem agrees_read (htag : data[offset]? = some s.tag) :
    s.read.Agrees data offset (s.decodeAt data offset) := by
  rw [decodeAt_of_tag htag]
  by_cases hip : s = ipAddress
  · subst hip
    exact agrees_read_ipAddress htag
  · rw [read_eq_tagged hip]
    exact agrees_tagged htag _

end Syntax

namespace Value

theorem readTagged_exception (h : exceptionOfTag? tag = some v) :
    readTagged tag = (fun _ => v) <$> Reader.empty tag := by
  have hmem := List.mem_of_find?_eq_some h
  obtain rfl : v.tag = tag := by simpa using List.find?_some h
  simp only [List.mem_cons, List.not_mem_nil, or_false] at hmem
  rcases hmem with rfl | rfl | rfl <;> rfl

theorem readTagged_unknown (hs : Syntax.ofTag? tag = none) (hnone : exceptionOfTag? tag = none) :
    readTagged tag = Reader.offset >>= fun start => Reader.fail start (.unknownValueType tag) := by
  unfold readTagged
  -- one condition for each known tag
  iterate 13
    refine (if_neg ?_).trans ?_
    · rintro rfl
      first | exact absurd hs (by decide) | exact absurd hnone (by decide)
  rfl

theorem read_of_tag (htag : data[offset]? = some tag) :
    Value.read (.startingAt data offset) = readTagged tag (.startingAt data offset) := by
  rw [Value.read, peekTag?_bind, Window.head?_startingAt, htag]

/-- A value is read by a reader as at its offset, whatever the octets are. -/
theorem agrees_read (data : Octets) (offset : Nat) :
    Value.read.Agrees data offset (Value.decodeAt data offset) := by
  unfold Value.decodeAt
  cases htag : data[offset]? with
  | none =>
    refine ⟨.startingAt data offset, ?_⟩
    rw [Value.read, peekTag?_bind, Window.head?_startingAt, htag]
    rfl
  | some tag =>
    refine Agrees.congr (read_of_tag htag) ?_
    cases hs : Syntax.ofTag? tag with
    | some s =>
      obtain rfl := Syntax.ofTag?_eq_some_iff.1 hs
      rw [Syntax.readTagged_tag]
      simp only [hs]
      exact Syntax.agrees_read htag
    | none => cases hexception : exceptionOfTag? tag with
      | some v =>
        have h := agrees_tagged htag fun e => (fun _ => v) <$> e.null
        rw [parseAt_map] at h
        simp only [hs, hexception, nullAt]
        rw [readTagged_exception hexception, Reader.empty, map_tagged]
        cases hnull : parseAt Element.null data offset <;> rw [hnull] at h <;> exact h
      | none =>
        simp only [hs, hexception]
        rw [readTagged_unknown hs hexception]
        exact ⟨_, rfl⟩

theorem decodeAt_eq_ok_iff : Value.decodeAt data offset = .ok (next, v) ↔
    ∃ d, IsElement d v ∧ (Window.startingAt data offset).Passes d (.startingAt data next) := by
  rw [(agrees_read data offset).found_iff]
  exact recognises_read _ v _

theorem IsElement.tag_eq {d : Octets} {w : Window} (h : IsElement d v)
    (hp : (Window.startingAt data offset).Passes d w) : data[offset]? = some v.tag := by
  rw [← Window.head?_startingAt]
  exact hp.head?_eq h.head?_eq

end Value

namespace Syntax

variable {s : Syntax}

/-- The tag is all that a syntax looks at by itself. -/
theorem decodeAt_eq (s : Syntax) (data : Octets) (offset : Nat) : s.decodeAt data offset =
    match data[offset]? with
    | none => .error ⟨offset, .truncated⟩
    | some tag =>
      if tag = s.tag then Value.decodeAt data offset
      else .error ⟨offset, .unexpectedTag s.tag tag⟩ := by
  cases htag : data[offset]? with
  | none =>
    simp only [decodeAt, checkTag, htag]
    rfl
  | some tag =>
    by_cases h : tag = s.tag
    · subst h
      simp only [if_true, Value.decodeAt, htag, ofTag?_eq_some_iff.2 (rfl : s.tag = s.tag)]
    · simp only [decodeAt, checkTag, htag, if_neg h]
      rfl

theorem tag_of_decodeAt (h : s.decodeAt data offset = .ok (next, v)) :
    data[offset]? = some s.tag := by
  rw [decodeAt_eq] at h
  split at h
  · cases h
  · next tag htag =>
    split at h
    · next heq => rw [htag, heq]
    · cases h

theorem tag_of_read {w : Window} (h : s.read (.startingAt data offset) = .ok v w) :
    data[offset]? = some s.tag := by
  rw [← readTagged_tag] at h
  have hv := Value.tag_of_readTagged h
  rw [← hv] at h ⊢
  obtain ⟨d, hd, hp⟩ := Value.readTagged_eq_ok_iff.1 h
  exact hd.tag_eq hp

/-- A typed read takes what its syntax finds, though it may fail for another reason. -/
theorem read_eq_ok_iff {w : Window} : s.read (.startingAt data offset) = .ok v w ↔
    ∃ next, s.decodeAt data offset = .ok (next, v) ∧ w = .startingAt data next := by
  constructor
  · intro h
    exact (agrees_read (tag_of_read h)).eq_ok_iff.1 h
  · rintro ⟨next, h, hw⟩
    exact (agrees_read (tag_of_decodeAt h)).eq_ok_iff.2 ⟨next, h, hw⟩

end Syntax

/-! ## Main statement -/

/-- All ways to read a value at a place of a message agree, whatever octets stand there.

- A reader comes there by skipping what is in front. It then finds the same value with the same end
  as the read at the offset, or fails with the same error.
- A value that is found has the tag that stands there.
- A syntax finds what the read of any value finds, but wants its own tag before that.
- The typed read of a syntax succeeds where the syntax does, with the same value and the same end. -/
theorem decoders_agree (data : Octets) (offset : Nat) (standing : offset ≤ data.length) :
    Reader.bytes offset (.whole data) = .ok (data.take offset) (.startingAt data offset) ∧
    Value.read.Agrees data offset (Value.decodeAt data offset) ∧
    (∀ next v, Value.decodeAt data offset = .ok (next, v) → data[offset]? = some v.tag) ∧
    ∀ s : Syntax,
      s.decodeAt data offset = (match data[offset]? with
        | none => .error ⟨offset, .truncated⟩
        | some tag =>
          if tag = s.tag then Value.decodeAt data offset
          else .error ⟨offset, .unexpectedTag s.tag tag⟩) ∧
      ∀ v w, s.read (.startingAt data offset) = .ok v w ↔
        ∃ next, s.decodeAt data offset = .ok (next, v) ∧ w = .startingAt data next := by
  refine ⟨bytes_whole standing, Value.agrees_read data offset, fun next v h => ?_, fun s => ⟨?_, ?_⟩⟩
  · obtain ⟨d, hd, hp⟩ := Value.decodeAt_eq_ok_iff.1 h
    exact hd.tag_eq hp
  · exact s.decodeAt_eq data offset
  · exact fun _ _ => Syntax.read_eq_ok_iff

/-- An address of three octets, which the reader has passed when it refuses it. -/
theorem decoders_agree_shortAddress :
    let data : Octets := [0x05, 0x40, 0x03, 0x0A, 0x00, 0x01, 0x00]
    1 ≤ data.length ∧ Value.decodeAt data 1 = .error ⟨1, .ipAddressLength 3⟩ ∧
      (∃ w, Value.read (.startingAt data 1) = .error ⟨1, .ipAddressLength 3⟩ w) ∧
      Syntax.null.decodeAt data 1 = .error ⟨1, .unexpectedTag 0x05 0x40⟩ := by
  intro data
  have standing : 1 ≤ data.length := by decide
  have hfound : Value.decodeAt data 1 = .error ⟨1, .ipAddressLength 3⟩ := by decide +kernel
  obtain ⟨-, hread, -, hsyntaxes⟩ := decoders_agree data 1 standing
  rw [hfound] at hread
  exact ⟨standing, hfound, hread, (hsyntaxes .null).1⟩

end NetWatch.Smi
