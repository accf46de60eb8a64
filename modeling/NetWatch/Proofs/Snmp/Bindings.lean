import NetWatch.Proofs.Ber.Extent
import NetWatch.Proofs.Ber.Rounds
import NetWatch.Proofs.Snmp.Recognition

/-!
# What a list of bindings can hold

A list comes from anywhere, and nothing in it says how many bindings there are. Still the loop that
reads it ends, and cannot give more than a sixth as many bindings as the list has octets of content
(`lists_cannot_amplify`): a value takes at least two octets, so a binding takes at least six.
-/

namespace NetWatch

open Ber Ber.Grammar Ber.Reader

/-! ## How much is taken -/

namespace Smi.Value

theorem IsElement.two_le_length {d : Octets} {v : Value} (h : IsElement d v) : 2 ≤ d.length := by
  obtain ⟨c, -, hlen⟩ := Tlv.exists_content h
  omega

theorem advances_read : Value.read.Advances 2 :=
  recognises_read.advances fun _ _ => IsElement.two_le_length

end Smi.Value

namespace Snmp

open Smi

namespace VarBind

/-- The tag and the length of the sequence, those of the name, and a value. -/
theorem six_le_length {d : Octets} {vb : VarBind} (h : Tlv Tag.sequence VarBind.IsContent d vb) :
    6 ≤ d.length := by
  obtain ⟨c, hc, hlen⟩ := h.exists_content
  cases hc with
  | @intro name value oid v hname hvalue =>
    obtain ⟨_, -, hn⟩ := hname.exists_content
    have hv := hvalue.two_le_length
    rw [List.length_append] at hlen
    omega

theorem advances_read : VarBind.read.Advances 6 :=
  recognises_read.advances fun _ _ => six_le_length

/-! ## Lists -/

/-- The reading of a list: a sequence is taken, and its content is read by a loop. Where the
sequence cannot be taken there is no loop. -/
inductive ListRounds : (w : Window) → (rounds : Nat) →
    (result : EStateM.Result DecodeError Window (List VarBind)) → Prop where
  | noSequence {w w' : Window} {e : DecodeError} : Reader.sequence w = .error e w' →
      ListRounds w 0 (.error e w')
  | read {w content w' last : Window} {n : Nat} {vbs : List VarBind} :
      Reader.sequence w = .ok content w' → Rounds VarBind.read content [] n (.ok vbs last) →
      ListRounds w n (.ok vbs w')
  | refused {w content w' last : Window} {n : Nat} {e : DecodeError} :
      Reader.sequence w = .ok content w' → Rounds VarBind.read content [] n (.error e last) →
      ListRounds w n (.error e w')

variable {w w' content : Window} {n : Nat} {vbs : List VarBind} {e : DecodeError}
  {result : EStateM.Result DecodeError Window (List VarBind)}

theorem readList_of_noSequence (h : Reader.sequence w = .error e w') :
    readList w = .error e w' :=
  bind_eq_error_iff.2 (.inl h)

theorem readList_of_content (h : Reader.sequence w = .ok content w') :
    readList w = within content (untilEnd VarBind.read) w' := by
  change EStateM.bind Reader.sequence _ w = _
  rw [EStateM.bind, h]

theorem ListRounds.mul_le (h : ListRounds w n result) (hseq : Reader.sequence w = .ok content w') :
    6 * n ≤ content.remaining := by
  cases h with
  | noSequence => exact Nat.zero_le _
  | read hseq' hrounds | refused hseq' hrounds =>
    cases hseq.symm.trans hseq'
    exact hrounds.mul_le advances_read

/-- The reading ends, in one way only, and with what `readList` gives. -/
theorem listRounds_iff (w : Window) :
    ∃ rounds, ∀ n result, ListRounds w n result ↔ n = rounds ∧ result = readList w := by
  cases hseq : Reader.sequence w with
  | error e w' =>
    rw [readList_of_noSequence hseq]
    refine ⟨0, fun n result => ⟨fun h => ?_, ?_⟩⟩
    · cases h with
      | noSequence hseq' =>
        cases hseq.symm.trans hseq'
        exact ⟨rfl, rfl⟩
      | read hseq' | refused hseq' => cases hseq.symm.trans hseq'
    · rintro ⟨rfl, rfl⟩
      exact .noSequence hseq
  | ok content w' =>
    obtain ⟨rounds, hrounds⟩ := rounds_untilEnd_iff advances_read (by decide) content
    rw [readList_of_content hseq, within]
    refine ⟨rounds, fun n result => ⟨fun h => ?_, ?_⟩⟩
    · cases h with
      | noSequence hseq' => cases hseq.symm.trans hseq'
      | read hseq' h | refused hseq' h =>
        cases hseq.symm.trans hseq'
        obtain ⟨rfl, hend⟩ := (hrounds _ _).1 h
        rw [← hend]
        exact ⟨rfl, rfl⟩
    · rintro ⟨rfl, rfl⟩
      have h := (hrounds n _).2 ⟨rfl, rfl⟩
      split
      · next hend => exact .read hseq (hend ▸ h)
      · next hend => exact .refused hseq (hend ▸ h)

theorem readList_eq_ok_iff : readList w = .ok vbs w' ↔ ∃ content,
    Reader.sequence w = .ok content w' ∧
      Many (Tlv Tag.sequence VarBind.IsContent) content.octets vbs := by
  have hfills := fills_untilEnd recognises_read fun _ _ => tlv_ne_nil
  constructor
  · intro h
    obtain ⟨content, w₁, hseq, hbody⟩ := bind_eq_ok_iff.1 h
    obtain ⟨hm, rfl⟩ := (Recognises.within hfills content w₁ w' vbs).1 hbody
    exact ⟨content, hseq, hm⟩
  · rintro ⟨content, hseq, hm⟩
    exact bind_eq_ok_iff.2 ⟨content, w', hseq, (Recognises.within hfills _ _ _ _).2 ⟨hm, rfl⟩⟩

/-- How far values and bindings reach, and what a list can hold.

- A value that is read takes at least two octets and a binding at least six, and both keep the end
  of the window.
- Reading a list ends, whatever it holds, and with one result, which is that of `readList`. There
  are no more rounds than the content has room for bindings.
- A list is read exactly if its bindings come, in their order, from parts that follow each other and
  make up all of its content. So they are at most a sixth as many as the octets of the content. -/
theorem lists_cannot_amplify :
    (∀ w v w', Value.read w = .ok v w' → w.offset + 2 ≤ w'.offset ∧ w'.stop = w.stop) ∧
    (∀ w vb w', VarBind.read w = .ok vb w' → w.offset + 6 ≤ w'.offset ∧ w'.stop = w.stop) ∧
    ∀ w,
      (∃ rounds, (∀ n result, ListRounds w n result ↔ n = rounds ∧ result = readList w) ∧
        ∀ content w', Reader.sequence w = .ok content w' → 6 * rounds ≤ content.remaining) ∧
      ∀ vbs w', readList w = .ok vbs w' ↔ ∃ content parts,
        Reader.sequence w = .ok content w' ∧ ReadFrom VarBind.read content parts vbs ∧
          6 * vbs.length ≤ content.remaining := by
  refine ⟨fun w v w' => Value.advances_read.offset_le, fun w vb w' => advances_read.offset_le,
    fun w => ⟨?_, fun vbs w' => ⟨fun h => ?_, ?_⟩⟩⟩
  · obtain ⟨rounds, h⟩ := listRounds_iff w
    exact ⟨rounds, h, fun content w' => ((h rounds _).2 ⟨rfl, rfl⟩).mul_le⟩
  · obtain ⟨content, hseq, hm⟩ := readList_eq_ok_iff.1 h
    obtain ⟨parts, hparts⟩ := recognises_read.exists_readFrom_iff.2 hm
    exact ⟨content, parts, hseq, hparts, hm.mul_length_le fun _ _ => six_le_length⟩
  · rintro ⟨content, parts, hseq, hparts, -⟩
    have hm := recognises_read.exists_readFrom_iff.1 ⟨parts, hparts⟩
    exact readList_eq_ok_iff.2 ⟨content, hseq, hm⟩

/-- Two bindings that could not be shorter: no arcs and no value. Where the second one is cut off,
the loop ends after one round. -/
theorem lists_cannot_amplify_shortest :
    let binding : Octets := [0x30, 4, 6, 0, 5, 0]
    let vb : VarBind := ⟨⟨[]⟩, .null⟩
    let list : Window := ⟨0, 0x30 :: 12 :: (binding ++ binding)⟩
    let cut : Window := ⟨0, 0x30 :: 8 :: (binding ++ [0x30, 4])⟩
    Value.read ⟨6, [5, 0]⟩ = .ok .null ⟨8, []⟩ ∧ 6 + 2 ≤ 8 ∧
    VarBind.read ⟨2, binding⟩ = .ok vb ⟨8, []⟩ ∧ 2 + 6 ≤ 8 ∧
    readList list = .ok [vb, vb] ⟨14, []⟩ ∧
    (∃ content parts, Reader.sequence list = .ok content ⟨14, []⟩ ∧
      ReadFrom VarBind.read content parts [vb, vb] ∧ 6 * 2 ≤ content.remaining) ∧
    ∀ n result, ListRounds cut n result ↔ n = 1 ∧ result = .error ⟨10, .overrun⟩ ⟨10, []⟩ := by
  intro binding vb list cut
  obtain ⟨hvalue, hbinding, hlist⟩ := lists_cannot_amplify
  have hv : Value.read ⟨6, [5, 0]⟩ = .ok .null ⟨8, []⟩ := rfl
  have hvb : VarBind.read ⟨2, binding⟩ = .ok vb ⟨8, []⟩ := rfl
  have hread : readList list = .ok [vb, vb] ⟨14, []⟩ := rfl
  refine ⟨hv, (hvalue _ _ _ hv).1, hvb, (hbinding _ _ _ hvb).1, hread,
    ((hlist list).2 _ _).1 hread, ?_⟩
  obtain ⟨rounds, hrounds, -⟩ := (hlist cut).1
  have hloop : ListRounds cut 1 (.error ⟨10, .overrun⟩ ⟨10, []⟩) :=
    .refused rfl (.round (by decide) rfl (.refused (by decide) rfl))
  obtain ⟨rfl, hresult⟩ := (hrounds 1 _).1 hloop
  rw [hresult]
  exact hrounds

end VarBind

end Snmp

end NetWatch
