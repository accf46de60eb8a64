import NetWatch.Proofs.Snmp.Writing

/-!
# Building from the end is writing from the front

A series of pushes leaves in front of what was there the forward encodings of the pushes, the last
one first (`applyAll_writes_forward`). The contents of constructed elements are series of pushes in
their turn, on the builder as it then is, so the induction is on the tree of pushes and the builder
is arbitrary.
-/

namespace NetWatch.Smi.Push

open NetWatch.Ber NetWatch.Ber.Builder Grammar

/-! ## What a push leaves -/

mutual

theorem prepends_apply : (p : Push) → Prepends p.apply p.forward
  | bytes data => fun b => octets_push b data
  | length len => fun b => octets_push b (Length.encode len)
  | tag t => fun b => octets_push b [t]
  | integer t n => prepends_pushElement t (Integer.content n.toInt)
  | unsigned32 t n => prepends_pushElement t (Integer.content n.toNat)
  | unsigned64 t n => prepends_pushElement t (Integer.content n.toNat)
  | string t data => prepends_pushElement t data
  | empty t => prepends_pushEmpty t
  | oid o => prepends_pushElement Tag.objectIdentifier o.content
  | ipAddress ip => prepends_pushElement Tag.ipAddress ip.octets
  | value v => v.prepends_push
  | constructed t body => (prepends_applyAll body).pushConstructed t

theorem prepends_applyAll : (ps : List Push) → Prepends (applyAll ps) (forwardAll ps)
  | [] => fun _ => rfl
  | p :: rest => fun b => by
    rw [applyAll, prepends_applyAll rest, prepends_apply p, forwardAll, List.append_assoc]

end

theorem forwardAll_eq_flatMap (ps : List Push) : forwardAll ps = ps.reverse.flatMap forward := by
  induction ps with
  | nil => rfl
  | cons p rest ih => simp [forwardAll, ih]

/-! ## Elements inside elements -/

/-- The tag and the content of a push that writes an element. -/
def element? : Push → Option (Tag × Octets)
  | bytes _ | length _ | tag _ => none
  | integer t n => some (t, Integer.content n.toInt)
  | unsigned32 t n => some (t, Integer.content n.toNat)
  | unsigned64 t n => some (t, Integer.content n.toNat)
  | string t data => some (t, data)
  | empty t => some (t, [])
  | oid o => some (Tag.objectIdentifier, o.content)
  | ipAddress ip => some (Tag.ipAddress, ip.octets)
  | value v => some (v.tag, v.content)
  | constructed t body => some (t, body.reverse.flatMap forward)

/-- The push is one of a series, or one of the pushes inside them, at any depth. -/
inductive Within (p : Push) : List Push → Prop where
  | here {ps : List Push} : p ∈ ps → Within p ps
  | inside {t : Tag} {body ps : List Push} : constructed t body ∈ ps → Within p body → Within p ps

theorem forward_of_element? {p : Push} {t : Tag} {content : Octets}
    (h : p.element? = some (t, content)) : p.forward = encodeElement t content := by
  cases p with
  | bytes | length | tag => cases h
  | constructed t body =>
    cases h
    rw [forward, forwardAll_eq_flatMap]
  | _ =>
    cases h
    rfl

theorem forward_infix_of_mem {p : Push} {ps : List Push} (h : p ∈ ps) :
    p.forward <:+: ps.reverse.flatMap forward := by
  obtain ⟨front, behind, hps⟩ := List.append_of_mem (List.mem_reverse.2 h)
  refine ⟨front.flatMap forward, behind.flatMap forward, ?_⟩
  rw [hps, List.flatMap_append, List.flatMap_cons, List.append_assoc]

/-- What a push writes stands in what the series around it writes. -/
theorem Within.forward_infix {p : Push} {ps : List Push} (h : Within p ps) :
    p.forward <:+: ps.reverse.flatMap forward := by
  induction h with
  | here hmem => exact forward_infix_of_mem hmem
  | @inside t body ps hmem _ ih =>
    have hcontent : body.reverse.flatMap forward <:+: (constructed t body).forward := by
      rw [forward_of_element? (rfl : (constructed t body).element? = some (t, _))]
      exact ⟨t :: Length.encode _, [], List.append_nil _⟩
    exact ih.trans (hcontent.trans (forward_infix_of_mem hmem))

/-! ## Main statement -/

theorem applyAll_append (done rest : List Push) (b : Builder) :
    applyAll (done ++ rest) b = applyAll rest (applyAll done b) := by
  induction done generalizing b with
  | nil => rfl
  | cons p done ih => rw [List.cons_append, applyAll, ih, applyAll]

/-- A builder writes what a forward encoder would.

- The octets are the forward encodings of the pushes, the last push first, in front of those that
  were there before.
- After any number of pushes the octets so far are the last ones of the whole, and the size is their
  number.
- The forward encoding of a constructed element is its tag, the length of its content and its
  content, which is built in the same way.
- Wherever an element is pushed, its header stands in front of its content with the number of octets
  that the content has, unless that is too large for a length. -/
theorem applyAll_writes_forward (ps : List Push) (b : Builder) :
    (applyAll ps b).octets = ps.reverse.flatMap forward ++ b.octets ∧
    (∀ done rest, ps = done ++ rest → applyAll ps b = applyAll rest (applyAll done b) ∧
      (applyAll done b).octets <:+ (applyAll ps b).octets ∧
      (applyAll done b).size = (applyAll done b).octets.length) ∧
    (∀ t body, let content := body.reverse.flatMap forward
      (constructed t body).forward = t :: (Length.encode content.length ++ content)) ∧
    ∀ p t content, Within p ps → p.element? = some (t, content) → content.length < 2 ^ 32 →
      ∃ front length behind, DefiniteLength length content.length ∧
        (applyAll ps b).octets = front ++ (t :: (length ++ content)) ++ behind := by
  have hoctets (ps : List Push) (b : Builder) :
      (applyAll ps b).octets = ps.reverse.flatMap forward ++ b.octets := by
    rw [prepends_applyAll, forwardAll_eq_flatMap]
  refine ⟨hoctets ps b, ?_, fun t body => ?_, fun p t content hp helement short => ?_⟩
  · rintro done rest rfl
    rw [applyAll_append]
    exact ⟨rfl, ⟨_, (hoctets rest _).symm⟩, size_eq _⟩
  · exact forward_of_element? rfl
  · obtain ⟨front, behind, heq⟩ := hp.forward_infix
    refine ⟨front, Length.encode content.length, behind ++ b.octets, definiteLength_encode short, ?_⟩
    rw [hoctets, ← heq, forward_of_element? helement, encodeElement]
    simp only [List.append_assoc, List.cons_append]

/-- A string that needs a length of two octets, two elements deep and behind another one, on a builder
that is not empty. -/
theorem applyAll_writes_forward_nested :
    let data : Octets := List.replicate 200 0xAB
    let p : Push := string Tag.octetString data
    let ps : List Push :=
      [integer Tag.integer 7, constructed Tag.sequence [constructed 0xA0 [p, empty Tag.null]]]
    let b : Builder := Builder.empty.push [0xEE]
    Within p ps ∧ p.element? = some (Tag.octetString, data) ∧ data.length < 2 ^ 32 ∧
      (∃ front length behind, DefiniteLength length data.length ∧
        (applyAll ps b).octets = front ++ (Tag.octetString :: (length ++ data)) ++ behind) ∧
      (applyAll [integer Tag.integer 7] b).octets <:+ (applyAll ps b).octets := by
  intro data p ps b
  have hp : Within p ps :=
    .inside (.tail _ (.head _)) (.inside (.head _) (.here (.head _)))
  have short : data.length < 2 ^ 32 := by
    rw [List.length_replicate]
    decide
  obtain ⟨-, hdone, -, hheader⟩ := applyAll_writes_forward ps b
  exact ⟨hp, rfl, short, hheader p Tag.octetString data hp rfl short, (hdone [_] [_] rfl).2.1⟩

end NetWatch.Smi.Push
