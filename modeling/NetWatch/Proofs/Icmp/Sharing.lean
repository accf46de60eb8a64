import NetWatch.Icmp.Service
import NetWatch.Proofs.Probing.Entries

/-!
# The shared service

Callers ask for the shared service, shut services down, probe over them, and lose them with their
runtimes, in any order. A service that is closed stays closed (`precedes_run`), so the place of the
shared service holds the only open one of all that were ever given out (`Tidy`). A service is open
as long as nothing has closed its correlator. One that has lost its receiver can be open only if the
receiver never had a turn (`Attended`). `shared_service_of_history` says what a caller gets after
any history.
-/

namespace NetWatch.Icmp

open Net (IoError)
open Probing (Key Correlator)

/-! ## Starting -/

variable {s s' s'' : Service} {a : Attempt}

namespace Service

theorem start_error {e : Error} (h : start a = .error e) : ∃ source, e = .io none source := by
  unfold start at h
  split at h <;> cases h <;> exact ⟨_, rfl⟩

theorem start_ok (h : start a = .ok s) :
    s.isClosed = false ∧ s.correlator.receiver = .running := by
  unfold start at h
  split at h <;> cases h
  exact ⟨rfl, rfl⟩

end Service

/-! ## Histories -/

namespace Registry

inductive Event where
  | ask (attempt : Attempt)
  /-- A caller starts a service of its own. -/
  | start (attempt : Attempt)
  /-- The receiver of a service has its first turn. -/
  | begin (service : Nat)
  | shutdown (service : Nat)
  /-- The receiver of a service goes away with its runtime. -/
  | lose (service : Nat)
  /-- Anything else that happens in the correlator of a service: a turn of a probe, a reply, or a
  single step of a shutdown. -/
  | work (service : Nat) (event : Probing.Event)

/-- What an event does, and what its caller gets if it asked for the shared service. -/
def step (r : Registry) : Event → Registry × List (Except Error Nat)
  | .ask attempt => ((r.ask attempt).1, [(r.ask attempt).2])
  | .start attempt => match Service.start attempt with
    | .ok s => ((r.add s).1, [])
    | .error _ => (r, [])
  | .begin i => (r.modify i .begin, [])
  | .shutdown i => (r.modify i .shutdown, [])
  | .lose i => (r.modify i .lose, [])
  | .work i e => (r.modify i (·.work e), [])

def run (r : Registry) : List Event → Registry × List (Except Error Nat)
  | [] => (r, [])
  | e :: events => (((r.step e).1.run events).1, (r.step e).2 ++ ((r.step e).1.run events).2)

def isOpen (r : Registry) (i : Nat) : Bool := (r.services[i]?).any (!·.isClosed)

/-- The reader of service `i` has been told to stop, and its correlator is closed. -/
def isRetired (r : Registry) (i : Nat) : Bool :=
  (r.services[i]?).any fun s => s.readerStopped && s.isClosed

/-- Service `i`, if it is open, is closed by this event. A receiver closes it by ending, but not if
it never had a turn. -/
def Closes (r : Registry) (i : Nat) : Event → Prop
  | .shutdown j | .work j .shutdown => i = j
  | .lose j => i = j ∧ (r.services[i]?).any (·.begun)
  | .work j .leave => i = j ∧ (r.services[i]?).any (·.correlator.receiver = .running)
  | _ => False

end Registry

/-! ## Nothing is reopened -/

/-- What has been stopped or closed stays so. -/
structure Service.Precedes (s s' : Service) : Prop where
  stopped : s.readerStopped → s'.readerStopped
  closed : s.isClosed → s'.isClosed

namespace Service

theorem precedes_refl (s : Service) : s.Precedes s := ⟨id, id⟩

theorem Precedes.trans {s s' s'' : Service} (h : s.Precedes s') (h' : s'.Precedes s'') :
    s.Precedes s'' :=
  ⟨h'.stopped ∘ h.stopped, h'.closed ∘ h.closed⟩

theorem Precedes.isClosed_eq_false {s s' : Service} (h : s.Precedes s')
    (hopen : s'.isClosed = false) : s.isClosed = false :=
  Bool.eq_false_iff.2 fun hclosed => Bool.eq_false_iff.1 hopen (h.closed hclosed)

theorem precedes_shutdown (s : Service) : s.Precedes s.shutdown :=
  ⟨fun _ => rfl, fun h => Correlator.closed_run h _⟩

@[simp] theorem begin_correlator (s : Service) : s.begin.correlator = s.correlator := by
  unfold begin
  split <;> rfl

@[simp] theorem begin_readerStopped (s : Service) : s.begin.readerStopped = s.readerStopped := by
  unfold begin
  split <;> rfl

@[simp] theorem work_correlator (s : Service) (e : Probing.Event) :
    (s.work e).correlator = s.correlator.step e := by
  cases e <;> simp [work]

@[simp] theorem work_readerStopped (s : Service) (e : Probing.Event) :
    (s.work e).readerStopped = s.readerStopped := by
  cases e <;> simp [work]

theorem precedes_begin (s : Service) : s.Precedes s.begin := ⟨by simp, by simp [isClosed]⟩

theorem precedes_work (s : Service) (e : Probing.Event) : s.Precedes (s.work e) :=
  ⟨by simp, fun h => by simpa [isClosed] using Correlator.closed_step h e⟩

theorem precedes_lose (s : Service) : s.Precedes s.lose := by
  refine ⟨id, fun h => ?_⟩
  simp only [isClosed, lose]
  split
  · exact Correlator.closed_run h _
  · exact h

theorem isClosed_shutdown (s : Service) : s.shutdown.isClosed :=
  Correlator.closed_run (Correlator.closed_shutdown s.correlator) _

/-! ### Open without a receiver -/

/-- An open service has its receiver, or has lost it before its first turn. -/
def Attended (s : Service) : Prop :=
  s.isClosed = false →
    s.correlator.receiver = .running ∨ s.correlator.receiver = .gone ∧ s.begun = false

theorem isClosed_work (hopen : s.isClosed = false) (e : Probing.Event) : (s.work e).isClosed ↔
    e = .shutdown ∨ e = .leave ∧ s.correlator.receiver = .running := by
  rw [isClosed, work_correlator]
  by_cases hshutdown : e = .shutdown
  · subst hshutdown
    simpa using Correlator.closed_shutdown s.correlator
  by_cases hleave : e = .leave
  · subst hleave
    rw [Correlator.closed_leave_iff hopen]
    simp
  · rw [Correlator.closed_step_eq hleave hshutdown]
    simp only [hshutdown, hleave, false_and, or_false, iff_false]
    exact Bool.eq_false_iff.1 hopen

theorem isClosed_lose (h : s.Attended) (hopen : s.isClosed = false) :
    s.lose.isClosed = s.begun := by
  cases hbegun : s.begun with
  | false => simpa [isClosed, lose, hbegun] using hopen
  | true =>
    have hrunning : s.correlator.receiver = .running := by
      simpa [hbegun] using h hopen
    have hleft := (Correlator.closed_leave_iff hopen).2 hrunning
    simpa [isClosed, lose, hbegun, Correlator.run] using Correlator.closed_step hleft .clear

theorem attended_begin (h : s.Attended) : s.begin.Attended := by
  intro hopen
  simp only [isClosed, begin_correlator] at hopen ⊢
  refine (h hopen).imp_right fun ⟨hgone, hbegun⟩ => ⟨hgone, ?_⟩
  simpa [begin, hgone] using hbegun

theorem attended_lose (h : s.Attended) : s.lose.Attended := by
  intro hopen'
  have hopen : s.isClosed = false := s.precedes_lose.isClosed_eq_false hopen'
  have hbegun : s.begun = false := (isClosed_lose h hopen).symm.trans hopen'
  exact .inr ⟨by simp [lose, hbegun], hbegun⟩

theorem attended_shutdown (s : Service) : s.shutdown.Attended := fun hopen =>
  absurd (isClosed_shutdown s) (Bool.eq_false_iff.1 hopen)

theorem attended_work (h : s.Attended) (e : Probing.Event) : (s.work e).Attended := by
  intro hopen'
  have hopen : s.isClosed = false := (s.precedes_work e).isClosed_eq_false hopen'
  rw [isClosed, work_correlator] at hopen'
  rw [work_correlator]
  obtain ⟨hsame, _⟩ | ⟨_, _, hclosed⟩ | ⟨hleaving, _⟩ := Correlator.receiver_step s.correlator e
  · rw [hsame]
    refine (h hopen).imp_right fun ⟨hgone, hbegun⟩ => ⟨hgone, ?_⟩
    cases e <;> simpa [work, begin, hgone] using hbegun
  · rw [hclosed] at hopen'
    cases hopen'
  -- no receiver is leaving while the service is open
  · rcases h hopen with hr | ⟨hr, _⟩ <;> cases hleaving.symm.trans hr

end Service

namespace Registry

variable {r r' r'' : Registry} {i j : Nat} {e : Event}

def Precedes (r r' : Registry) : Prop :=
  ∀ (i : Nat) (s : Service), r.services[i]? = some s →
    ∃ s', r'.services[i]? = some s' ∧ s.Precedes s'

theorem precedes_refl (r : Registry) : r.Precedes r := fun _ s h => ⟨s, h, s.precedes_refl⟩

theorem Precedes.trans (h : r.Precedes r') (h' : r'.Precedes r'') : r.Precedes r'' := by
  intro i s hs
  obtain ⟨s', hs', hle⟩ := h i s hs
  obtain ⟨s'', hs'', hle'⟩ := h' i s' hs'
  exact ⟨s'', hs'', hle.trans hle'⟩

theorem precedes_modify {f : Service → Service} (hf : ∀ s : Service, s.Precedes (f s))
    (r : Registry) (j : Nat) : r.Precedes (r.modify j f) := by
  intro i s hs
  rw [modify, List.getElem?_modify, hs]
  refine ⟨_, rfl, ?_⟩
  split
  · exact hf s
  · exact s.precedes_refl

theorem getElem?_add (hs : r.services[i]? = some s) (s' : Service) :
    (r.add s').1.services[i]? = some s := by
  rw [add, List.getElem?_append_left (List.getElem?_eq_some_iff.1 hs).1, hs]

theorem precedes_add (r : Registry) (s : Service) : r.Precedes (r.add s).1 := fun _ s' hs' =>
  ⟨s', getElem?_add hs' s, s'.precedes_refl⟩

theorem precedes_evict (r : Registry) : r.Precedes r.evict := by
  unfold evict
  split
  · next i _ => exact precedes_modify Service.precedes_shutdown r i
  · exact precedes_refl r

theorem Precedes.lt_length (h : r.Precedes r') (hi : i < r.services.length) :
    i < r'.services.length := by
  obtain ⟨_, hs', -⟩ := h i _ (List.getElem?_eq_getElem hi)
  exact (List.getElem?_eq_some_iff.1 hs').1

theorem isOpen_iff : r.isOpen i ↔ ∃ s, r.services[i]? = some s ∧ s.isClosed = false := by
  simp [isOpen, Option.any_eq_true]

theorem isRetired_iff : r.isRetired i ↔
    ∃ s, r.services[i]? = some s ∧ s.readerStopped ∧ s.isClosed := by
  simp [isRetired, Option.any_eq_true]

theorem Precedes.isRetired (h : r.Precedes r') (hi : r.isRetired i) : r'.isRetired i := by
  obtain ⟨s, hs, hstopped, hclosed⟩ := isRetired_iff.1 hi
  obtain ⟨s', hs', hle⟩ := h i s hs
  exact isRetired_iff.2 ⟨s', hs', hle.stopped hstopped, hle.closed hclosed⟩

theorem Precedes.not_isOpen (h : r.Precedes r') (hi : i < r.services.length)
    (hclosed : ¬ r.isOpen i) : ¬ r'.isOpen i := by
  intro hopen
  obtain ⟨s', hs', hopen⟩ := isOpen_iff.1 hopen
  obtain ⟨s'', hs'', hle⟩ := h i _ (List.getElem?_eq_getElem hi)
  obtain rfl := Option.some.inj (hs'.symm.trans hs'')
  exact hclosed (isOpen_iff.2 ⟨_, List.getElem?_eq_getElem hi, hle.isClosed_eq_false hopen⟩)

theorem isRetired_not_isOpen (h : r.isRetired i) : ¬ r.isOpen i := by
  intro hopen
  obtain ⟨s, hs, -, hclosed⟩ := isRetired_iff.1 h
  obtain ⟨s', hs', hopen⟩ := isOpen_iff.1 hopen
  obtain rfl := Option.some.inj (hs.symm.trans hs')
  rw [hopen] at hclosed
  cases hclosed

/-! ## Asking for the shared service -/

@[simp] theorem evict_shared (r : Registry) : r.evict.shared = none := by
  unfold evict
  split
  · rfl
  · next h => exact h

@[simp] theorem evict_length (r : Registry) : r.evict.services.length = r.services.length := by
  unfold evict modify
  split
  · exact List.length_modify ..
  · rfl

theorem isRetired_evict (h : r.shared = some i) (hi : i < r.services.length) :
    r.evict.isRetired i := by
  refine isRetired_iff.2 ⟨r.services[i].shutdown, ?_, rfl, Service.isClosed_shutdown _⟩
  simp only [evict, h, modify, List.getElem?_modify_eq, List.getElem?_eq_getElem hi]
  rfl

/-- The shared place is empty, or holds a service that is closed. -/
def IsVacant (r : Registry) : Prop := ∀ i, r.shared = some i → ¬ r.isOpen i

/-- What the caller gets: the open service that is there, or what comes of starting one in the place
that has been cleared. -/
inductive Asked (r : Registry) (a : Attempt) : Registry × Except Error Nat → Prop where
  | found {i : Nat} : r.shared = some i → r.isOpen i → Asked r a (r, .ok i)
  | failed {e : Error} : r.IsVacant → Service.start a = .error e → Asked r a (r.evict, .error e)
  | started {s : Service} : r.IsVacant → Service.start a = .ok s →
      Asked r a (⟨r.evict.services ++ [s], some r.services.length⟩, .ok r.services.length)

theorem asked (r : Registry) (a : Attempt) : Asked r a (r.ask a) := by
  unfold ask
  split
  · next i hfound =>
    obtain ⟨hshared, hopen⟩ := Option.filter_eq_some_iff.1 hfound
    exact .found hshared hopen
  · next hnone =>
    have hvacant : r.IsVacant := by
      intro i hi hopen
      have hfound : r.open? = some i := Option.filter_eq_some_iff.2 ⟨hi, hopen⟩
      rw [hfound] at hnone
      cases hnone
    split
    · next e he => exact .failed hvacant he
    · next s hs =>
      simp only [add, evict_length]
      exact .started hvacant hs

theorem precedes_ask (r : Registry) (a : Attempt) : r.Precedes (r.ask a).1 := by
  have h := asked r a
  generalize r.ask a = asked at h
  cases h with
  | found => exact precedes_refl r
  | failed => exact precedes_evict r
  | started => exact (precedes_evict r).trans (precedes_add r.evict _)

/-! ## Steps and histories -/

theorem precedes_step (r : Registry) (e : Event) : r.Precedes (r.step e).1 := by
  cases e with
  | ask a => exact precedes_ask r a
  | start a =>
    rw [step]
    split
    · exact precedes_add r _
    · exact precedes_refl r
  | begin j => exact precedes_modify Service.precedes_begin r j
  | shutdown j => exact precedes_modify Service.precedes_shutdown r j
  | lose j => exact precedes_modify Service.precedes_lose r j
  | work j e => exact precedes_modify (·.precedes_work e) r j

theorem precedes_run (r : Registry) (events : List Event) : r.Precedes (r.run events).1 := by
  induction events generalizing r with
  | nil => exact precedes_refl r
  | cons e events ih => exact (precedes_step r e).trans (ih _)

theorem step_shared (h : ∀ a, e ≠ .ask a) : (r.step e).1.shared = r.shared ∧ (r.step e).2 = [] := by
  cases e with
  | ask a => exact absurd rfl (h a)
  | start a =>
    rw [step]
    split <;> exact ⟨rfl, rfl⟩
  | begin | shutdown | lose | work => exact ⟨rfl, rfl⟩

/-- The shared place holds the only service that may be open of all that were given out. -/
structure Tidy (r : Registry) (given : List (Except Error Nat)) : Prop where
  shared_lt : ∀ i, r.shared = some i → i < r.services.length
  retired : ∀ i, .ok i ∈ given → r.shared = some i ∨ r.isRetired i

variable {given : List (Except Error Nat)}

/-- When the shared place is cleared, whatever was given out is retired. -/
theorem Tidy.evict (h : Tidy r given) (hi : .ok i ∈ given) : r.evict.isRetired i := by
  rcases h.retired i hi with hshared | hretired
  · exact isRetired_evict hshared (h.shared_lt i hshared)
  · exact (precedes_evict r).isRetired hretired

theorem Tidy.ask (h : Tidy r given) (a : Attempt) :
    Tidy (r.ask a).1 (given ++ [(r.ask a).2]) := by
  have hasked := asked r a
  generalize r.ask a = asked at hasked
  cases hasked with
  | @found i hshared =>
    refine ⟨h.shared_lt, fun j hj => ?_⟩
    rcases List.mem_append.1 hj with hj | hj
    · exact h.retired j hj
    · cases List.mem_singleton.1 hj
      exact .inl hshared
  | failed =>
    refine ⟨fun j hj => (by simp at hj), fun j hj => ?_⟩
    rcases List.mem_append.1 hj with hj | hj
    · exact .inr (h.evict hj)
    · cases List.mem_singleton.1 hj
  | started =>
    refine ⟨fun j hj => ?_, fun j hj => ?_⟩
    · cases hj
      simp
    · rcases List.mem_append.1 hj with hj | hj
      · exact .inr ((precedes_add r.evict _).isRetired (h.evict hj))
      · cases List.mem_singleton.1 hj
        exact .inl rfl

theorem Tidy.step (h : Tidy r given) (e : Event) :
    Tidy (r.step e).1 (given ++ (r.step e).2) := by
  by_cases hask : ∃ a, e = .ask a
  · obtain ⟨a, rfl⟩ := hask
    exact h.ask a
  · obtain ⟨hshared, hnone⟩ := step_shared (r := r) (e := e) fun a ha => hask ⟨a, ha⟩
    have hle := precedes_step r e
    rw [hnone, List.append_nil]
    refine ⟨fun i hi => hle.lt_length (h.shared_lt i (hshared ▸ hi)), fun i hi => ?_⟩
    rcases h.retired i hi with hi | hi
    · exact .inl (hshared.trans hi)
    · exact .inr (hle.isRetired hi)

theorem Tidy.run (h : Tidy r given) (events : List Event) :
    Tidy (r.run events).1 (given ++ (r.run events).2) := by
  induction events generalizing r given with
  | nil => simpa [Registry.run] using h
  | cons e events ih =>
    rw [Registry.run, ← List.append_assoc]
    exact ih (h.step e)

theorem tidy_run (events : List Event) : Tidy (run {} events).1 (run {} events).2 := by
  have h : Tidy {} [] := ⟨nofun, nofun⟩
  simpa using h.run events

theorem Tidy.eq_of_isOpen (h : Tidy r given) (hi : .ok i ∈ given) (hj : .ok j ∈ given)
    (hopen : r.isOpen i) (hopen' : r.isOpen j) : i = j := by
  have hshared : ∀ k, .ok k ∈ given → r.isOpen k → r.shared = some k := fun k hk hopen =>
    (h.retired k hk).resolve_right fun hretired => isRetired_not_isOpen hretired hopen
  exact Option.some.inj ((hshared i hi hopen).symm.trans (hshared j hj hopen'))

/-! ## What closes a service -/

def IsAttended (r : Registry) : Prop :=
  ∀ (i : Nat) (s : Service), r.services[i]? = some s → s.Attended

theorem IsAttended.modify (h : r.IsAttended) {f : Service → Service}
    (hf : ∀ s : Service, s.Attended → (f s).Attended) (j : Nat) : (r.modify j f).IsAttended := by
  intro i s' hs'
  rw [Registry.modify, List.getElem?_modify] at hs'
  obtain ⟨s, hs, rfl⟩ := Option.map_eq_some_iff.1 hs'
  split
  · exact hf s (h i s hs)
  · exact h i s hs

theorem IsAttended.add (h : r.IsAttended) (hs : Service.start a = .ok s) :
    (r.add s).1.IsAttended := by
  intro i s' hs'
  rw [Registry.add, List.getElem?_append] at hs'
  split at hs'
  · exact h i s' hs'
  · cases List.mem_singleton.1 (List.mem_of_getElem? hs')
    exact fun _ => .inl (Service.start_ok hs).2

theorem IsAttended.evict (h : r.IsAttended) : r.evict.IsAttended := by
  unfold Registry.evict
  split
  · exact h.modify (fun s _ => s.attended_shutdown) _
  · exact h

theorem IsAttended.step (h : r.IsAttended) (e : Event) : (r.step e).1.IsAttended := by
  cases e with
  | ask a =>
    have hasked := asked r a
    rw [Registry.step]
    generalize r.ask a = asked at hasked
    cases hasked with
    | found => exact h
    | failed => exact h.evict
    | started _ hs => exact h.evict.add hs
  | start a =>
    rw [Registry.step]
    split
    · next hs => exact h.add hs
    · exact h
  | begin j => exact h.modify (fun _ => Service.attended_begin) j
  | shutdown j => exact h.modify (fun s _ => s.attended_shutdown) j
  | lose j => exact h.modify (fun _ => Service.attended_lose) j
  | work j e => exact h.modify (fun _ hs => Service.attended_work hs e) j

theorem isAttended_run (h : r.IsAttended) (events : List Event) :
    (r.run events).1.IsAttended := by
  induction events generalizing r with
  | nil => exact h
  | cons e events ih => exact ih (h.step e)

theorem isOpen_modify_self {f : Service → Service} (hs : r.services[i]? = some s) :
    (r.modify i f).isOpen i = !(f s).isClosed := by
  simp [isOpen, modify, hs]

theorem isOpen_modify_ne {f : Service → Service} (hne : i ≠ j) :
    (r.modify j f).isOpen i = r.isOpen i := by
  rw [isOpen, modify, List.getElem?_modify_ne _ _ hne.symm, isOpen]

theorem isOpen_add (h : r.isOpen i) (s : Service) : (r.add s).1.isOpen i := by
  obtain ⟨s', hs', hopen⟩ := isOpen_iff.1 h
  exact isOpen_iff.2 ⟨s', getElem?_add hs' s, hopen⟩

theorem IsVacant.isOpen_evict (h : r.IsVacant) (hopen : r.isOpen i) : r.evict.isOpen i := by
  unfold evict
  split
  · next j hj =>
    have hne : i ≠ j := fun hij => h j hj (hij ▸ hopen)
    exact (isOpen_modify_ne hne).trans hopen
  · exact hopen

theorem isOpen_ask (h : r.isOpen i) (a : Attempt) : (r.ask a).1.isOpen i := by
  have hasked := asked r a
  generalize r.ask a = asked at hasked
  cases hasked with
  | found => exact h
  | failed hvacant => exact hvacant.isOpen_evict h
  | started hvacant => exact isOpen_add (hvacant.isOpen_evict h) _

theorem isOpen_step_iff (hall : r.IsAttended) (hopen : r.isOpen i) (e : Event) :
    (r.step e).1.isOpen i ↔ ¬ r.Closes i e := by
  obtain ⟨s, hs, hclosed⟩ := isOpen_iff.1 hopen
  -- each event but a question or a start changes one service, which is `i` or another one
  have hself {f : Service → Service} : (r.modify i f).isOpen i ↔ ¬ (f s).isClosed := by
    simp [isOpen_modify_self hs]
  have hother {f : Service → Service} {j : Nat} (hne : i ≠ j) : (r.modify j f).isOpen i :=
    (isOpen_modify_ne hne).trans hopen
  cases e with
  | ask a => exact iff_of_true (isOpen_ask hopen a) id
  | start a =>
    refine iff_of_true ?_ id
    rw [step]
    split
    · exact isOpen_add hopen _
    · exact hopen
  | begin j =>
    refine iff_of_true ?_ id
    obtain rfl | hne := eq_or_ne i j
    · refine hself.2 (Bool.eq_false_iff.1 ?_)
      rwa [Service.isClosed, Service.begin_correlator]
    · exact hother hne
  | shutdown j =>
    obtain rfl | hne := eq_or_ne i j
    · exact hself.trans (not_congr (iff_of_true s.isClosed_shutdown rfl))
    · exact iff_of_true (hother hne) hne
  | lose j =>
    obtain rfl | hne := eq_or_ne i j
    · refine hself.trans (not_congr ?_)
      rw [Service.isClosed_lose (hall i s hs) hclosed]
      simp [Closes, hs]
    · exact iff_of_true (hother hne) fun h => hne h.1
  | work j e =>
    obtain rfl | hne := eq_or_ne i j
    · refine hself.trans (not_congr ((Service.isClosed_work hclosed e).trans ?_))
      cases e <;> simp [Closes, hs]
    · refine iff_of_true (hother hne) ?_
      cases e <;> simp [Closes, hne]

/-! ## Between two questions -/

theorem ask_found (hshared : r.shared = some i) (hopen : r.isOpen i) (a : Attempt) :
    r.ask a = (r, .ok i) := by
  have hasked := asked r a
  generalize r.ask a = asked at hasked
  cases hasked with
  | found hshared' =>
    obtain rfl := Option.some.inj (hshared.symm.trans hshared')
    rfl
  | failed hvacant => exact absurd hopen (hvacant i hshared)
  | started hvacant => exact absurd hopen (hvacant i hshared)

def Spares (r : Registry) (i : Nat) : List Event → Prop
  | [] => True
  | e :: events => ¬ r.Closes i e ∧ (r.step e).1.Spares i events

/-- The open service in the shared place stays there and open until an event closes it. -/
theorem run_found {events : List Event} (hall : r.IsAttended) (hshared : r.shared = some i)
    (hopen : r.isOpen i) (h : r.Spares i events) :
    (r.run events).1.shared = some i ∧ (r.run events).1.isOpen i := by
  induction events generalizing r with
  | nil => exact ⟨hshared, hopen⟩
  | cons e events ih =>
    have hopen' := (isOpen_step_iff hall hopen e).2 h.1
    refine ih (hall.step e) ?_ hopen' h.2
    by_cases hask : ∃ a, e = .ask a
    · obtain ⟨a, rfl⟩ := hask
      rw [step, ask_found hshared hopen]
      exact hshared
    · exact (step_shared fun a ha => hask ⟨a, ha⟩).1.trans hshared

theorem run_shared {events : List Event} (h : ∀ e ∈ events, ∀ a, e ≠ .ask a) :
    (r.run events).1.shared = r.shared := by
  induction events generalizing r with
  | nil => rfl
  | cons e events ih =>
    rw [run, ih fun e' he' => h e' (List.mem_cons_of_mem e he')]
    exact (step_shared (h e List.mem_cons_self)).1

theorem ask_empty (hshared : r.shared = none) (a : Attempt) :
    (r.ask a).2 = (Service.start a).map fun _ => r.services.length := by
  have hasked := asked r a
  generalize r.ask a = asked at hasked
  cases hasked with
  | found hshared' => cases hshared.symm.trans hshared'
  | failed _ ha => rw [ha]; rfl
  | started _ ha => rw [ha]; rfl

theorem Asked.found_after {answer : Except Error Nat} (h : Asked r a (r', answer))
    (hi : answer = .ok i) : r'.shared = some i ∧ r'.isOpen i := by
  subst hi
  cases h with
  | found hshared hopen => exact ⟨hshared, hopen⟩
  | @started s _ hs =>
    have hs' : (r.evict.services ++ [s])[r.services.length]? = some s := by
      rw [← evict_length r, List.getElem?_concat_length]
    exact ⟨rfl, isOpen_iff.2 ⟨s, hs', (Service.start_ok hs).1⟩⟩

theorem ask_ne_of_closed (hi : i < r.services.length) (hclosed : ¬ r.isOpen i) (a : Attempt) :
    (r.ask a).2 ≠ .ok i := by
  have hasked := asked r a
  generalize r.ask a = asked at hasked
  cases hasked with
  | found _ hopen =>
    rintro ⟨⟩
    exact hclosed hopen
  | failed => exact nofun
  | started =>
    rintro ⟨⟩
    exact Nat.lt_irrefl _ hi

end Registry

end NetWatch.Icmp
