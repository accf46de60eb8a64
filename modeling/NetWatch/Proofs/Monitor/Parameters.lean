import NetWatch.Program.ServicePoll
import NetWatch.Proofs.Text.Blank
import NetWatch.Proofs.Text.Numeral

/-!
# What parameters hold

`IsAssignment` says which texts give a key a value, and `IsLast` which value a key has after some
were given: that of the last pair with the key. Parameters hold just these values
(`get?_ofList_eq_some_iff`), whether they come from texts or pair by pair, and a number is read
under a key if the value there is a numeral of the right range; else the default is (`Gives`).
-/

namespace NetWatch

section

variable {f : α → Except ε β} {a : α} {as : List α} {b : β} {bs : List β} {e : ε}

theorem exceptMap_eq_ok_iff {x : Except ε α} {g : α → β} :
    x.map g = .ok b ↔ ∃ a, x = .ok a ∧ b = g a := by
  cases x <;> simp [Except.map, eq_comm]

theorem exceptMap_eq_error_iff {x : Except ε α} {g : α → β} :
    x.map g = .error e ↔ x = .error e := by
  cases x <;> simp [Except.map]

theorem mapM_cons_of_ok (h : f a = .ok b) : (a :: as).mapM f = (as.mapM f).map (b :: ·) := by
  rw [List.mapM_cons, h]
  rfl

theorem mapM_cons_of_error (h : f a = .error e) : (a :: as).mapM f = .error e := by
  rw [List.mapM_cons, h]
  rfl

theorem mapM_eq_ok_iff : as.mapM f = .ok bs ↔ List.Forall₂ (fun a b => f a = .ok b) as bs := by
  induction as generalizing bs with
  | nil =>
    rw [List.mapM_nil, List.forall₂_nil_left_iff]
    exact ⟨fun h => (Except.ok.inj h).symm, fun h => h ▸ rfl⟩
  | cons a as ih =>
    rw [List.forall₂_cons_left_iff]
    cases ha : f a with
    | error e =>
      rw [mapM_cons_of_error ha]
      exact ⟨nofun, by rintro ⟨b, _, ⟨⟩, -⟩⟩
    | ok b =>
      simp only [mapM_cons_of_ok ha, exceptMap_eq_ok_iff, ih, Except.ok.injEq]
      constructor
      · rintro ⟨bs, hbs, rfl⟩
        exact ⟨b, bs, rfl, hbs, rfl⟩
      · rintro ⟨_, bs, rfl, hbs, rfl⟩
        exact ⟨bs, hbs, rfl⟩

theorem mapM_eq_error_iff : as.mapM f = .error e ↔ ∃ before a after, as = before ++ a :: after ∧
    (∀ b ∈ before, ∃ c, f b = .ok c) ∧ f a = .error e := by
  induction as with
  | nil => exact ⟨nofun, by rintro ⟨_ | _, _, _, ⟨⟩, _⟩⟩
  | cons a as ih =>
    cases ha : f a with
    | error e' =>
      rw [mapM_cons_of_error ha]
      constructor
      · rintro ⟨⟩
        exact ⟨[], a, as, rfl, nofun, ha⟩
      · rintro ⟨_ | ⟨b, before⟩, c, after, heq, hbefore, hc⟩
        · obtain ⟨rfl, -⟩ := List.cons.inj heq
          cases ha.symm.trans hc
          rfl
        · obtain ⟨rfl, -⟩ := List.cons.inj heq
          obtain ⟨c, hok⟩ := hbefore _ List.mem_cons_self
          rw [ha] at hok
          cases hok
    | ok b =>
      rw [mapM_cons_of_ok ha, exceptMap_eq_error_iff, ih]
      constructor
      · rintro ⟨before, c, after, rfl, hbefore, hc⟩
        exact ⟨a :: before, c, after, rfl, List.forall_mem_cons.2 ⟨⟨b, ha⟩, hbefore⟩, hc⟩
      · rintro ⟨_ | ⟨d, before⟩, c, after, heq, hbefore, hc⟩
        · obtain ⟨rfl, -⟩ := List.cons.inj heq
          rw [ha] at hc
          cases hc
        · obtain ⟨rfl, rfl⟩ := List.cons.inj heq
          exact ⟨before, c, after, rfl, (List.forall_mem_cons.1 hbefore).2, hc⟩

theorem exists_forall₂_iff {r : α → β → Prop} :
    (∃ bs, List.Forall₂ r as bs) ↔ ∀ a ∈ as, ∃ b, r a b := by
  induction as with
  | nil => simp
  | cons a as ih =>
    rw [List.forall_mem_cons, ← ih]
    constructor
    · rintro ⟨_, _ | ⟨hb, hbs⟩⟩
      exact ⟨⟨_, hb⟩, _, hbs⟩
    · rintro ⟨⟨b, hb⟩, bs, hbs⟩
      exact ⟨_, .cons hb hbs⟩

end

namespace Monitor.Parameters

open Program (ServicePoll)
open Text

/-! ## Assignments -/

/-- The text gives `key` the value `value`: they stand before and behind its first `=`, but for the
blanks at their ends, and the key is not all blank. -/
def IsAssignment (s key value : String) : Prop :=
  ∃ left right : List Char, s.toList = left ++ '=' :: right ∧ '=' ∉ left ∧
    (∃ c ∈ left, isBlank c = false) ∧
    key = String.ofList (trim left) ∧ value = String.ofList (trim right)

/-- The text gives some key a value: there is an `=` in it, and not only blanks before the first. -/
def IsAssigning (s : String) : Prop :=
  ∃ left right : List Char, s.toList = left ++ '=' :: right ∧ '=' ∉ left ∧
    ∃ c ∈ left, isBlank c = false

def IsFirstBad (texts : List String) (s : String) : Prop :=
  ∃ before after, texts = before ++ s :: after ∧ (∀ t ∈ before, IsAssigning t) ∧ ¬ IsAssigning s

variable {s key value : String} {p : Parameters} {pairs : List (String × String)} {e : Error}

theorem isAssigning_iff : IsAssigning s ↔ ∃ kv : String × String, IsAssignment s kv.1 kv.2 := by
  constructor
  · rintro ⟨left, right, hs, hleft, hkey⟩
    exact ⟨(_, _), left, right, hs, hleft, hkey, rfl, rfl⟩
  · rintro ⟨_, left, right, hs, hleft, hkey, -, -⟩
    exact ⟨left, right, hs, hleft, hkey⟩

theorem exists_not_isBlank_iff {cs : List Char} :
    (∃ c ∈ cs, isBlank c = false) ↔ trim cs ≠ [] := by
  simp [trim_eq_nil_iff]

/-- A text with an `=` in it is cut at the first. -/
theorem parseAssignment_of_split {left right : List Char} (hs : s.toList = left ++ '=' :: right)
    (hleft : '=' ∉ left) : parseAssignment s =
      if trim left = [] then .error (.invalidArgument (.notAssignment s))
      else .ok (String.ofList (trim left), String.ofList (trim right)) := by
  have hall : ∀ c ∈ left, (decide (c ≠ '=')) = true := fun c hc =>
    decide_eq_true fun heq => hleft (heq ▸ hc)
  simp only [parseAssignment, hs]
  rw [List.takeWhile_append_of_pos hall, List.dropWhile_append_of_pos hall]
  simp [List.isEmpty_iff]

theorem parseAssignment_of_not_mem (h : '=' ∉ s.toList) :
    parseAssignment s = .error (.invalidArgument (.notAssignment s)) := by
  have hall : ∀ c ∈ s.toList, (decide (c ≠ '=')) = true := fun c hc =>
    decide_eq_true fun heq => h (heq ▸ hc)
  simp only [parseAssignment, List.dropWhile_eq_nil_iff.2 hall]

theorem parseAssignment_of_isAssignment (h : IsAssignment s key value) :
    parseAssignment s = .ok (key, value) := by
  obtain ⟨left, right, hs, hleft, hkey, rfl, rfl⟩ := h
  rw [parseAssignment_of_split hs hleft, if_neg (exists_not_isBlank_iff.1 hkey)]

theorem parseAssignment_of_not_isAssigning (h : ¬ IsAssigning s) :
    parseAssignment s = .error (.invalidArgument (.notAssignment s)) := by
  by_cases hmem : '=' ∈ s.toList
  · obtain ⟨left, right, hs, hleft⟩ := List.eq_append_cons_of_mem hmem
    rw [parseAssignment_of_split hs hleft, if_pos]
    exact by_contra fun hkey => h ⟨left, right, hs, hleft, exists_not_isBlank_iff.2 hkey⟩
  · exact parseAssignment_of_not_mem hmem

theorem parseAssignment_eq_ok_iff {kv : String × String} :
    parseAssignment s = .ok kv ↔ IsAssignment s kv.1 kv.2 := by
  refine ⟨fun h => ?_, parseAssignment_of_isAssignment⟩
  by_cases hassigning : IsAssigning s
  · obtain ⟨kv', hkv'⟩ := isAssigning_iff.1 hassigning
    rw [parseAssignment_of_isAssignment hkv'] at h
    cases h
    exact hkv'
  · rw [parseAssignment_of_not_isAssigning hassigning] at h
    cases h

theorem parseAssignment_eq_error_iff :
    parseAssignment s = .error e ↔ ¬ IsAssigning s ∧ e = .invalidArgument (.notAssignment s) := by
  by_cases hassigning : IsAssigning s
  · obtain ⟨kv, hkv⟩ := isAssigning_iff.1 hassigning
    rw [parseAssignment_of_isAssignment hkv]
    exact ⟨nofun, fun h => absurd hassigning h.1⟩
  · rw [parseAssignment_of_not_isAssigning hassigning, Except.error.injEq, eq_comm]
    exact (and_iff_right hassigning).symm

/-! ## What is held -/

def IsLast (pairs : List (String × String)) (key value : String) : Prop :=
  ∃ before after, pairs = before ++ (key, value) :: after ∧ ∀ kv ∈ after, kv.1 ≠ key

theorem IsLast.mem (h : IsLast pairs key value) : (key, value) ∈ pairs := by
  obtain ⟨before, after, rfl, -⟩ := h
  exact List.mem_append_right _ List.mem_cons_self

theorem isLast_iff_find? :
    IsLast pairs key value ↔ pairs.reverse.find? (·.1 = key) = some (key, value) := by
  rw [List.find?_eq_some_iff_append]
  constructor
  · rintro ⟨before, after, rfl, hafter⟩
    exact ⟨by simp, after.reverse, before.reverse, by simp, by simpa using hafter⟩
  · rintro ⟨-, after, before, hpairs, hafter⟩
    rw [List.reverse_eq_iff, List.reverse_append, List.reverse_cons, List.append_assoc] at hpairs
    exact ⟨before.reverse, after.reverse, hpairs, by simpa using hafter⟩

theorem isLast_concat_iff {k v : String} : IsLast (pairs ++ [(k, v)]) key value ↔
    if k = key then v = value else IsLast pairs key value := by
  rw [isLast_iff_find?, isLast_iff_find?, List.reverse_append, List.reverse_singleton,
    List.singleton_append]
  by_cases hk : k = key <;> simp [hk]

theorem get?_insert (p : Parameters) (key k v : String) :
    (p.insert k v).get? key = if k = key then some v else p.get? key := by
  have hfind : (p.entries.filter (·.1 ≠ k)).find? (·.1 = key) =
      if k = key then none else p.entries.find? (·.1 = key) := by
    rw [List.find?_filter]
    split
    · next hk => simp [hk]
    · next hk =>
      refine congrArg (List.find? · p.entries) (funext fun kv => ?_)
      by_cases hkv : kv.1 = key <;> simp [hkv, Ne.symm hk]
  rw [get?, insert, List.find?_append, hfind]
  split
  · next hk => simp [hk]
  · next hk => simp [hk, get?]

theorem insertAll_ofList (pairs more : List (String × String)) :
    (ofList pairs).insertAll more = ofList (pairs ++ more) := by
  rw [ofList, ofList, insertAll, insertAll, insertAll, List.foldl_append]

theorem ofList_concat (pairs : List (String × String)) (k v : String) :
    ofList (pairs ++ [(k, v)]) = (ofList pairs).insert k v :=
  (insertAll_ofList pairs [(k, v)]).symm

theorem get?_ofList_eq_some_iff :
    (ofList pairs).get? key = some value ↔ IsLast pairs key value := by
  induction pairs using List.reverseRecOn with
  | nil => exact ⟨nofun, by rintro ⟨_ | _, _, ⟨⟩, _⟩⟩
  | append_singleton pairs kv ih =>
    rw [ofList_concat, get?_insert, isLast_concat_iff, ← ih]
    split <;> simp

theorem keys_insert (p : Parameters) (k v : String) :
    (p.insert k v).entries.map Prod.fst = (p.entries.map Prod.fst).filter (· ≠ k) ++ [k] := by
  rw [insert, List.map_append, List.filter_map]
  rfl

/-- Each key that was given stands once among the entries, and no other does. -/
theorem keys_ofList (pairs : List (String × String)) :
    ((ofList pairs).entries.map Prod.fst).Nodup ∧
      ((ofList pairs).entries.map Prod.fst).toFinset = (pairs.map Prod.fst).toFinset := by
  induction pairs using List.reverseRecOn with
  | nil => exact ⟨.nil, rfl⟩
  | append_singleton pairs kv ih =>
    obtain ⟨hnodup, hkeys⟩ := ih
    rw [ofList_concat, keys_insert, List.map_append, List.toFinset_append, List.toFinset_append,
      ← hkeys]
    constructor
    · exact (hnodup.filter _).append (List.nodup_singleton _) (by simp)
    · ext key
      by_cases hkey : key = kv.1 <;> simp [hkey]

theorem size_ofList (pairs : List (String × String)) :
    (ofList pairs).size = (pairs.map Prod.fst).toFinset.card := by
  obtain ⟨hnodup, hkeys⟩ := keys_ofList pairs
  rw [← hkeys, List.toFinset_card_of_nodup hnodup, List.length_map, size]

theorem foldlM_eq (p : Parameters) (assignments : List String) :
    assignments.foldlM (fun p s => do
      let (key, value) ← parseAssignment s
      return p.insert key value) p = (assignments.mapM parseAssignment).map p.insertAll := by
  induction assignments generalizing p with
  | nil => rfl
  | cons s assignments ih =>
    rw [List.foldlM_cons]
    cases hs : parseAssignment s with
    | error e =>
      rw [mapM_cons_of_error hs]
      rfl
    | ok kv =>
      rw [mapM_cons_of_ok hs]
      refine (ih _).trans ?_
      cases assignments.mapM parseAssignment <;> rfl

theorem ofAssignments_eq (assignments : List String) :
    ofAssignments assignments = (assignments.mapM parseAssignment).map ofList :=
  foldlM_eq empty assignments

/-! ## Numbers -/

/-- `read` gives the number that the last value under the key stands for, but for the blanks at its
ends, or the default if it stands for none. -/
def Gives (pairs : List (String × String)) (key : String) (IsNumber : List Char → α → Prop)
    (read : α → α) : Prop :=
  ∀ default,
    (∀ n value, IsLast pairs key value → IsNumber (trim value.toList) n → read default = n) ∧
    ((∀ n value, IsLast pairs key value → ¬ IsNumber (trim value.toList) n) →
      read default = default)

variable {IsNumber : List Char → α → Prop} {read : α → α} {number? : List Char → Option α}

theorem gives_of_get? (hread : ∀ default, read default =
      ((((ofList pairs).get? key).bind fun value => number? (trim value.toList)).getD default))
    (hnumber : ∀ cs n, number? cs = some n ↔ IsNumber cs n) : Gives pairs key IsNumber read := by
  intro default
  constructor
  · intro n value hlast hn
    rw [hread, get?_ofList_eq_some_iff.2 hlast, Option.bind_some, (hnumber _ n).2 hn]
    rfl
  · intro hnone
    have hread' :
        (((ofList pairs).get? key).bind fun value => number? (trim value.toList)) = none :=
      Option.bind_eq_none_iff.2 fun value hvalue => Option.eq_none_iff_forall_ne_some.2 fun n hn =>
        hnone n value (get?_ofList_eq_some_iff.1 hvalue) ((hnumber _ n).1 hn)
    rw [hread, hread']
    rfl

theorem gives_retry (pairs : List (String × String)) :
    Gives pairs "retry" (fun cs (n : UInt32) => IsNumeral cs n.toNat) (ofList pairs).retry := by
  refine gives_of_get? (fun default => ?_) fun cs n =>
    map_natural?_eq_some_iff UInt32.toNat_lt_size (fun _ => UInt32.ofNat_toNat)
      UInt32.toNat_ofNat_of_lt'
  rw [retry, natural?]
  cases (ofList pairs).get? "retry" <;> rfl

theorem gives_port (pairs : List (String × String)) :
    Gives pairs "port" (fun cs (n : UInt16) => IsNumeral cs n.toNat) (ofList pairs).port := by
  refine gives_of_get? (fun default => ?_) fun cs n =>
    map_natural?_eq_some_iff UInt16.toNat_lt_size (fun _ => UInt16.ofNat_toNat)
      UInt16.toNat_ofNat_of_lt'
  rw [port, natural?]
  cases (ofList pairs).get? "port" <;> rfl

theorem gives_timeout (pairs : List (String × String)) :
    Gives pairs "timeout" (fun cs n => IsNumeral cs n ∧ n < UInt64.size) (ofList pairs).timeout :=
  gives_of_get? (fun _ => rfl) fun _ _ => natural?_eq_some_iff

theorem gives_int (pairs : List (String × String)) (key : String) :
    Gives pairs key (fun cs n => IsInteger cs n ∧ -2 ^ 63 ≤ n ∧ n < 2 ^ 63)
      ((ofList pairs).int key) :=
  gives_of_get? (fun _ => rfl) fun _ _ => int64?_eq_some_iff

/-! ## Main statement -/

theorem setting_eq_ok_iff {kv : String × String} :
    ServicePoll.setting s = .ok kv ↔ IsAssignment s kv.1 kv.2 := by
  rw [← parseAssignment_eq_ok_iff, ServicePoll.setting]
  cases parseAssignment s <;> simp [Except.mapError]

theorem setting_eq_error_iff {text : String} : ServicePoll.setting s = .error text ↔
    ¬ IsAssigning s ∧ text = (Error.invalidArgument (.notAssignment s)).message := by
  have hsetting : ServicePoll.setting s = .error text ↔
      ∃ e, parseAssignment s = .error e ∧ text = e.message := by
    rw [ServicePoll.setting]
    cases parseAssignment s <;> simp [Except.mapError, eq_comm]
  simp only [hsetting, parseAssignment_eq_error_iff, and_assoc, exists_and_left, exists_eq_left]

/-- Texts are read one by one, so that the first bad one decides. -/
theorem mapM_eq_error_iff_isFirstBad {read : String → Except ε (String × String)}
    {message : String → ε}
    (hok : ∀ s kv, read s = .ok kv ↔ IsAssignment s kv.1 kv.2)
    (herror : ∀ s e, read s = .error e ↔ ¬ IsAssigning s ∧ e = message s)
    {assignments : List String} {e : ε} :
    assignments.mapM read = .error e ↔ ∃ s, IsFirstBad assignments s ∧ e = message s := by
  simp only [mapM_eq_error_iff, hok, ← isAssigning_iff, herror, IsFirstBad]
  constructor
  · rintro ⟨before, s, after, rfl, hbefore, hbad, rfl⟩
    exact ⟨s, ⟨before, after, rfl, hbefore, hbad⟩, rfl⟩
  · rintro ⟨s, ⟨before, after, rfl, hbefore, hbad⟩, rfl⟩
    exact ⟨before, s, after, rfl, hbefore, hbad, rfl⟩

theorem ofAssignments_eq_ok_iff {assignments : List String} : ofAssignments assignments = .ok p ↔
    ∃ pairs, List.Forall₂ (fun s kv => IsAssignment s kv.1 kv.2) assignments pairs ∧
      p = ofList pairs := by
  simp only [ofAssignments_eq, exceptMap_eq_ok_iff, mapM_eq_ok_iff, parseAssignment_eq_ok_iff]

/-- What comes of texts and of pairs.

- Texts make parameters just if each gives a key a value.
- They make those of the pairs that they stand for, in order.
- Else the error is about the first bad one.
- Read as settings of a poll they make the same parameters.
- Or else the error is about the same text, in the words of the error.
- Pairs make parameters that hold the last value of each key and no other, one for each key; and
  what is read as a number is the number that the last value under its key stands for, within the
  range of the reader, or else the default. -/
theorem settings_of_assignments (assignments : List String) :
    ((∃ p, ofAssignments assignments = .ok p) ↔ ∀ s ∈ assignments, IsAssigning s) ∧
    (∀ p, ofAssignments assignments = .ok p ↔
      ∃ pairs, List.Forall₂ (fun s kv => IsAssignment s kv.1 kv.2) assignments pairs ∧
        p = ofList pairs) ∧
    (∀ e, ofAssignments assignments = .error e ↔
      ∃ s, IsFirstBad assignments s ∧ e = .invalidArgument (.notAssignment s)) ∧
    (∀ p, (assignments.mapM ServicePoll.setting).map ofList = .ok p ↔
      ofAssignments assignments = .ok p) ∧
    (∀ text, assignments.mapM ServicePoll.setting = .error text ↔
      ∃ s, IsFirstBad assignments s ∧
        text = (Error.invalidArgument (.notAssignment s)).message) ∧
    ∀ pairs more, let p := (ofList pairs).insertAll more
      (∀ key value, p.get? key = some value ↔ IsLast (pairs ++ more) key value) ∧
      p.size = ((pairs ++ more).map Prod.fst).toFinset.card ∧
      Gives (pairs ++ more) "retry" (fun cs (n : UInt32) => IsNumeral cs n.toNat) p.retry ∧
      Gives (pairs ++ more) "port" (fun cs (n : UInt16) => IsNumeral cs n.toNat) p.port ∧
      Gives (pairs ++ more) "timeout" (fun cs n => IsNumeral cs n ∧ n < UInt64.size) p.timeout ∧
      ∀ key, Gives (pairs ++ more) key (fun cs n => IsInteger cs n ∧ -2 ^ 63 ≤ n ∧ n < 2 ^ 63)
        (p.int key) := by
  refine ⟨?_, fun p => ofAssignments_eq_ok_iff, fun e => ?_, fun p => ?_, fun text => ?_,
    fun pairs more => ?_⟩
  · simp only [isAssigning_iff, ← exists_forall₂_iff, ofAssignments_eq_ok_iff]
    exact ⟨fun ⟨_, pairs, hpairs, _⟩ => ⟨pairs, hpairs⟩,
      fun ⟨pairs, hpairs⟩ => ⟨_, pairs, hpairs, rfl⟩⟩
  · rw [ofAssignments_eq, exceptMap_eq_error_iff]
    exact mapM_eq_error_iff_isFirstBad (fun _ _ => parseAssignment_eq_ok_iff)
      fun _ _ => parseAssignment_eq_error_iff
  · simp only [ofAssignments_eq_ok_iff, exceptMap_eq_ok_iff, mapM_eq_ok_iff, setting_eq_ok_iff]
  · exact mapM_eq_error_iff_isFirstBad (fun _ _ => setting_eq_ok_iff)
      fun _ _ => setting_eq_error_iff
  · rw [insertAll_ofList]
    exact ⟨fun _ _ => get?_ofList_eq_some_iff, size_ofList _, gives_retry _, gives_port _,
      gives_timeout _, gives_int _⟩

/-- The second value of a key counts, with its sign; a further `=` belongs to the value. A key of
blanks is the first that is wrong. -/
theorem settings_of_assignments_overridden :
    (∃ p, ofAssignments ["retry=1", " retry = +3 ", "note=a=b"] = .ok p ∧
      p.get? "note" = some "a=b" ∧ p.size = 2 ∧ p.retry 0 = 3 ∧ p.port 110 = 110) ∧
    ofAssignments ["retry=1", " =5", "note"] =
      .error (.invalidArgument (.notAssignment " =5")) := by
  have hpairs : List.Forall₂ (fun s (kv : String × String) => IsAssignment s kv.1 kv.2)
      ["retry=1", " retry = +3 ", "note=a=b"] [("retry", "1"), ("retry", "+3"), ("note", "a=b")] :=
    .cons (parseAssignment_eq_ok_iff.1 rfl) (.cons (parseAssignment_eq_ok_iff.1 rfl)
      (.cons (parseAssignment_eq_ok_iff.1 rfl) .nil))
  obtain ⟨-, hok, -, -, -, hheld⟩ :=
    settings_of_assignments ["retry=1", " retry = +3 ", "note=a=b"]
  obtain ⟨-, -, herror, -, -, -⟩ := settings_of_assignments ["retry=1", " =5", "note"]
  obtain ⟨hget, hsize, hretry, hport, -, -⟩ :=
    hheld [("retry", "1")] [("retry", "+3"), ("note", "a=b")]
  have hread : Text.natural? UInt32.size (trim "+3".toList) = some 3 := by decide +kernel
  have hthree : IsNumeral (trim "+3".toList) (3 : UInt32).toNat := (natural?_eq_some_iff.1 hread).1
  refine ⟨⟨_, (hok _).2 ⟨_, hpairs, rfl⟩, ?_, hsize, ?_, ?_⟩,
    (herror _).2 ⟨_, ⟨["retry=1"], ["note"], rfl, ?_, ?_⟩, rfl⟩⟩
  · exact (hget _ _).2 ⟨[("retry", "1"), ("retry", "+3")], [], rfl, nofun⟩
  · exact (hretry 0).1 3 "+3" ⟨[("retry", "1")], [("note", "a=b")], rfl, by decide⟩ hthree
  · exact (hport 110).2 fun n value hlast => absurd hlast.mem (by simp)
  · exact List.forall_mem_singleton.2 (isAssigning_iff.2 ⟨_, parseAssignment_eq_ok_iff.1 rfl⟩)
  · exact (parseAssignment_eq_error_iff.1 rfl).1

end Monitor.Parameters

end NetWatch
