import RideTheApi.Py.IpAddress
import RideTheApi.Traffic.Selector

/-!
# `Traffic.SelectorSafety` — the rules stay a priority list

An update that is refused puts back the match fields only. `kept_of_guarded`: in a run where a refused update changed
nothing else, no update raises, priorities stay numbers and the enumerated fields get members, the rules stay sorted,
`evaluate` gives the action of a highest rule that matches, and a failed update leaves every rule as it was.
-/

namespace RideTheApi.Traffic

open Py Transition

variable {N : Type} {M : Matchers N}

/-! ## The property -/

/-- The priority of `a` is lower than that of `b`. -/
def Below (a b : Rule N) : Prop := ∃ p q, a.priority.number = some p ∧ b.priority.number = some q ∧ p < q

/-- Sorted by descending priority. -/
def Descending (rules : List (Rule N)) : Prop :=
  rules.Pairwise fun a b => ∃ p q, a.priority.number = some p ∧ b.priority.number = some q ∧ q ≤ p

/-- `evaluate` returns the action of a rule that matches and that no other rule that matches is above, or, where none
    matches, the default action. -/
def AnswersFirst (M : Matchers N) (s : Selector N) (req : RequestInfo) : Prop :=
  (∃ r ∈ s.rules, definitionMatches M r req = true ∧
      (∀ r' ∈ s.rules, definitionMatches M r' req = true → ¬ Below r r') ∧ evaluate M s req = some r.action) ∨
    ((∀ r ∈ s.rules, definitionMatches M r req = false) ∧ evaluate M s req = some (.action s.defaultAction))

/-- The rules are a priority list, and `evaluate` goes by it. -/
def Sound (M : Matchers N) (s : Selector N) : Prop := Descending s.rules ∧ ∀ req, AnswersFirst M s req

/-- What a call owes: a sound selector, and after an update that returns `False` or raises every rule as it was. -/
def Kept (M : Matchers N) (s : Selector N) (c : Call N) : Prop :=
  Sound M (call M s c).1 ∧
    match c with
    | .updateRule _ _ => (call M s c).2 ≠ .returned true → (call M s c).1.rules = s.rules
    | _ => True

/-! ## The condition -/

/-- The scope and the match type are members where they are equal to one, and the action is a member. -/
def WellTyped (r : Rule N) : Prop :=
  (r.scope.isLocal = true → r.scope = .scope .local_) ∧ (∀ m, r.matchType.kind = some m → r.matchType = .matchType m) ∧
    r.action.hasValue = true

/-- An added rule that compiles is well typed and leaves the priorities ordered. An update that does not compile
    changes nothing but the match fields and is refused, not raised; one that goes through leaves a well-typed rule,
    and the priorities ordered where it gives one. -/
def Guarded (M : Matchers N) (s : Selector N) : Call N → Prop
  | .addRule rule => (recompile M rule).2 = none → WellTyped rule ∧ Orderly (s.rules ++ [rule])
  | .removeRule _ => True
  | .updateRule name kwargs =>
    match findRule name s.rules with
    | none => True
    | some (before, old, after) =>
      let rule := setFields old kwargs
      if touchesMatch kwargs = true ∧ (recompile M rule).2 = some .valueError then
        { rule with matchType := old.matchType, matchValue := old.matchValue } = old
      else
        (touchesMatch kwargs = true → (recompile M rule).2 = none) ∧ WellTyped rule ∧
          (touchesPriority kwargs = true → Orderly (before ++ rule :: after))

/-! ## Compiling -/

theorem kind_matchType (m : MatchType) : (Val.matchType m).kind = some m := by
  cases m <;> decide

/-- A compilation that goes through leaves the fields, and what it compiles to comes from the match fields alone. -/
theorem recompile_ok {r r' : Rule N} (h : recompile M r = (r', none)) :
    ∃ c, r' = { r with compiled := c } ∧
      ∀ q : Rule N, q.matchType = r.matchType → q.matchValue = r.matchValue →
        recompile M q = ({ q with compiled := c }, none) := by
  unfold recompile at h ⊢
  cases hlow : lowerOf M r.matchValue with
  | none => simp [hlow] at h
  | some low =>
    simp only [hlow] at h
    cases hkind : r.matchType.kind with
    | none =>
      simp only [hkind] at h
      cases h
      exact ⟨_, rfl, fun q ht hv => by simp only [ht, hv, hlow, hkind]⟩
    | some m =>
      cases m with
      | cidr =>
        simp only [hkind] at h
        cases hnet : networkOf M r.matchValue with
        | none => simp [hnet] at h
        | some net =>
          simp only [hnet] at h
          cases h
          exact ⟨_, rfl, fun q ht hv => by simp only [ht, hv, hlow, hkind, hnet]⟩
      | hostname =>
        simp only [hkind] at h
        cases hpat : patternOf r.matchValue with
        | none => simp [hpat] at h
        | some pattern =>
          simp only [hpat] at h
          cases h
          exact ⟨_, rfl, fun q ht hv => by simp only [ht, hv, hlow, hkind, hpat]⟩
      | vendor =>
        simp only [hkind] at h
        cases h
        exact ⟨_, rfl, fun q ht hv => by simp only [ht, hv, hlow, hkind]⟩
      | deviceId =>
        simp only [hkind] at h
        cases h
        exact ⟨_, rfl, fun q ht hv => by simp only [ht, hv, hlow, hkind]⟩

/-- However a compilation ends, it touches no field. -/
theorem recompile_fields (r : Rule N) : ∃ c, (recompile M r).1 = { r with compiled := c } := by
  unfold recompile
  split
  · exact ⟨_, rfl⟩
  · split
    · split <;> exact ⟨_, rfl⟩
    · split <;> exact ⟨_, rfl⟩
    · exact ⟨_, rfl⟩

/-! ## The invariant -/

/-- The rule is compiled and well typed. -/
def Settled (M : Matchers N) (r : Rule N) : Prop := recompile M r = (r, none) ∧ WellTyped r

/-- The rules are ordered, sorted and settled. -/
structure Inv (M : Matchers N) (s : Selector N) : Prop where
  orderly    : Orderly s.rules
  descending : Descending s.rules
  settled    : ∀ r ∈ s.rules, Settled M r

/-- A rule that has just been compiled is settled. -/
theorem settled_of_recompile {r r' : Rule N} (h : recompile M r = (r', none)) (hwell : WellTyped r) :
    Settled M r' := by
  obtain ⟨c, rfl, hagain⟩ := recompile_ok h
  exact ⟨hagain _ rfl rfl, hwell⟩

/-- A rule whose match fields and compilation are those of a settled rule. -/
theorem Settled.of_match_eq {r q : Rule N} (h : Settled M r) (ht : q.matchType = r.matchType)
    (hv : q.matchValue = r.matchValue) (hc : q.compiled = r.compiled) (hwell : WellTyped q) : Settled M q := by
  obtain ⟨c, hr, hagain⟩ := recompile_ok h.1
  refine ⟨?_, hwell⟩
  have hcq : q.compiled = c := by rw [hc, hr]
  rw [hagain q ht hv, ← hcq]

theorem matches_eq {r : Rule N} (h : Settled M r) (req : RequestInfo) :
    ruleMatches M r req = definitionMatches M r req := by
  obtain ⟨hcompiled, hscope, htype, -⟩ := h
  have hs : (r.scope == .scope .local_) = r.scope.isLocal := by
    cases hl : r.scope.isLocal with
    | true => rw [hscope hl, beq_self_eq_true]
    | false =>
      refine beq_eq_false_iff_ne.mpr fun heq => ?_
      rw [heq] at hl
      exact absurd hl (by decide)
  unfold ruleMatches definitionMatches
  rw [hs, hcompiled]
  congr 1
  cases hk : r.matchType.kind with
  | some m => rw [htype m hk]
  | none =>
    cases hm : r.matchType with
    | matchType m =>
      rw [hm, kind_matchType] at hk
      cases hk
    | _ => rfl

/-- **First match.** In a sorted list of settled rules the first that matches is a highest that does. -/
theorem Inv.sound {s : Selector N} (h : Inv M s) : Sound M s := by
  refine ⟨h.descending, fun req => ?_⟩
  have heq : ∀ r ∈ s.rules, ruleMatches M r req = definitionMatches M r req := fun r hr => matches_eq (h.settled r hr) req
  unfold AnswersFirst evaluate
  cases hfind : s.rules.find? fun r => ruleMatches M r req with
  | none =>
    right
    refine ⟨fun r hr => ?_, rfl⟩
    rw [← heq r hr]
    simpa using List.find?_eq_none.mp hfind r hr
  | some r =>
    left
    obtain ⟨hmatch, before, after, hrules, hbefore⟩ := List.find?_eq_some_iff_append.mp hfind
    have hr : r ∈ s.rules := List.mem_of_find?_eq_some hfind
    refine ⟨r, hr, heq r hr ▸ hmatch, fun r' hr' hmatch' hbelow => ?_, if_pos (h.settled r hr).2.2.2⟩
    rw [← heq r' hr'] at hmatch'
    rw [hrules] at hr'
    obtain ⟨p, q, hp, hq, hlt⟩ := hbelow
    rcases List.mem_append.mp hr' with hin | hin
    · -- no rule before it matches
      have := hbefore r' hin
      simp [hmatch'] at this
    · rcases List.mem_cons.mp hin with rfl | hin
      · rw [hp] at hq
        cases hq
        exact absurd hlt (lt_irrefl p)
      · have hdesc := h.descending
        rw [hrules, Descending, List.pairwise_append, List.pairwise_cons] at hdesc
        obtain ⟨p', q', hp', hq', hle⟩ := hdesc.2.1.1 r' hin
        rw [hp] at hp'
        rw [hq] at hq'
        cases hp'
        cases hq'
        exact absurd hlt (not_lt.mpr hle)

/-! ## Sorting -/

instance : Std.Total (NotBelow (N := N)) := ⟨fun a b => le_total (b.priority.number.getD 0) (a.priority.number.getD 0)⟩

instance : IsTrans (Rule N) (NotBelow (N := N)) := ⟨fun _ _ _ hab hbc => le_trans hbc hab⟩

/-- Ordered rules that stand in the order of the sort are sorted by descending priority. -/
theorem descending_of_pairwise {rules : List (Rule N)} (ho : Orderly rules) (h : rules.Pairwise NotBelow) :
    Descending rules := by
  rcases ho with hlen | hnum
  · cases rules with
    | nil => exact .nil
    | cons r rules =>
      cases rules with
      | nil => exact List.pairwise_singleton _ _
      | cons r' rules =>
        rw [List.length_cons, List.length_cons] at hlen
        omega
  · refine h.imp_of_mem fun {a b} ha hb hab => ?_
    obtain ⟨p, hp⟩ := Option.isSome_iff_exists.mp (hnum a ha)
    obtain ⟨q, hq⟩ := Option.isSome_iff_exists.mp (hnum b hb)
    refine ⟨p, q, hp, hq, ?_⟩
    unfold NotBelow at hab
    rwa [hp, hq] at hab

theorem Orderly.perm {rules rules' : List (Rule N)} (h : Orderly rules) (hp : rules'.Perm rules) : Orderly rules' := by
  rcases h with hlen | hnum
  · exact .inl (hp.length_eq ▸ hlen)
  · exact .inr fun r hr => hnum r (hp.mem_iff.mp hr)

/-- Only the priorities matter. -/
theorem Orderly.of_map_eq {rules rules' : List (Rule N)} (h : Orderly rules)
    (heq : rules'.map Rule.priority = rules.map Rule.priority) : Orderly rules' := by
  rcases h with hlen | hnum
  · refine .inl ?_
    rwa [← List.length_map Rule.priority, heq, List.length_map]
  · refine .inr fun r hr => ?_
    have hmem : r.priority ∈ rules.map Rule.priority := heq ▸ List.mem_map_of_mem hr
    obtain ⟨q, hq, hpq⟩ := List.mem_map.mp hmem
    exact hpq ▸ hnum q hq

/-- Sorting ordered rules does not raise and leaves them settled and sorted. -/
theorem inv_resorted {s : Selector N} (ho : Orderly s.rules) (hset : ∀ r ∈ s.rules, Settled M r) :
    Inv M (resorted M s).1 ∧ (resorted M s).2 = .returned true := by
  have hsort : sortRules M s.rules = (s.rules.insertionSort NotBelow, false) := if_pos ho
  unfold resorted
  rw [hsort]
  have hperm := s.rules.perm_insertionSort NotBelow
  refine ⟨⟨ho.perm hperm, ?_, fun r hr => hset r (hperm.mem_iff.mp hr)⟩, rfl⟩
  exact descending_of_pairwise (ho.perm hperm) (s.rules.pairwise_insertionSort NotBelow)

/-! ## The calls -/

theorem findRule_eq_some {name : Str} {rules before after : List (Rule N)} {r : Rule N}
    (h : findRule name rules = some (before, r, after)) : rules = before ++ r :: after := by
  induction rules generalizing before with
  | nil => cases h
  | cons x rules ih =>
    rw [findRule] at h
    split at h
    · cases h
      rfl
    · obtain ⟨⟨before', r', after'⟩, hfound, heq⟩ := Option.map_eq_some_iff.mp h
      cases heq
      rw [ih hfound, List.cons_append]

/-- A smaller list of rules. -/
theorem Inv.sublist {s : Selector N} (h : Inv M s) {rules : List (Rule N)} (hsub : rules.Sublist s.rules) :
    Inv M { s with rules := rules } where
  orderly := by
    rcases h.orderly with hlen | hnum
    · exact .inl (hsub.length_le.trans hlen)
    · exact .inr fun r hr => hnum r (hsub.subset hr)
  descending := h.descending.sublist hsub
  settled r hr := h.settled r (hsub.subset hr)

/-- A rule replaced by another of the same priority. -/
theorem Inv.replace {s : Selector N} {before after : List (Rule N)} {old r : Rule N} (h : Inv M s)
    (hrules : s.rules = before ++ old :: after) (hset : Settled M r) (hp : r.priority = old.priority) :
    Inv M { s with rules := before ++ r :: after } := by
  refine ⟨h.orderly.of_map_eq (by simp [hrules, hp]), ?_, fun x hx => ?_⟩
  · have hdesc := h.descending
    unfold Descending at hdesc ⊢
    rw [hrules] at hdesc
    simpa only [List.pairwise_append, List.pairwise_cons, List.mem_cons, forall_eq_or_imp, hp] using hdesc
  · rcases List.mem_append.mp hx with hx | hx
    · exact h.settled x (hrules ▸ List.mem_append_left _ hx)
    · rcases List.mem_cons.mp hx with rfl | hx
      · exact hset
      · exact h.settled x (hrules ▸ List.mem_append_right _ (List.mem_cons_of_mem _ hx))

/-- The keywords that leave a field alone. -/
theorem setFields_priority {kwargs : List (Keyword × Val)} (h : touchesPriority kwargs = false) (r : Rule N) :
    (setFields r kwargs).priority = r.priority := by
  induction kwargs generalizing r with
  | nil => rfl
  | cons kv kwargs ih =>
    obtain ⟨hkv, hrest⟩ := Bool.or_eq_false_iff.mp h
    rw [setFields, List.foldl_cons]
    refine (ih hrest _).trans ?_
    obtain ⟨k, v⟩ := kv
    cases k <;> first | rfl | exact absurd hkv (by simp)

theorem setFields_match {kwargs : List (Keyword × Val)} (h : touchesMatch kwargs = false) (r : Rule N) :
    (setFields r kwargs).matchType = r.matchType ∧ (setFields r kwargs).matchValue = r.matchValue := by
  induction kwargs generalizing r with
  | nil => exact ⟨rfl, rfl⟩
  | cons kv kwargs ih =>
    obtain ⟨hkv, hrest⟩ := Bool.or_eq_false_iff.mp h
    rw [setFields, List.foldl_cons]
    obtain ⟨ht, hv⟩ := ih hrest (setField r kv)
    refine ⟨ht.trans ?_, hv.trans ?_⟩ <;>
    · obtain ⟨k, v⟩ := kv
      cases k <;> first | rfl | exact absurd hkv (by simp)

theorem setFields_compiled (kwargs : List (Keyword × Val)) (r : Rule N) :
    (setFields r kwargs).compiled = r.compiled := by
  induction kwargs generalizing r with
  | nil => rfl
  | cons kv kwargs ih =>
    rw [setFields, List.foldl_cons]
    refine (ih _).trans ?_
    obtain ⟨k, v⟩ := kv
    cases k <;> rfl

/-- The end of an update that went through. -/
theorem inv_finishUpdate {s : Selector N} {before after : List (Rule N)} {old r : Rule N}
    {kwargs : List (Keyword × Val)} (h : Inv M s) (hrules : s.rules = before ++ old :: after) (hset : Settled M r)
    (hp : r.priority = (setFields old kwargs).priority)
    (ho : touchesPriority kwargs = true → Orderly (before ++ r :: after)) :
    Inv M (finishUpdate M { s with rules := before ++ r :: after } kwargs).1 ∧
      (finishUpdate M { s with rules := before ++ r :: after } kwargs).2 = .returned true := by
  have hall : ∀ x ∈ before ++ r :: after, Settled M x := by
    intro x hx
    rcases List.mem_append.mp hx with hx | hx
    · exact h.settled x (hrules ▸ List.mem_append_left _ hx)
    · rcases List.mem_cons.mp hx with rfl | hx
      · exact hset
      · exact h.settled x (hrules ▸ List.mem_append_right _ (List.mem_cons_of_mem _ hx))
  unfold finishUpdate
  cases ht : touchesPriority kwargs with
  | true => exact inv_resorted (ho ht) hall
  | false => exact ⟨h.replace hrules hset (hp.trans (setFields_priority ht old)), rfl⟩

/-- With the match fields put back it is the old rule, but for what is compiled again. -/
theorem rollback_eq (s : Selector N) (before after : List (Rule N)) {old rule : Rule N} (hold : Settled M old)
    (h : { rule with matchType := old.matchType, matchValue := old.matchValue, compiled := old.compiled } = old) :
    rollback M s before after old rule = ({ s with rules := before ++ old :: after }, .returned false) := by
  obtain ⟨c, hr, hagain⟩ := recompile_ok hold.1
  have hc : old.compiled = c := by rw [hr]
  have hback := hagain { rule with matchType := old.matchType, matchValue := old.matchValue } rfl rfl
  rw [← hc] at hback
  unfold rollback
  rw [hback]
  exact congrArg (fun r => (({ s with rules := before ++ r :: after } : Selector N), Answer.returned false)) h

/-- **An update.** -/
theorem inv_updateRule {s : Selector N} {name : Str} {kwargs : List (Keyword × Val)} (h : Inv M s)
    (hg : Guarded M s (.updateRule name kwargs)) :
    Inv M (updateRule M s name kwargs).1 ∧
      ((updateRule M s name kwargs).2 = .returned true ∨ (updateRule M s name kwargs).1 = s) := by
  simp only [Guarded] at hg
  unfold updateRule
  cases hfind : findRule name s.rules with
  | none => exact ⟨h, .inr rfl⟩
  | some found =>
    obtain ⟨before, old, after⟩ := found
    have hrules := findRule_eq_some hfind
    have hold : Settled M old := h.settled old (hrules ▸ List.mem_append_right _ List.mem_cons_self)
    simp only [hfind] at hg
    cases htouch : touchesMatch kwargs with
    | false =>
      simp only [htouch, Bool.false_eq_true, false_and, if_false, false_implies, true_and] at hg ⊢
      obtain ⟨ht, hv⟩ := setFields_match htouch old
      have hset := hold.of_match_eq ht hv (setFields_compiled kwargs old) hg.1
      obtain ⟨hinv, hret⟩ := inv_finishUpdate h hrules hset rfl hg.2
      exact ⟨hinv, .inl hret⟩
    | true =>
      simp only [htouch, true_and, if_true, forall_const] at hg ⊢
      obtain ⟨c, hfields⟩ := recompile_fields (M := M) (setFields old kwargs)
      rcases hrec : recompile M (setFields old kwargs) with ⟨rule, _ | e⟩
      · rw [hrec] at hg hfields
        simp only [reduceCtorEq, if_false, true_and] at hg
        obtain rfl : rule = _ := hfields
        have hset := settled_of_recompile hrec hg.1
        obtain ⟨hinv, hret⟩ := inv_finishUpdate h hrules hset rfl fun hp =>
          (hg.2 hp).of_map_eq (by simp)
        exact ⟨hinv, .inl hret⟩
      · cases e with
        | other =>
          rw [hrec] at hg
          simp at hg
        | valueError =>
          rw [hrec] at hg hfields
          simp only [if_true] at hg
          obtain rfl : rule = _ := hfields
          have hback : rollback M s before after old { setFields old kwargs with compiled := c } = _ :=
            rollback_eq s before after hold (congrArg (fun r : Rule N => { r with compiled := old.compiled }) hg)
          simp only [hback]
          have hs : ({ s with rules := before ++ old :: after } : Selector N) = s := by rw [← hrules]
          rw [hs]
          exact ⟨h, .inr rfl⟩

/-- A guarded call keeps the invariant. -/
theorem inv_call {s : Selector N} {c : Call N} (h : Inv M s) (hg : Guarded M s c) : Inv M (call M s c).1 := by
  cases c with
  | addRule rule =>
    simp only [Guarded] at hg
    show Inv M (addRule M s rule).1
    unfold addRule
    rcases hrec : recompile M rule with ⟨rule', _ | e⟩
    · rw [hrec] at hg
      obtain ⟨hwell, ho⟩ := hg rfl
      obtain ⟨c, rfl, -⟩ := recompile_ok hrec
      refine (inv_resorted ?_ fun r hr => ?_).1
      · exact ho.of_map_eq (by simp)
      · rcases List.mem_append.mp hr with hr | hr
        · exact h.settled r hr
        · rw [List.mem_singleton.mp hr]
          exact settled_of_recompile hrec hwell
    · cases e <;> exact h
  | removeRule name =>
    show Inv M (removeRule s name).1
    unfold removeRule
    cases hfind : findRule name s.rules with
    | none => exact h
    | some found =>
      obtain ⟨before, old, after⟩ := found
      refine h.sublist ?_
      rw [findRule_eq_some hfind]
      exact (List.sublist_cons_self old after).append_left before
  | updateRule name kwargs => exact (inv_updateRule h hg).1

theorem kept_of_inv {s : Selector N} {c : Call N} (h : Inv M s) (hg : Guarded M s c) : Kept M s c := by
  refine ⟨(inv_call h hg).sound, ?_⟩
  cases c with
  | addRule rule => trivial
  | removeRule name => trivial
  | updateRule name kwargs =>
    intro hfail
    rcases (inv_updateRule h hg).2 with hret | hsame
    · exact absurd hret hfail
    · exact congrArg Selector.rules hsame

/-! ## The rules that are loaded -/

theorem settled_of_parseRule {c : ConfigRule} {r : Rule N} (h : parseRule M c = some r) :
    Settled M r ∧ r.priority.number.isSome = true := by
  unfold parseRule at h
  obtain ⟨scope, -, h⟩ := Option.bind_eq_some_iff.mp h
  obtain ⟨matchType, -, h⟩ := Option.bind_eq_some_iff.mp h
  obtain ⟨action, -, h⟩ := Option.bind_eq_some_iff.mp h
  split at h
  · next rule hrec =>
    cases h
    refine ⟨settled_of_recompile hrec ⟨fun hl => ?_, fun m hm => ?_, rfl⟩, ?_⟩
    · cases scope with
      | local_ => rfl
      | external =>
        have : (Val.scope TrafficScope.external).isLocal = false := by decide
        exact absurd (hl.symm.trans this) (by decide)
    · have := (kind_matchType matchType).symm.trans hm
      rw [Option.some.inj this]
    · obtain ⟨c, hr, -⟩ := recompile_ok hrec
      rw [hr]
      rfl
  · cases h

theorem inv_loadRules (defaultAction : TrafficAction) (config : List ConfigRule) :
    Inv M (loadRules M defaultAction config) := by
  have hload : ∀ r ∈ config.filterMap (parseRule M), Settled M r ∧ r.priority.number.isSome = true := by
    intro r hr
    obtain ⟨c, -, hc⟩ := List.mem_filterMap.mp hr
    exact settled_of_parseRule hc
  exact (inv_resorted (s := ⟨config.filterMap (parseRule M), defaultAction⟩)
    (.inr fun r hr => (hload r hr).2) fun r hr => (hload r hr).1).1

/-- **The rules stay a priority list.** From any configuration, over every run of calls that are all guarded: the
    selector is sound at the start and after every call, and an update that fails leaves every rule as it was. -/
theorem kept_of_guarded (M : Matchers N) (defaultAction : TrafficAction) (config : List ConfigRule)
    (calls : List (Call N)) (h : AllOk (step M) (Guarded M) (loadRules M defaultAction config) calls) :
    Sound M (loadRules M defaultAction config) ∧
      AllOk (step M) (Kept M) (loadRules M defaultAction config) calls := by
  refine ⟨(inv_loadRules defaultAction config).sound, ?_⟩
  refine AllOk.of_invariant (Inv M) (fun _ _ hi hg => kept_of_inv hi hg) (fun _ _ _ hi hg hs => ?_)
    (inv_loadRules defaultAction config) h
  cases hs
  exact inv_call hi hg

/-! ## A run on IPv4 networks -/

/-- `ip_network` on an IPv4 address with a decimal prefix length; patterns without wildcards. -/
def ipv4Matchers : Matchers (Nat × Nat) where
  interp := asciiInterp
  ipNetwork s := do
    let n ← IpAddress.parseV4 (Str.before (cp '/') s)
    let len ← (asciiInterp.parseDigits (s.dropWhile (· != cp '/')).tail).toOption
    if len ≤ 32 then some (n, len) else none
  contains net ip :=
    match IpAddress.parseV4 ip with
    | some n => IpAddress.inNetwork 32 n net
    | none   => false
  glob pattern host := asciiInterp.lowerStr pattern == host
  unordered rules := (rules, true)
  unordered_perm rules := .refl rules

/-- A rule for a camera's network. -/
def cameraRule : ConfigRule := ⟨"cam", "local", "cidr", "10.0.0.0/8", "intercept", 10, true⟩

/-- The rule as it is loaded. -/
def loadedCamera : Rule (Nat × Nat) :=
  ⟨.str "cam", .scope .local_, .matchType .cidr, .str "10.0.0.0/8", .action .intercept, .int 10, .bool true,
    ⟨none, some (10 * 2 ^ 24, 8), "10.0.0.0/8"⟩⟩

theorem findRule_camera :
    findRule "cam" (loadRules ipv4Matchers .intercept [cameraRule]).rules = some ([], loadedCamera, []) := by
  decide +kernel

/-- A refused match definition leaves the camera's rule as it was; the rule is then removed. -/
theorem kept_of_guarded_camera :
    Sound ipv4Matchers (loadRules ipv4Matchers .intercept [cameraRule]) ∧
      AllOk (step ipv4Matchers) (Kept ipv4Matchers) (loadRules ipv4Matchers .intercept [cameraRule])
        [.updateRule "cam" [(.matchValue, .str "10.0.0.0/99")], .removeRule "cam"] := by
  refine kept_of_guarded _ _ _ _ ⟨?_, trivial, trivial⟩
  simp only [Guarded, findRule_camera]
  rw [if_pos ⟨by decide, by decide +kernel⟩]
  decide +kernel

/-- A refused update that also gave a priority returns `False` and leaves the priority. -/
theorem not_kept_refusedUpdate :
    ¬ ∀ (defaultAction : TrafficAction) (config : List ConfigRule) (calls : List (Call (Nat × Nat))),
      AllOk (step ipv4Matchers) (Kept ipv4Matchers) (loadRules ipv4Matchers defaultAction config) calls := by
  intro h
  have hkept := (h .intercept [cameraRule]
    [.updateRule "cam" [(.priority, .int 99), (.matchValue, .str "10.0.0.0/99")]]).1
  exact absurd (hkept.2 (by decide +kernel)) (by decide +kernel)

end RideTheApi.Traffic
