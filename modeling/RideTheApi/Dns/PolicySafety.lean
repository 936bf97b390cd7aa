import RideTheApi.Dns.Policy

/-!
# `Dns.PolicySafety` — the policy is the documented precedence

The loops over the patterns are the documented cases (`classify_decides`). Of a name and of a pattern only the normal form
counts, and spellings that differ in letter case, trailing dots and surrounding blanks have the same one, but for a blank
in front of trailing dots.
-/

namespace RideTheApi.Dns

open Py Trim

variable {H : Host} {P P' : Interceptor} {p p' q q' s t d name : Str} {fromSelf : Bool}

/-! ## Lowering -/

/-- `lower` of one code point. -/
def lowerChar (H : Host) (c : CodePoint) : Str :=
  if c.val < 0x80 then [if Interp.asciiUpper c then Fin.ofNat 0x110000 (c.val + 0x20) else c] else H.lower c

theorem lowerStr_eq (H : Host) (s : Str) : H.lowerStr s = s.flatMap (lowerChar H) := rfl

/-- A blank or a dot. -/
def isBlankOrDot (c : CodePoint) : Bool := Str.isSpace c || c == cp '.'

/-- An ASCII upper-case letter and its lower-case letter are neither blank nor dot. -/
theorem asciiUpper_not {c : CodePoint} (h : Interp.asciiUpper c = true) :
    isBlankOrDot c = false ∧ isBlankOrDot (Fin.ofNat 0x110000 (c.val + 0x20)) = false := by
  have hrange : 0x41 ≤ c.val ∧ c.val ≤ 0x5a := by
    unfold Interp.asciiUpper at h
    simpa [Fin.le_def] using h
  have hall : (List.range 26).all (fun n => !isBlankOrDot (Fin.ofNat 0x110000 (0x41 + n)) &&
      !isBlankOrDot (Fin.ofNat 0x110000 (0x61 + n))) = true := by decide +kernel
  have hn := List.all_eq_true.mp hall (c.val - 0x41) (List.mem_range.mpr (by omega))
  have hc : (Fin.ofNat 0x110000 (0x41 + (c.val - 0x41)) : CodePoint) = c := by
    apply Fin.ext
    show (0x41 + (c.val - 0x41)) % 0x110000 = c.val
    omega
  have hc' : (Fin.ofNat 0x110000 (0x61 + (c.val - 0x41)) : CodePoint) = Fin.ofNat 0x110000 (c.val + 0x20) := by
    apply Fin.ext
    show (0x61 + (c.val - 0x41)) % 0x110000 = (c.val + 0x20) % 0x110000
    congr 1
    omega
  rw [hc, hc'] at hn
  simpa using hn

/-- A blank or a dot is lowered to itself. -/
theorem lowerChar_blank (hH : LowersLetters H) {c : CodePoint} (hc : isBlankOrDot c = true) : lowerChar H c = [c] := by
  unfold lowerChar
  split
  · cases hupper : Interp.asciiUpper c with
    | true =>
      rw [(asciiUpper_not hupper).1] at hc
      cases hc
    | false => rfl
  · rename_i hascii
    unfold isBlankOrDot at hc
    rw [Bool.or_eq_true] at hc
    rcases hc with hspace | hdot
    · exact hH.space c (by omega) hspace
    · obtain rfl := eq_of_beq hdot
      exact absurd (by decide) hascii

/-- Everything else is lowered to something else. -/
theorem lowerChar_other (hH : LowersLetters H) {c : CodePoint} (hc : isBlankOrDot c = false) :
    lowerChar H c ≠ [] ∧ ∀ d ∈ lowerChar H c, isBlankOrDot d = false := by
  unfold lowerChar
  split
  · refine ⟨List.cons_ne_nil _ _, ?_⟩
    intro d hd
    obtain rfl := List.mem_singleton.mp hd
    cases hupper : Interp.asciiUpper c with
    | true => exact (asciiUpper_not hupper).2
    | false => exact hc
  · rename_i hascii
    have hspace : Str.isSpace c = false := by
      unfold isBlankOrDot at hc
      exact (Bool.or_eq_false_iff.mp hc).1
    obtain ⟨hne, hall⟩ := hH.letter c (by omega) hspace
    refine ⟨hne, ?_⟩
    intro d hd
    obtain ⟨hd', hdot⟩ := hall d hd
    unfold isBlankOrDot
    rw [hd', Bool.false_or]
    simpa using hdot

/-- Lowering goes past what is cut off by blanks and dots. -/
structure Cuts (r : CodePoint → Bool) : Prop where
  blank : ∀ c, r c = true → isBlankOrDot c = true

theorem lowerChar_yes (hH : LowersLetters H) {r : CodePoint → Bool} (hr : Cuts r) (c : CodePoint) (hc : r c = true) :
    ∀ d ∈ lowerChar H c, r d = true := by
  rw [lowerChar_blank hH (hr.blank c hc)]
  intro d hd
  rwa [List.mem_singleton.mp hd]

theorem lowerChar_no (hH : LowersLetters H) {r : CodePoint → Bool} (hr : Cuts r) (c : CodePoint) (hc : r c = false) :
    lowerChar H c ≠ [] ∧ ∀ d ∈ lowerChar H c, r d = false := by
  cases hblank : isBlankOrDot c with
  | true =>
    rw [lowerChar_blank hH hblank]
    refine ⟨List.cons_ne_nil _ _, ?_⟩
    intro d hd
    rwa [List.mem_singleton.mp hd]
  | false =>
    obtain ⟨hne, hall⟩ := lowerChar_other hH hblank
    refine ⟨hne, ?_⟩
    intro d hd
    cases hrd : r d with
    | false => rfl
    | true => rw [← hall d hd, hr.blank d hrd]

theorem cuts_dot : Cuts (· == cp '.') := ⟨fun c hc => by
  unfold isBlankOrDot
  rw [hc, Bool.or_true]⟩

theorem cuts_space : Cuts Str.isSpace := ⟨fun c hc => by
  unfold isBlankOrDot
  rw [hc, Bool.true_or]⟩

theorem cuts_both : Cuts isBlankOrDot := ⟨fun _ hc => hc⟩

theorem lowerStr_dropWhile (hH : LowersLetters H) {r : CodePoint → Bool} (hr : Cuts r) (s : Str) :
    (H.lowerStr s).dropWhile r = H.lowerStr (s.dropWhile r) :=
  dropWhile_flatMap _ (lowerChar_yes hH hr) (lowerChar_no hH hr) s

theorem lowerStr_rdropWhile (hH : LowersLetters H) {r : CodePoint → Bool} (hr : Cuts r) (s : Str) :
    (H.lowerStr s).rdropWhile r = H.lowerStr (s.rdropWhile r) :=
  rdropWhile_flatMap _ (lowerChar_yes hH hr) (lowerChar_no hH hr) s

theorem lowerChar_again (hH : LowersLetters H) (c : CodePoint) : H.lowerStr (lowerChar H c) = lowerChar H c := by
  unfold lowerChar
  split
  · rename_i hascii
    cases hupper : Interp.asciiUpper c with
    | true =>
      have hrange : 0x41 ≤ c.val ∧ c.val ≤ 0x5a := by
        unfold Interp.asciiUpper at hupper
        simpa [Fin.le_def] using hupper
      have hval : (Fin.ofNat 0x110000 (c.val + 0x20) : CodePoint).val = c.val + 0x20 := by
        show (c.val + 0x20) % 0x110000 = c.val + 0x20
        omega
      have hnot : Interp.asciiUpper (Fin.ofNat 0x110000 (c.val + 0x20)) = false := by
        unfold Interp.asciiUpper
        rw [hval]
        simp
        omega
      rw [lowerStr_eq, List.flatMap_singleton]
      unfold lowerChar
      rw [if_pos rfl, hval, if_pos (by omega), hnot]
      rfl
    | false =>
      rw [lowerStr_eq, if_neg Bool.false_ne_true, List.flatMap_singleton]
      unfold lowerChar
      rw [if_pos hascii, hupper]
      rfl
  · rename_i hascii
    exact hH.again c (by omega)

/-- Lowering twice is lowering once. -/
theorem lowerStr_again (hH : LowersLetters H) (s : Str) : H.lowerStr (H.lowerStr s) = H.lowerStr s := by
  induction s with
  | nil => rfl
  | cons c s ih =>
    show (lowerChar H c ++ H.lowerStr s).flatMap (lowerChar H) = lowerChar H c ++ H.lowerStr s
    rw [List.flatMap_append]
    exact congrArg₂ _ (lowerChar_again hH c) ih

/-! ## Names of queries -/

theorem rstripDots_append (hds : ∀ c ∈ t, c = cp '.') (s : Str) : rstripDots (s ++ t) = rstripDots s := by
  apply rdropWhile_append_of_all
  intro c hc
  rw [hds c hc]
  rfl

/-- A name is normalised once. -/
theorem queryName_again (hH : LowersLetters H) (q : Str) : queryName H (queryName H q) = queryName H q := by
  unfold queryName
  have hdots : rstripDots (H.lowerStr (rstripDots q)) = H.lowerStr (rstripDots q) := by
    have htwice : rstripDots (rstripDots q) = rstripDots q := List.rdropWhile_idempotent _ _
    rw [show rstripDots (H.lowerStr (rstripDots q)) = H.lowerStr (rstripDots (rstripDots q)) from
      lowerStr_rdropWhile hH cuts_dot _, htwice]
  rw [hdots, lowerStr_again hH]

theorem SameQuery.queryName_eq (hH : LowersLetters H) (h : SameQuery H q q') : queryName H q = queryName H q' := by
  induction h with
  | case h =>
    unfold queryName rstripDots
    rw [← lowerStr_rdropWhile hH cuts_dot, ← lowerStr_rdropWhile hH cuts_dot, h]
  | dots h =>
    unfold queryName
    rw [rstripDots_append h]
  | symm h ih => exact ih.symm
  | trans h h' ih ih' => exact ih.trans ih'

/-! ## The precedence -/

theorem find?_isSome_iff {pred : Str → Bool} {l : List Str} : (l.find? pred).isSome = true ↔ ∃ p ∈ l, pred p = true :=
  List.find?_isSome

/-- **The policy is the documented precedence.** -/
theorem classify_decides (hH : LowersLetters H) (P : Interceptor) (qname : Str) (fromSelf : Bool) :
    Decides H P (queryName H qname) fromSelf (classify H P qname fromSelf) := by
  unfold classify matchingOperatorExclusion adapterClaim matchingExclusion
  dsimp only
  rw [queryName_again hH]
  split
  · rename_i hoperator
    obtain ⟨p, hp, hmatch⟩ := find?_isSome_iff.mp hoperator
    rw [Bool.and_eq_true, Bool.not_eq_true'] at hmatch
    exact .operatorExclusion ⟨p, hp, hmatch⟩
  · rename_i hoperator
    have hnone : ¬ ∃ p ∈ P.exclude, isDefault H p = false ∧ nameMatches H (queryName H qname) p = true := by
      rintro ⟨p, hp, hmatch⟩
      apply hoperator
      exact find?_isSome_iff.mpr ⟨p, hp, by rw [hmatch.1, hmatch.2]; rfl⟩
    split
    · rename_i hclaimed
      exact .claimed hnone (find?_isSome_iff.mp hclaimed)
    · rename_i hclaimed
      have hunclaimed : ¬ ∃ p ∈ P.adapterHostnames, nameMatches H (queryName H qname) p = true :=
        fun h => hclaimed (find?_isSome_iff.mpr h)
      split
      · rename_i hexcluded
        obtain ⟨p, hp, hmatch⟩ := find?_isSome_iff.mp hexcluded
        have hdefault : isDefault H p = true := by
          by_contra hnot
          exact hnone ⟨p, hp, Bool.not_eq_true _ ▸ hnot, hmatch⟩
        exact .defaultExclusion hnone hunclaimed ⟨p, hp, hdefault, hmatch⟩
      · rename_i hexcluded
        have hincluded : ¬ ∃ p ∈ P.exclude, nameMatches H (queryName H qname) p = true :=
          fun h => hexcluded (find?_isSome_iff.mpr h)
        unfold matchesConfigured
        split
        · rename_i hlisted
          exact .listed hincluded hunclaimed (List.any_eq_true.mp hlisted)
        · rename_i hlisted
          have hunlisted : ¬ ∃ p ∈ P.patterns, nameMatches H (queryName H qname) p = true :=
            fun h => hlisted (List.any_eq_true.mpr h)
          split
          · rename_i hall
            rw [Bool.and_eq_true, Bool.not_eq_true'] at hall
            exact .everything hincluded hunclaimed hunlisted hall.1 hall.2
          · rename_i hall
            refine .nothing hincluded hunclaimed hunlisted ?_
            rintro ⟨hon, hself⟩
            apply hall
            rw [hon, hself]
            rfl

/-! ## Spellings of a pattern -/

/-- A pattern without the blanks at its start, and without the blanks and dots at its end. -/
def core (p : Str) : Str := (p.dropWhile Str.isSpace).rdropWhile isBlankOrDot

theorem core_append (ht : ∀ c ∈ t, isBlankOrDot c = true) (p : Str) : core (p ++ t) = core p := by
  unfold core
  rw [List.dropWhile_append]
  split
  · rename_i hempty
    rw [List.isEmpty_iff.mp hempty]
    have hrest : ∀ c ∈ t.dropWhile Str.isSpace, isBlankOrDot c = true := by
      intro c hc
      exact ht c ((List.dropWhile_sublist _).subset hc)
    exact rdropWhile_append_of_all [] hrest
  · exact rdropWhile_append_of_all _ ht

theorem SamePattern.core_eq (hH : LowersLetters H) (h : SamePattern H p p') :
    H.lowerStr (core p) = H.lowerStr (core p') := by
  induction h with
  | case h =>
    unfold core
    rw [← lowerStr_rdropWhile hH cuts_both, ← lowerStr_rdropWhile hH cuts_both, ← lowerStr_dropWhile hH cuts_space,
      ← lowerStr_dropWhile hH cuts_space, h]
  | dots h =>
    rw [core_append]
    intro c hc
    rw [h c hc]
    rfl
  | blanks h h' =>
    rw [core_append fun c hc => cuts_space.blank c (h' c hc)]
    unfold core
    rw [List.dropWhile_append_of_pos h]
  | symm h ih => exact ih.symm
  | trans h h' ih ih' => exact ih.trans ih'

/-- Without a blank in front of trailing dots, the blanks and the dots are all cut off. -/
theorem rstripDots_stripSpace (h : NoBlankBeforeDots p) : rstripDots p.stripSpace = core p := by
  unfold core
  obtain ⟨ws, hws, hp⟩ := exists_rdropWhile_append Str.isSpace (p.dropWhile Str.isSpace)
  obtain ⟨ds, hds, hs⟩ := exists_rdropWhile_append (· == cp '.') p.stripSpace
  have hp' : p.dropWhile Str.isSpace = rstripDots p.stripSpace ++ (ds ++ ws) := by
    rw [← List.append_assoc]
    exact hp.trans (congrArg (· ++ ws) hs)
  have hcut : ∀ c ∈ ds ++ ws, isBlankOrDot c = true := by
    intro c hc
    rcases List.mem_append.mp hc with hc | hc
    · exact cuts_dot.blank c (hds c hc)
    · exact cuts_space.blank c (hws c hc)
  rw [hp', rdropWhile_append_of_all _ hcut, eq_comm, List.rdropWhile_eq_self_iff]
  intro hne
  have hspace := h _ (List.getLast?_eq_getLast_of_ne_nil hne)
  have hdot := List.rdropWhile_last_not (· == cp '.') p.stripSpace hne
  unfold isBlankOrDot
  rw [hspace]
  exact hdot

theorem SpelledAlike.normalized_eq (hH : LowersLetters H) (h : SpelledAlike H p p') : normalized H p = normalized H p' := by
  obtain ⟨hsame, hp, hp'⟩ := h
  unfold normalized
  rw [rstripDots_stripSpace hp, rstripDots_stripSpace hp']
  exact hsame.core_eq hH

/-- A shipped exclusion is normalised in the other order, to the same. -/
theorem normalizedExclusion_eq (hH : LowersLetters H) (p : Str) : normalizedExclusion H p = normalized H p :=
  lowerStr_rdropWhile hH cuts_dot _

theorem SpelledAlike.isDefault_eq (hH : LowersLetters H) (h : SpelledAlike H p p') : isDefault H p = isDefault H p' := by
  unfold isDefault
  rw [normalizedExclusion_eq hH, normalizedExclusion_eq hH, h.normalized_eq hH]

theorem SpelledAlike.nameMatches_eq (hH : LowersLetters H) (h : SpelledAlike H p p') (name : Str) :
    nameMatches H name p = nameMatches H name p' := by
  unfold nameMatches compileCandidate
  rw [h.normalized_eq hH]

theorem isSome_find?_congr {pred : Str → Bool} {l l' : List Str}
    (h : List.Forall₂ (fun p p' => pred p = pred p') l l') : (l.find? pred).isSome = (l'.find? pred).isSome := by
  induction h with
  | nil => rfl
  | cons h _ ih =>
    rw [List.find?_cons, List.find?_cons, ← h]
    split
    · rfl
    · exact ih

theorem any_congr {pred : Str → Bool} {l l' : List Str} (h : List.Forall₂ (fun p p' => pred p = pred p') l l') :
    l.any pred = l'.any pred := by
  induction h with
  | nil => rfl
  | cons h _ ih => rw [List.any_cons, List.any_cons, h, ih]

/-- **The spelling of the patterns is not seen.** -/
theorem SamePolicy.classify_eq (hH : LowersLetters H) (h : SamePolicy H P P') (qname : Str) (fromSelf : Bool) :
    classify H P qname fromSelf = classify H P' qname fromSelf := by
  have hmatch (name : Str) {l l' : List Str} (hl : List.Forall₂ (SpelledAlike H) l l') :
      List.Forall₂ (fun p p' => nameMatches H name p = nameMatches H name p') l l' :=
    hl.imp fun p p' hp => hp.nameMatches_eq hH name
  have hoperator (name : Str) : (matchingOperatorExclusion H P name).isSome = (matchingOperatorExclusion H P' name).isSome := by
    apply isSome_find?_congr
    refine h.exclude.imp ?_
    intro p p' hp
    show (!isDefault H p && nameMatches H _ p) = (!isDefault H p' && nameMatches H _ p')
    rw [hp.isDefault_eq hH, hp.nameMatches_eq hH]
  have hclaim (name : Str) : (adapterClaim H P name).isSome = (adapterClaim H P' name).isSome :=
    isSome_find?_congr (hmatch _ h.adapterHostnames)
  have hexclusion (name : Str) : (matchingExclusion H P name).isSome = (matchingExclusion H P' name).isSome :=
    isSome_find?_congr (hmatch _ h.exclude)
  have hlisted (name : Str) : P.patterns.any (nameMatches H name) = P'.patterns.any (nameMatches H name) :=
    any_congr (hmatch _ h.patterns)
  unfold classify matchesConfigured
  dsimp only
  rw [hoperator, hclaim, hexclusion, hlisted, h.interceptAll]

/-! ## Wildcards of a domain -/

/-- What is lowered is not nothing. -/
theorem lowerStr_eq_nil_iff (hH : LowersLetters H) : H.lowerStr s = [] ↔ s = [] := by
  constructor
  · intro h
    cases s with
    | nil => rfl
    | cons c s =>
      have hc : lowerChar H c ≠ [] := by
        cases hblank : isBlankOrDot c with
        | true =>
          rw [lowerChar_blank hH hblank]
          exact List.cons_ne_nil _ _
        | false => exact (lowerChar_other hH hblank).1
      rw [lowerStr_eq, List.flatMap_cons, List.append_eq_nil_iff] at h
      exact absurd h.1 hc
  · rintro rfl
    rfl

/-- A wildcard is the star, a dot and the domain; without a domain it is the star. -/
theorem normalized_wildcard (hH : LowersLetters H) (d : Str) :
    normalized H (str "*." ++ d) = cp '*' :: if domainOf H d = [] then [] else cp '.' :: domainOf H d := by
  have hspace : Str.isSpace (cp '*') = false ∧ Str.isSpace (cp '.') = false := by decide
  have hstar : (cp '*' == cp '.') = false := by decide
  have hstrip : (str "*." ++ d).stripSpace = cp '*' :: cp '.' :: d.rdropWhile Str.isSpace := by
    show (cp '*' :: cp '.' :: d).rdropWhile Str.isSpace = _
    rw [rdropWhile_cons, rdropWhile_cons, hspace.1, hspace.2, if_neg (fun h => Bool.false_ne_true h.1),
      if_neg (fun h => Bool.false_ne_true h.1)]
  have hcut : rstripDots (str "*." ++ d).stripSpace =
      cp '*' :: if rstripDots (d.rdropWhile Str.isSpace) = [] then [] else cp '.' :: rstripDots (d.rdropWhile Str.isSpace) := by
    rw [hstrip]
    show (cp '*' :: cp '.' :: _).rdropWhile (· == cp '.') = _
    rw [rdropWhile_cons, hstar, if_neg (fun h => Bool.false_ne_true h.1), rdropWhile_cons]
    congr 1
    exact if_congr ⟨And.right, fun h => ⟨rfl, h⟩⟩ rfl rfl
  unfold normalized domainOf
  rw [hcut]
  by_cases hd : rstripDots (d.rdropWhile Str.isSpace) = []
  · rw [if_pos hd, if_pos ((lowerStr_eq_nil_iff hH).mpr hd)]
    rfl
  · rw [if_neg hd, if_neg (mt (lowerStr_eq_nil_iff hH).mp hd)]
    rfl

/-- **A wildcard of a domain matches the domain and what is under it; one without a domain matches everything.** -/
theorem nameMatches_wildcard (hH : LowersLetters H) (d name : Str) :
    nameMatches H name (str "*." ++ d) = true ↔ domainOf H d = [] ∨ Under (domainOf H d) name := by
  unfold nameMatches compileCandidate
  dsimp only
  rw [normalized_wildcard hH]
  by_cases hd : domainOf H d = []
  · rw [hd, if_pos rfl]
    have hglob := globMatches_star H.inClass name
    exact iff_of_true hglob (Or.inl rfl)
  · rw [if_neg hd, if_neg (List.cons_ne_nil _ _)]
    have hstarts : Str.startsWith (cp '*' :: cp '.' :: domainOf H d) "*." = true := rfl
    rw [if_pos hstarts, or_iff_right hd]
    show (name == domainOf H d || name.endsWith (cp '.' :: domainOf H d)) = true ↔ _
    rw [Bool.or_eq_true, beq_iff_eq]
    exact or_congr Iff.rfl List.isSuffixOf_iff_suffix

/-! ## The policy -/

/-- One status is decided. -/
theorem Decides.unique {status status' : Status} (h : Decides H P name fromSelf status)
    (h' : Decides H P name fromSelf status') : status = status' := by
  -- the constructors go by the order of the checks: a later one rules every earlier one out
  have hexcluded {b : Bool} (h : ∃ p ∈ P.exclude, isDefault H p = b ∧ nameMatches H name p = true) :
      ∃ p ∈ P.exclude, nameMatches H name p = true := by
    obtain ⟨p, hp, -, hmatch⟩ := h
    exact ⟨p, hp, hmatch⟩
  cases h with
  | operatorExclusion h =>
    cases h' with
    | operatorExclusion h' => rfl
    | claimed hoperator _ => exact absurd h hoperator
    | defaultExclusion hoperator _ _ => rfl
    | listed hincluded _ _ => exact absurd (hexcluded h) hincluded
    | everything hincluded _ _ _ _ => exact absurd (hexcluded h) hincluded
    | nothing hincluded _ _ _ => exact absurd (hexcluded h) hincluded
  | claimed hoperator h =>
    cases h' with
    | operatorExclusion h' => exact absurd h' hoperator
    | claimed _ _ => rfl
    | defaultExclusion _ hunclaimed _ => exact absurd h hunclaimed
    | listed _ hunclaimed _ => rfl
    | everything _ hunclaimed _ _ _ => rfl
    | nothing _ hunclaimed _ _ => exact absurd h hunclaimed
  | defaultExclusion hoperator hunclaimed h =>
    cases h' with
    | operatorExclusion h' => rfl
    | claimed _ h' => exact absurd h' hunclaimed
    | defaultExclusion _ _ _ => rfl
    | listed hincluded _ _ => exact absurd (hexcluded h) hincluded
    | everything hincluded _ _ _ _ => exact absurd (hexcluded h) hincluded
    | nothing hincluded _ _ _ => exact absurd (hexcluded h) hincluded
  | listed hincluded hunclaimed h =>
    cases h' with
    | operatorExclusion h' => exact absurd (hexcluded h') hincluded
    | claimed _ _ => rfl
    | defaultExclusion _ _ h' => exact absurd (hexcluded h') hincluded
    | listed _ _ _ => rfl
    | everything _ _ _ _ _ => rfl
    | nothing _ _ hunlisted _ => exact absurd h hunlisted
  | everything hincluded hunclaimed hunlisted hall hself =>
    cases h' with
    | operatorExclusion h' => exact absurd (hexcluded h') hincluded
    | claimed _ _ => rfl
    | defaultExclusion _ _ h' => exact absurd (hexcluded h') hincluded
    | listed _ _ _ => rfl
    | everything _ _ _ _ _ => rfl
    | nothing _ _ _ h' => exact absurd ⟨hall, hself⟩ h'
  | nothing hincluded hunclaimed hunlisted h =>
    cases h' with
    | operatorExclusion h' => exact absurd (hexcluded h') hincluded
    | claimed _ h' => exact absurd h' hunclaimed
    | defaultExclusion _ _ h' => exact absurd (hexcluded h') hincluded
    | listed _ _ h' => exact absurd h' hunlisted
    | everything _ _ _ hall hself => exact absurd ⟨hall, hself⟩ h
    | nothing _ _ _ _ => rfl

/-- The names a wildcard of this domain is documented to match are matched, and no others. -/
def WildcardMeans (H : Host) (d : Str) : Prop := ∀ qname,
  nameMatches H (queryName H qname) (str "*." ++ d) = true ↔ Under (domainOf H d) (queryName H qname)

/-- A wildcard without a domain matches names that are under none. -/
theorem wildcardMeans_iff (hH : LowersLetters H) (d : Str) : WildcardMeans H d ↔ domainOf H d ≠ [] := by
  constructor
  · intro hmeans hd
    have hx := (hmeans (str "x")).mp ((nameMatches_wildcard hH d _).mpr (.inl hd))
    rw [hd] at hx
    rcases hx with hx | hx
    · cases hx
    · have hx' : [cp '.'] <:+ str "x" := hx
      exact absurd hx' (by decide)
  · intro hd qname
    rw [nameMatches_wildcard hH]
    exact or_iff_right hd

/-- **The policy**: the documented precedence, the same for every spelling of the name and for every spelling of the
    patterns without a blank in front of trailing dots; a wildcard means what is documented when it has a domain. -/
theorem policy_documented (hH : LowersLetters H) :
    (∀ P qname fromSelf status,
      Decides H P (queryName H qname) fromSelf status ↔ classify H P qname fromSelf = status) ∧
    (∀ P qname qname' fromSelf, SameQuery H qname qname' → classify H P qname fromSelf = classify H P qname' fromSelf) ∧
    (∀ P P' qname fromSelf, SamePolicy H P P' → classify H P qname fromSelf = classify H P' qname fromSelf) ∧
    ∀ d, WildcardMeans H d ↔ domainOf H d ≠ [] := by
  refine ⟨?_, ?_, fun P P' qname fromSelf h => h.classify_eq hH qname fromSelf, wildcardMeans_iff hH⟩
  · intro P qname fromSelf status
    have hclassify := classify_decides hH P qname fromSelf
    constructor
    · intro h
      exact hclassify.unique h
    · rintro rfl
      exact hclassify
  · intro P qname qname' fromSelf h
    unfold classify
    rw [h.queryName_eq hH]

/-- An interpreter that lowers ASCII letters only, and knows no class. -/
def asciiHost : Host := { asciiInterp with inClass := fun _ _ => false }

theorem asciiHost_lowers : LowersLetters asciiHost where
  space _ _ _ := rfl
  letter c hascii hspace := by
    refine ⟨List.cons_ne_nil _ _, ?_⟩
    intro d hd
    obtain rfl : d = c := List.mem_singleton.mp hd
    refine ⟨hspace, ?_⟩
    rintro rfl
    exact absurd hascii (by decide)
  again c hascii := by
    have hnot : ¬ c.val < 0x80 := by omega
    show (if c.val < 0x80 then [if Interp.asciiUpper c then Fin.ofNat 0x110000 (c.val + 0x20) else c] else [c]) ++ [] = [c]
    rw [if_neg hnot]
    rfl

/-- A wildcard of a host name. -/
theorem wildcard_shelly : WildcardMeans asciiHost (str "shelly.cloud") :=
  ((policy_documented asciiHost_lowers).2.2.2 _).mpr (by decide +kernel)

/-- A trailing dot counts behind a blank, and `*.` matches a name that does not end in a dot. -/
theorem policy_slips :
    (¬ ∀ p p' qname, SamePattern asciiHost p p' →
      classify asciiHost { patterns := [p] } qname false = classify asciiHost { patterns := [p'] } qname false) ∧
    ¬ ∀ d, WildcardMeans asciiHost d := by
  constructor
  · intro hall
    have hdots : ∀ c ∈ [cp '.'], c = cp '.' := fun c hc => List.mem_singleton.mp hc
    have hsame : SamePattern asciiHost (str "a ") (str "a .") := SamePattern.dots hdots
    exact absurd (hall _ _ (str "a") hsame) (by decide +kernel)
  · intro hall
    exact (wildcardMeans_iff asciiHost_lowers []).mp (hall []) rfl

end RideTheApi.Dns
