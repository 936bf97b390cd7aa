import RideTheApi.Discovery.Recorder

/-!
# `Discovery.Accounting` — no observation is lost or counted twice

The hits of a pair are in three places: the live table, the batch a flush has in hand, and the rows of the log
that no clear is deleting. A flush moves them from the first to the second and from there to the third, or back
to the first. The status of a pair is that of the newest of the three places that has it. What goes wrong is
`_merge_back`: it takes the status of the batch, which is the older one, and it does not look at `max_rows`.
-/

namespace RideTheApi.Discovery

open Py Transition

variable {cfg : Settings}

/-- The batch a flush has in hand. -/
def Lock.batch : Lock → Pairs
  | .flushing pending => pending
  | _ => []

/-- The rows of the log, unless a clear is deleting them. -/
def Recorder.stored (r : Recorder) : Pairs :=
  match r.lock with
  | .clearing => []
  | _ => r.log

/-- The hits a dictionary holds for a pair. -/
def hits (d : Pairs) (k : PairKey) : Nat := ((d.get? k).map PairCounters.hitCount).getD 0

/-- The hits of a pair in memory: the live table and the batch in hand. -/
def Recorder.inMemory (r : Recorder) (k : PairKey) : Nat := hits r.pairs k + hits r.lock.batch k

/-- The hits of a pair in the database. -/
def Recorder.inDatabase (r : Recorder) (k : PairKey) : Nat := hits r.stored k

/-- The notes of a pair accepted since the last clear. -/
def Recorder.notes (r : Recorder) (k : PairKey) : Nat := r.accepted.countP fun n => n.1 = k

/-- The status of the most recent of them. -/
def Recorder.lastStatus (r : Recorder) (k : PairKey) : Option Str := Dict.get? r.accepted k

/-- The counters a pair is kept in, or else stored in. -/
def Recorder.current (r : Recorder) (k : PairKey) : Option PairCounters :=
  (r.pairs.get? k).or ((r.lock.batch.get? k).or (r.stored.get? k))

/-- Nothing lost, nothing counted twice, the table within its bound, the statuses those of the last notes. -/
structure Accounts (cfg : Settings) (r : Recorder) : Prop where
  hits : ∀ k, r.inMemory k + r.inDatabase k = r.notes k
  bounded : r.pairs.length ≤ cfg.maxRows
  status : ∀ k, (r.current k).map PairCounters.status = r.lastStatus k

/-- The steps that keep the account. A write that did not take effect comes back to a table that has noted
    none of its pairs with another status and has room for the others; a prune finds the log within the cap;
    a clear that fails had nothing to delete. -/
def Orderly (cfg : Settings) (r : Recorder) : Label → Prop
  | .notWritten _ =>
    (∀ k ∈ r.lock.batch.keys, k ∈ r.pairs.keys →
      (r.lock.batch.get? k).map PairCounters.status = (r.pairs.get? k).map PairCounters.status) ∧
    r.pairs.length + (r.lock.batch.filter fun kv => !r.pairs.has kv.1).length ≤ cfg.maxRows
  | .pruned => r.log.length ≤ cfg.maxRows
  | .notCleared _ => r.log = []
  | _ => True

instance Orderly.decidable (r : Recorder) : (l : Label) → Decidable (Orderly cfg r l)
  | .notWritten _ => by unfold Orderly; infer_instance
  | .pruned => by unfold Orderly; infer_instance
  | .notCleared _ => by unfold Orderly; infer_instance
  | .note .. | .flush | .written _ | .notPruned _ | .clear | .cleared => .isTrue trivial

/-- What every orderly run keeps. -/
structure Inv (cfg : Settings) (r : Recorder) : Prop extends Accounts cfg r where
  pairsFiled : Filed r.pairs
  batchFiled : Filed r.lock.batch
  sinkless : cfg.hasSink = false → r.log = [] ∧ r.lock = .free

/-! ## The hits and the counters after a write -/

theorem hits_set (d : Pairs) (k k' : PairKey) (c : PairCounters) :
    hits (d.set k c) k' = if k = k' then c.hitCount else hits d k' := by
  rw [hits, hits, Dict.get?_set]
  split <;> rfl

/-- Merging adds up the hits of a pair, whichever rule settles the other columns. -/
theorem hits_mergeWith {f : Option PairCounters → PairCounters → PairCounters} {d e : Pairs}
    (he : e.keys.Nodup) (hnone : ∀ c, (f none c).hitCount = c.hitCount)
    (hsome : ∀ m c, (f (some m) c).hitCount = m.hitCount + c.hitCount) (k : PairKey) :
    hits (Dict.mergeWith f d e) k = hits d k + hits e k := by
  rw [hits, hits, hits, Dict.get?_mergeWith he]
  cases e.get? k with
  | none => rfl
  | some c =>
    cases d.get? k with
    | none => simp [hnone]
    | some m => simp [hsome]

theorem hits_mergeBack {pairs pending : Pairs} (h : Filed pending) (k : PairKey) :
    hits (mergeBack pairs pending) k = hits pairs k + hits pending k :=
  hits_mergeWith h.nodup (fun _ => rfl) (fun _ _ => rfl) k

theorem hits_recordDnsQueries {log pending : Pairs} (h : Filed pending) (k : PairKey) :
    hits (recordDnsQueries log (pending.map Prod.snd)) k = hits log k + hits pending k := by
  rw [recordDnsQueries_eq h]
  exact hits_mergeWith h.nodup (fun _ => rfl) (fun _ _ => rfl) k

theorem mergeBack_filed {pairs pending : Pairs} (h : Filed pairs) (h' : Filed pending) :
    Filed (mergeBack pairs pending) :=
  h.mergeWith h' (fun _ => rfl) (fun _ _ => rfl)

/-- Putting a table back into the empty one gives the table. -/
theorem mergeBack_nil {pairs : Pairs} (h : Filed pairs) : mergeBack [] pairs = pairs := by
  have hnd : ([] ++ pairs : Pairs).keys.Nodup := h.nodup
  exact Dict.mergeWith_of_nodup (fun _ => rfl) hnd

/-- After a batch is stored, a pair of the batch has its status there. -/
theorem status_recordDnsQueries {log pending : Pairs} (h : Filed pending) (k : PairKey) :
    ((recordDnsQueries log (pending.map Prod.snd)).get? k).map PairCounters.status =
      ((pending.get? k).or (log.get? k)).map PairCounters.status := by
  rw [recordDnsQueries_eq h, Dict.get?_mergeWith h.nodup]
  cases pending.get? k with
  | none => rfl
  | some c => cases log.get? k <;> rfl

/-- After a batch is put back, a pair has the status of the live table, if the two agree where both have it. -/
theorem status_mergeBack {pairs pending : Pairs} (h : Filed pending) {k : PairKey}
    (hagree : k ∈ pending.keys → k ∈ pairs.keys →
      (pending.get? k).map PairCounters.status = (pairs.get? k).map PairCounters.status) :
    ((mergeBack pairs pending).get? k).map PairCounters.status =
      ((pairs.get? k).or (pending.get? k)).map PairCounters.status := by
  rw [mergeBack, Dict.get?_mergeWith h.nodup]
  cases hp : pending.get? k with
  | none => simp
  | some c =>
    cases hl : pairs.get? k with
    | none => rfl
    | some m =>
      have hin : k ∈ pending.keys := Dict.mem_keys.mpr (by rw [Dict.has, hp]; rfl)
      have hin' : k ∈ pairs.keys := Dict.mem_keys.mpr (by rw [Dict.has, hl]; rfl)
      have hst := hagree hin hin'
      rw [hp, hl] at hst
      exact hst

/-! ## Steps -/

section
variable {r r' : Recorder}

theorem Inv.start : Inv cfg .new where
  hits _ := rfl
  bounded := Nat.zero_le _
  status _ := rfl
  pairsFiled := .nil
  batchFiled := .nil
  sinkless _ := ⟨rfl, rfl⟩

/-- A note that is accepted: the pair gets one hit and the status of the note. -/
theorem Inv.accept (h : Inv cfg r) {k : PairKey} {c : PairCounters} {status : Str}
    (hkey : c.toPairKey = k) (hhits : c.hitCount = Discovery.hits r.pairs k + 1) (hstatus : c.status = status)
    (hlen : (r.pairs.set k c).length ≤ cfg.maxRows) :
    Inv cfg { r with pairs := r.pairs.set k c, accepted := (k, status) :: r.accepted } where
  hits k' := by
    have hold := h.hits k'
    simp only [Recorder.inMemory, Recorder.inDatabase, Recorder.notes, hits_set, List.countP_cons] at hold ⊢
    change _ + Discovery.hits r.stored k' = _
    by_cases hk : k = k'
    · subst hk
      simp only [decide_true, if_true, hhits]
      omega
    · simp only [hk, decide_false, if_false]
      simpa using hold
  bounded := hlen
  status k' := by
    have hold := h.status k'
    simp only [Recorder.current, Recorder.lastStatus, Dict.get?_set, Dict.get?_cons] at hold ⊢
    by_cases hk : k = k'
    · rw [if_pos hk, if_pos hk, Option.some_or, Option.map_some, hstatus]
    · rw [if_neg hk, if_neg hk]
      exact hold
  pairsFiled := h.pairsFiled.set hkey
  batchFiled := h.batchFiled
  sinkless := h.sinkless

/-- A state that differs in its counters of drops, errors and prunes only. -/
theorem Inv.congr (h : Inv cfg r) (hp : r'.pairs = r.pairs) (hl : r'.lock = r.lock) (hlog : r'.log = r.log)
    (ha : r'.accepted = r.accepted) : Inv cfg r' where
  hits k := by
    simp only [Recorder.inMemory, Recorder.inDatabase, Recorder.stored, Recorder.notes, hp, hl, hlog, ha]
    exact h.hits k
  bounded := hp ▸ h.bounded
  status k := by
    simp only [Recorder.current, Recorder.stored, Recorder.lastStatus, hp, hl, hlog, ha]
    exact h.status k
  pairsFiled := hp ▸ h.pairsFiled
  batchFiled := hl ▸ h.batchFiled
  sinkless hno := by
    rw [hlog, hl]
    exact h.sinkless hno

theorem Inv.countError (h : Inv cfg r) (cancelled : Bool) : Inv cfg (r.countError cancelled) := by
  cases cancelled with
  | true => exact h
  | false => exact h.congr rfl rfl rfl rfl

theorem Inv.note (h : Inv cfg r) (clientIp hostname qtype status : Str) (now : Int) :
    Inv cfg (note cfg r clientIp hostname qtype status now) := by
  unfold Discovery.note
  split
  · exact h
  · cases hget : r.pairs.get? (pairKey cfg clientIp hostname qtype) with
    | none =>
      by_cases hfull : cfg.maxRows ≤ r.pairs.length
      · simp only [hget, if_pos hfull]
        exact h.congr rfl rfl rfl rfl
      · simp only [hget, if_neg hfull]
        refine h.accept rfl ?_ rfl ?_
        · rw [Discovery.hits, hget]
          rfl
        · rw [Dict.length_set, hget]
          simp only [Option.isSome_none, Bool.false_eq_true, if_false]
          omega
    | some c =>
      simp only [hget]
      have hown := h.pairsFiled.own_get? hget
      refine h.accept (c := c.again status now) hown ?_ rfl ?_
      · rw [Discovery.hits, hget]
        rfl
      · rw [Dict.length_set, hget]
        exact h.bounded

/-- The batch is taken: what was in the live table is in hand. -/
theorem Inv.flush (h : Inv cfg r) (hsink : cfg.hasSink = true) (hfree : r.lock = .free) :
    Inv cfg { r with pairs := [], lock := .flushing r.pairs } where
  hits k := by
    have hold := h.hits k
    simp only [Recorder.inMemory, Recorder.inDatabase, Recorder.stored, Recorder.notes, hfree,
      Lock.batch] at hold ⊢
    simp only [Discovery.hits, Dict.get?, List.lookup_nil, Option.map_none, Option.getD_none] at hold ⊢
    omega
  bounded := Nat.zero_le _
  status k := by
    have hold := h.status k
    simp only [Recorder.current, Recorder.stored, Recorder.lastStatus, hfree, Lock.batch] at hold ⊢
    simpa [Dict.get?] using hold
  pairsFiled := .nil
  batchFiled := h.pairsFiled
  sinkless hno := absurd hno (by simp [hsink])

/-- The batch is stored: what was in hand is in the log. -/
theorem Inv.written (h : Inv cfg r) {pending : Pairs} {n : Nat} (hlock : r.lock = .flushing pending) :
    Inv cfg { r with
      log := recordDnsQueries r.log (pending.map Prod.snd), lock := .free, flushedPairs := n } where
  hits k := by
    have hfiled : Filed pending := by simpa [hlock, Lock.batch] using h.batchFiled
    have hold := h.hits k
    simp only [Recorder.inMemory, Recorder.inDatabase, Recorder.stored, Recorder.notes, hlock,
      Lock.batch] at hold ⊢
    rw [hits_recordDnsQueries hfiled]
    simp only [Discovery.hits, Dict.get?, List.lookup_nil, Option.map_none, Option.getD_none] at hold ⊢
    omega
  bounded := h.bounded
  status k := by
    have hfiled : Filed pending := by simpa [hlock, Lock.batch] using h.batchFiled
    have hold := h.status k
    simp only [Recorder.current, Recorder.stored, Recorder.lastStatus, hlock, Lock.batch] at hold ⊢
    rw [Option.map_or] at hold ⊢
    rw [Option.map_or, status_recordDnsQueries hfiled]
    exact hold
  pairsFiled := h.pairsFiled
  batchFiled := .nil
  sinkless hno := absurd (h.sinkless hno).2 (by simp [hlock])

/-- The batch is put back: what was in hand is in the live table again. -/
theorem Inv.notWritten (h : Inv cfg r) {pending : Pairs} (hlock : r.lock = .flushing pending) {cancelled : Bool}
    (hok : Orderly cfg r (.notWritten cancelled)) :
    Inv cfg { r with pairs := mergeBack r.pairs pending, lock := .free } := by
  obtain ⟨hagree, hroom⟩ := hok
  have hfiled : Filed pending := by simpa [hlock, Lock.batch] using h.batchFiled
  rw [hlock] at hagree hroom
  refine { hits := ?_, bounded := ?_, status := ?_, pairsFiled := ?_, batchFiled := .nil
           sinkless := fun hno => ⟨(h.sinkless hno).1, rfl⟩ }
  · intro k
    have hold := h.hits k
    simp only [Recorder.inMemory, Recorder.inDatabase, Recorder.stored, Recorder.notes, hlock,
      Lock.batch] at hold ⊢
    rw [hits_mergeBack hfiled]
    simp only [Discovery.hits, Dict.get?, List.lookup_nil, Option.map_none, Option.getD_none] at hold ⊢
    omega
  · show (mergeBack r.pairs pending).length ≤ cfg.maxRows
    rw [mergeBack, Dict.length_mergeWith hfiled.nodup]
    exact hroom
  · intro k
    have hold := h.status k
    simp only [Recorder.current, Recorder.stored, Recorder.lastStatus, hlock, Lock.batch] at hold ⊢
    rw [Option.map_or, status_mergeBack hfiled (hagree k), ← hold, ← Option.map_or, Option.or_assoc]
    rfl
  · exact mergeBack_filed h.pairsFiled hfiled

/-- Memory is emptied: the rows a clear is deleting count no more. -/
theorem Inv.clear (h : Inv cfg r) :
    Inv cfg (if cfg.hasSink then { r with pairs := [], accepted := [], lock := .clearing }
      else { r with pairs := [], accepted := [], lock := .free }) := by
  cases hsink : cfg.hasSink with
  | true => exact
    { hits := fun _ => rfl, bounded := Nat.zero_le _, status := fun _ => rfl, pairsFiled := .nil
      batchFiled := .nil, sinkless := fun hno => absurd hno (by simp [hsink]) }
  | false =>
    have hlog := (h.sinkless hsink).1
    refine
      { hits := fun k => ?_, bounded := Nat.zero_le _, status := fun k => ?_, pairsFiled := .nil
        batchFiled := .nil, sinkless := fun _ => ⟨hlog, rfl⟩ }
    · simp only [Bool.false_eq_true, if_false, Recorder.inMemory, Recorder.inDatabase, Recorder.stored, hlog,
        Lock.batch]
      rfl
    · simp only [Bool.false_eq_true, if_false, Recorder.current, Recorder.stored, hlog, Lock.batch]
      rfl

/-- A clear is over, and the log is empty. -/
theorem Inv.cleared (h : Inv cfg r) (hlock : r.lock = .clearing) (log : Pairs) (hlog : log = []) :
    Inv cfg { r with log, lock := .free } where
  hits k := by
    have hold := h.hits k
    simp only [Recorder.inMemory, Recorder.inDatabase, Recorder.stored, Recorder.notes, hlock, hlog,
      Lock.batch] at hold ⊢
    exact hold
  bounded := h.bounded
  status k := by
    have hold := h.status k
    simp only [Recorder.current, Recorder.stored, Recorder.lastStatus, hlock, hlog, Lock.batch] at hold ⊢
    exact hold
  pairsFiled := h.pairsFiled
  batchFiled := .nil
  sinkless _ := ⟨hlog, rfl⟩

/-- **Step lemma.** Every orderly step keeps the account. -/
theorem Inv.step (h : Inv cfg r) (l : Label) (hok : Orderly cfg r l) (hs : step cfg r l = some r') :
    Inv cfg r' := by
  cases l with
  | note clientIp hostname qtype status now =>
    cases hs
    exact h.note clientIp hostname qtype status now
  | flush =>
    simp only [Discovery.step] at hs
    cases hlock : r.lock with
    | free =>
      simp only [hlock] at hs
      split at hs
      · cases hs
        exact h
      · split at hs
        · rw [mergeBack_nil h.pairsFiled] at hs
          cases hs
          exact h.congr rfl hlock.symm rfl rfl
        · next hsink =>
          cases hs
          exact h.flush (by simpa using hsink) hlock
    | flushing _ => simp [hlock] at hs
    | clearing => simp [hlock] at hs
  | written now =>
    simp only [Discovery.step] at hs
    cases hlock : r.lock with
    | flushing pending =>
      simp only [hlock] at hs
      split at hs
      · cases hs
        exact h.written hlock
      · cases hs
        exact (h.written (n := r.flushedPairs + pending.length) hlock).congr rfl rfl rfl rfl
    | free => simp [hlock] at hs
    | clearing => simp [hlock] at hs
  | notWritten cancelled =>
    simp only [Discovery.step] at hs
    cases hlock : r.lock with
    | flushing pending =>
      simp only [hlock] at hs
      cases hs
      exact (h.notWritten hlock hok).countError cancelled
    | free => simp [hlock] at hs
    | clearing => simp [hlock] at hs
  | pruned =>
    simp only [Discovery.step] at hs
    split at hs
    · cases hs
    · cases hs
      exact h.congr rfl rfl (pruneDnsQueries_of_le hok) rfl
  | notPruned cancelled =>
    simp only [Discovery.step] at hs
    split at hs
    · cases hs
    · cases hs
      -- a failed prune deletes nothing
      have hdone : Inv cfg { r with pruning := r.pruning - 1 } := h.congr rfl rfl rfl rfl
      exact hdone.countError cancelled
  | clear =>
    simp only [Discovery.step] at hs
    cases hlock : r.lock with
    | free =>
      simp only [hlock] at hs
      cases hs
      exact h.clear
    | flushing _ => simp [hlock] at hs
    | clearing => simp [hlock] at hs
  | cleared =>
    simp only [Discovery.step] at hs
    cases hlock : r.lock with
    | clearing =>
      simp only [hlock] at hs
      cases hs
      exact h.cleared hlock _ rfl
    | free => simp [hlock] at hs
    | flushing _ => simp [hlock] at hs
  | notCleared cancelled =>
    simp only [Discovery.step] at hs
    cases hlock : r.lock with
    | clearing =>
      simp only [hlock] at hs
      cases hs
      exact (h.cleared hlock _ hok).countError cancelled
    | free => simp [hlock] at hs
    | flushing _ => simp [hlock] at hs

/-- **Run lemma.** In every run of orderly steps, at every point, the account is right. -/
theorem accounts_of_orderly (h : ReachesUnder (Discovery.step cfg) (Orderly cfg) .new r) : Accounts cfg r :=
  (h.invariant Inv.start fun _ l _ hinv hok hs => hinv.step l hok hs).toAccounts

end

/-! ## An older status comes back -/

/-- A recorder that keeps two pairs in memory. -/
def smallRecorder : Settings where
  interp := asciiInterp
  upper s := s
  hasSink := true
  enabled := true
  maxRows := 2
  pruneIntervalS := 60

/-- A query is forwarded, its batch is under way, the name is intercepted from then on; the write fails. -/
def failedWrite : List Label :=
  [.note "10.0.0.5" "lamp.example" "A" "forwarded" 1, .flush,
    .note "10.0.0.5" "lamp.example" "A" "intercepted" 2, .notWritten false]

/-- The same, with a write that goes through. -/
def cleanRun : List Label :=
  [.note "10.0.0.5" "lamp.example" "A" "forwarded" 1, .flush,
    .note "10.0.0.5" "lamp.example" "A" "intercepted" 2, .written 3, .pruned]

theorem accounts_cleanRun : ∃ r, exec (step smallRecorder) .new cleanRun = some r ∧
    Accounts smallRecorder r := by
  have hrun : (exec (step smallRecorder) .new cleanRun).isSome = true := by decide
  have hok : AllOk (step smallRecorder) (Orderly smallRecorder) .new cleanRun := by decide
  obtain ⟨r, hr⟩ := Option.isSome_iff_exists.mp hrun
  exact ⟨r, hr, accounts_of_orderly (reachesUnder_of_exec .start cleanRun hr hok)⟩

/-- The pair of the query. -/
def lampPair : PairKey := pairKey smallRecorder "10.0.0.5" "lamp.example" "A"

/-- **The status of the older observation.** The name was intercepted last, and is recorded as forwarded. -/
theorem not_accounts_failedWrite : ∃ r, exec (step smallRecorder) .new failedWrite = some r ∧
    ¬ Accounts smallRecorder r := by
  have hrun : (exec (step smallRecorder) .new failedWrite).isSome = true := by decide
  obtain ⟨r, hr⟩ := Option.isSome_iff_exists.mp hrun
  refine ⟨r, hr, fun h => ?_⟩
  have hstatus := h.status lampPair
  have hcurrent : (exec (step smallRecorder) .new failedWrite).map
      (fun r => decide ((r.current lampPair).map PairCounters.status = r.lastStatus lampPair)) = some false := by
    decide
  rw [hr, Option.map_some, Option.some_inj, decide_eq_false_iff_not] at hcurrent
  exact hcurrent hstatus

end RideTheApi.Discovery
