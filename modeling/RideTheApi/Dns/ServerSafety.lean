import RideTheApi.Dns.PolicySafety
import RideTheApi.Dns.Queries
import RideTheApi.Lib.Except
import RideTheApi.Lib.Slots

/-!
# `Dns.ServerSafety` — what clients get, and what is counted

Whatever queries, answers of resolvers, failures, new settings and broken connections come in whatever order:

* Each query is answered as if it were alone, under the settings it started with (`answers_honest`).
* The counters are what the queries show (`stats_exact`).
* A datagram is answered once, and a connection gets the answers to what it sent in that order (`transports_exact`).

A step moves one query, which starts or goes on, and then delivers it. `Ready` is the state without that query; from it
and the query as it has become, the invariant holds again (`Ready.deliver`).
-/

namespace RideTheApi.Dns.Server

open Py Transition

variable {Q M : Type} {H : Host} {D : Dnspython Q M} {isSelf : Str → Bool} {s s' : State Q M}

/-! ## Connections -/

/-- The query was returned this message. -/
def Returned (t : Task Q M) (wire : Bytes) : Prop := t.phase = .returned (some wire)

/-- What a connection was sent for the queries it has, all returned. -/
def Answered (c : Conn) (queries : List (Task Q M)) : Prop :=
  ∃ answers, List.Forall₂ Returned queries answers ∧ c.output = answers.flatMap frame

/-- What a connection is doing about its last query. -/
inductive Last : Stage → List (Task Q M) → Prop where
  | reading : Last .reading []
  | waiting {t : Task Q M} (h : t.phase.over = false) : Last .waiting [t]
  | closed : Last .closed []
  | ended {t : Task Q M} (h : t.phase.over = true) : Last .closed [t]

/-- **Served.** What a connection received is its queries and what it has not read, and what was written are the answers
    to all of them but perhaps the last, in their order. -/
structure Served (c : Conn) (queries : List (Task Q M)) : Prop where
  failed : c.failed = true → c.status = .closed
  received : c.received = queries.flatMap (fun t => frame t.data) ++ c.input
  answered : ∃ answered last, queries = answered ++ last ∧ Answered c answered ∧ Last c.status last

/-- A connection waits for a query with this data. -/
structure Waits (c : Conn) (answered : List (Task Q M)) (data : Bytes) : Prop where
  waiting : c.status = .waiting
  failed : c.failed = false
  received : c.received = answered.flatMap (fun t => frame t.data) ++ frame data ++ c.input
  answered : Answered c answered

/-- A message that was read was framed. -/
theorem readFrame_spec {input payload rest : Bytes} (h : readFrame input = .message payload rest) :
    input = frame payload ++ rest := by
  unfold readFrame at h
  split at h
  · next high low tail =>
    dsimp only at h
    split_ifs at h with hzero hshort
    simp only [Reading.message.injEq] at h
    obtain ⟨rfl, rfl⟩ := h
    have hlen : (tail.take (256 * high.val + low.val)).length = 256 * high.val + low.val := by
      rw [List.length_take]; omega
    have hhigh : (256 * high.val + low.val) / 256 = high.val := by omega
    have hlow : (256 * high.val + low.val) % 256 = low.val := by omega
    rw [frame, hlen, hhigh, hlow, List.cons_append, List.cons_append, List.take_append_drop]
    simp
  · cases h

/-- The query a connection waits for is its last. -/
theorem Served.waits {c : Conn} {t : Task Q M} {before after : List (Task Q M)}
    (h : Served c (before ++ t :: after)) (hw : t.phase.over = false) : after = [] ∧ Waits c before t.data := by
  obtain ⟨answered, last, heq, hanswered, hlast⟩ := h.answered
  have hnotin : t ∉ answered := by
    intro hmem
    obtain ⟨answers, hall, -⟩ := hanswered
    obtain ⟨wire, -, hwire⟩ := hall.exists_right hmem
    rw [hwire] at hw
    cases hw
  have hmem : t ∈ answered ++ last := heq ▸ by simp
  have hlast' : last = [t] ∧ c.status = .waiting := by
    have hmem' := (List.mem_append.mp hmem).resolve_left hnotin
    generalize c.status = stage at hlast
    cases hlast with
    | reading => cases hmem'
    | closed => cases hmem'
    | waiting _ => exact ⟨by rw [List.mem_singleton.mp hmem'], rfl⟩
    | ended hover =>
      rw [List.mem_singleton.mp hmem', hover] at hw
      cases hw
  obtain ⟨rfl, hstatus⟩ := hlast'
  have hfailed : c.failed = false := by
    by_contra hf
    rw [h.failed (by simpa using hf)] at hstatus
    cases hstatus
  rcases List.eq_nil_or_concat after with rfl | ⟨q, u, rfl⟩
  · obtain rfl : before = answered := (List.append_inj' heq rfl).1
    exact ⟨rfl, hstatus, hfailed, by simpa using h.received, hanswered⟩
  · have hcut : (before ++ t :: q) ++ [u] = answered ++ [t] := by simpa using heq
    have hmid : before ++ t :: q = answered := (List.append_inj' hcut rfl).1
    exact absurd (hmid ▸ by simp) hnotin

theorem tcpReply_returned (c : Conn) (wire : Bytes) :
    tcpReply c (.returned (some wire) : Phase Q) =
      if 65535 < wire.length then c.close true
      else match c.broken with
        | some how => c.close (how = .other)
        | none     => ({ c with output := c.output ++ frame wire, status := .reading }, []) := rfl

/-- A query that is over is replied to; while it is not, the connection waits. -/
theorem Waits.served {c : Conn} {t : Task Q M} {before : List (Task Q M)} (h : Waits c before t.data) :
    Served (if t.phase.over then (tcpReply c t.phase).1 else c) (before ++ [t]) := by
  obtain ⟨answers, hall, houtput⟩ := h.answered
  have hreceived : c.received = (before ++ [t]).flatMap (fun t => frame t.data) ++ c.input := by
    simpa using h.received
  have hclosed (hover : t.phase.over = true) (failed : Bool) : Served (c.close failed).1 (before ++ [t]) :=
    ⟨fun _ => rfl, hreceived, before, [t], rfl, ⟨answers, hall, houtput⟩, .ended hover⟩
  split
  · next hover =>
    cases hphase : t.phase with
    | udp query server rest => rw [hphase] at hover; cases hover
    | tcp query server rest => rw [hphase] at hover; cases hover
    | raised => exact hclosed hover true
    | cancelled => exact hclosed hover false
    | returned response =>
      cases response with
      | none => exact hclosed hover false
      | some wire =>
        rw [tcpReply_returned]
        by_cases hlong : 65535 < wire.length
        · rw [if_pos hlong]
          exact hclosed hover true
        · rw [if_neg hlong]
          cases c.broken with
          | some how => exact hclosed hover _
          | none =>
            refine ⟨fun hf => ?_, hreceived, before ++ [t], [], by simp, ⟨answers ++ [wire], ?_, ?_⟩, .reading⟩
            · exact absurd hf (by simp [h.failed])
            · exact List.rel_append hall (.cons hphase .nil)
            · simp [houtput]
  · next hover =>
    refine ⟨fun hf => ?_, hreceived, before, [t], rfl, ⟨answers, hall, houtput⟩, ?_⟩
    · exact absurd hf (by simp [h.failed])
    · rw [h.waiting]
      exact .waiting (by simpa using hover)

/-! ## The invariant -/

/-- The queries of a connection. -/
def queriesOf (i : Nat) (tasks : List (Task Q M)) : List (Task Q M) := tasks.filter fun t => t.origin == .tcp i

/-- The connections that ended with an exception count as errors. -/
def failures (conns : List Conn) (k : Counter) : Nat := if k = .errors then conns.countP Conn.failed else 0

variable (H D isSelf) in
structure Inv (s : State Q M) : Prop where
  honest : ∀ t ∈ s.tasks, t.Honest H D isSelf
  stats : ∀ k, s.stats k = (s.tasks.map fun t => t.tally H D isSelf k).sum + failures s.conns k
  sent : s.sent.Perm (s.tasks.filterMap Task.datagram)
  served : ∀ i c, s.conns[i]? = some c → Served c (queriesOf i s.tasks)
  known : ∀ t ∈ s.tasks, ∀ i, t.origin = .tcp i → i < s.conns.length

variable (H D isSelf) in
/-- The invariant but for one query, from here and with this data, which is about to stand between these. -/
structure Ready (origin : Origin) (data : Bytes) (before after : List (Task Q M)) (s : State Q M) : Prop where
  honest : ∀ t ∈ before ++ after, t.Honest H D isSelf
  sent : s.sent.Perm ((before ++ after).filterMap Task.datagram)
  served : ∀ i c, s.conns[i]? = some c → origin ≠ .tcp i → Served c (queriesOf i (before ++ after))
  waits : ∀ i, origin = .tcp i →
    ∃ c, s.conns[i]? = some c ∧ Waits c (queriesOf i before) data ∧ queriesOf i after = []
  known : ∀ t ∈ before ++ after, ∀ i, t.origin = .tcp i → i < s.conns.length

theorem queriesOf_ne {t : Task Q M} {i : Nat} (h : t.origin ≠ .tcp i) (before after : List (Task Q M)) :
    queriesOf i (before ++ t :: after) = queriesOf i (before ++ after) := by
  simp [queriesOf, h]

theorem queriesOf_self {t : Task Q M} {i : Nat} (h : t.origin = .tcp i) (before after : List (Task Q M)) :
    queriesOf i (before ++ t :: after) = queriesOf i before ++ t :: queriesOf i after := by
  simp [queriesOf, h]

/-- A connection that changes takes its failure with it. -/
theorem failures_set {conns : List Conn} {i : Nat} {c : Conn} (hc : conns[i]? = some c) (c' : Conn) (k : Counter) :
    failures (conns.set i c') k + (if k = .errors then c.failed.toNat else 0) =
      failures conns k + if k = .errors then c'.failed.toNat else 0 := by
  obtain ⟨before, after, rfl, hset⟩ := Slots.exists_split hc c'
  rw [failures, failures, hset]
  by_cases hk : k = .errors
  · cases hf : c.failed <;> cases hf' : c'.failed <;> (simp [hk, hf, hf']; try omega)
  · simp [hk]

theorem close_count (c : Conn) (failed : Bool) (k : Counter) :
    (c.close failed).2.count k = if k = .errors then (c.close failed).1.failed.toNat else 0 := by
  cases failed <;> cases k <;> simp [Conn.close]

/-- What a reply counts is the exception that ended the connection. -/
theorem tcpReply_count {c : Conn} (h : c.failed = false) (phase : Phase Q) (k : Counter) :
    (tcpReply c phase).2.count k = if k = .errors then (tcpReply c phase).1.failed.toNat else 0 := by
  cases phase with
  | udp query server rest => exact close_count c false k
  | tcp query server rest => exact close_count c false k
  | raised => exact close_count c true k
  | cancelled => exact close_count c false k
  | returned response =>
    cases response with
    | none => exact close_count c false k
    | some wire =>
      rw [tcpReply_returned]
      by_cases hlong : 65535 < wire.length
      · rw [if_pos hlong]
        exact close_count c true k
      · rw [if_neg hlong]
        cases c.broken with
        | some how => exact close_count c _ k
        | none => simp [h]

@[simp] theorem deliver_tasks (origin : Origin) (phase : Phase Q) : (deliver s origin phase).tasks = s.tasks := by
  unfold deliver State.turn State.count State.setConn
  split
  · cases origin with
    | udp client => dsimp only; split <;> rfl
    | tcp i => dsimp only; split <;> rfl
  · rfl

theorem deliver_udp {t : Task Q M} {client : Str} (h : t.origin = .udp client) :
    deliver s t.origin t.phase = { s with sent := s.sent ++ t.datagram.toList } := by
  unfold deliver Task.datagram
  rw [h]
  cases t.phase with
  | returned response =>
    rcases response with - | - | ⟨b, wire⟩
    · simp [Phase.over]
    · simp [Phase.over]
    · simp [Phase.over]
  | udp query server rest => simp [Phase.over]
  | tcp query server rest => simp [Phase.over]
  | raised => simp [Phase.over]
  | cancelled => simp [Phase.over]

theorem deliver_tcp {i : Nat} {c : Conn} (h : s.conns[i]? = some c) (phase : Phase Q) :
    deliver s (.tcp i) phase = if phase.over then s.turn i (tcpReply c phase) else s := by
  simp [deliver, h]

/-- The query is delivered, and the invariant holds. -/
theorem Ready.deliver {t : Task Q M} {before after : List (Task Q M)}
    (h : Ready H D isSelf t.origin t.data before after s) (htasks : s.tasks = before ++ t :: after)
    (hhonest : t.Honest H D isSelf)
    (hstats : ∀ k, s.stats k = (s.tasks.map fun t => t.tally H D isSelf k).sum + failures s.conns k) :
    Inv H D isSelf (deliver s t.origin t.phase) := by
  have hmem : ∀ u ∈ s.tasks, u = t ∨ u ∈ before ++ after := by
    intro u hu
    rw [htasks] at hu
    simp only [List.mem_append, List.mem_cons] at hu ⊢
    tauto
  have hall : ∀ u ∈ s.tasks, u.Honest H D isSelf := by
    intro u hu
    rcases hmem u hu with rfl | hu
    · exact hhonest
    · exact h.honest u hu
  have hsent : (s.sent ++ t.datagram.toList).Perm (s.tasks.filterMap Task.datagram) := by
    rw [htasks, List.filterMap_append, List.filterMap_cons]
    have hperm := h.sent
    rw [List.filterMap_append] at hperm
    cases t.datagram with
    | none => simpa using hperm
    | some d =>
      refine (hperm.append_right [d]).trans ?_
      rw [List.append_assoc]
      exact (List.perm_append_singleton d _).append_left _
  cases horigin : t.origin with
  | udp client =>
    have hne (i : Nat) : t.origin ≠ .tcp i := by simp [horigin]
    rw [← horigin, deliver_udp horigin]
    refine ⟨hall, hstats, hsent, fun i c hc => ?_, fun u hu i hi => ?_⟩
    · rw [htasks, queriesOf_ne (hne i)]
      exact h.served i c hc (hne i)
    · rcases hmem u hu with rfl | hu
      · exact absurd hi (hne i)
      · exact h.known u hu i hi
  | tcp i =>
    obtain ⟨c, hc, hwaits, hafter⟩ := h.waits i horigin
    have hi : i < s.conns.length := (List.getElem?_eq_some_iff.mp hc).1
    have hqueries : queriesOf i s.tasks = queriesOf i before ++ [t] := by
      rw [htasks, queriesOf_self horigin, hafter]
    have hother {j : Nat} {c' : Conn} (hj : i ≠ j) (hc' : s.conns[j]? = some c') :
        Served c' (queriesOf j s.tasks) := by
      have hne : t.origin ≠ .tcp j := by simpa [horigin] using hj
      rw [htasks, queriesOf_ne hne]
      exact h.served j c' hc' hne
    have hknown : ∀ u ∈ s.tasks, ∀ j, u.origin = .tcp j → j < s.conns.length := by
      intro u hu j hj
      rcases hmem u hu with rfl | hu
      · rw [horigin] at hj
        cases hj
        exact hi
      · exact h.known u hu j hj
    have hsent' : s.sent.Perm (s.tasks.filterMap Task.datagram) := by
      simpa [show t.datagram = none by simp [Task.datagram, horigin]] using hsent
    have hserved := hwaits.served
    rw [deliver_tcp hc]
    by_cases hover : t.phase.over = true
    · rw [if_pos hover] at hserved ⊢
      refine ⟨hall, fun k => ?_, hsent', fun j c' hc' => ?_, fun u hu j hj => ?_⟩
      · show s.stats k + _ = _ + failures (s.conns.set i _) k
        have hset := failures_set hc (tcpReply c t.phase).1 k
        rw [hstats, tcpReply_count hwaits.failed]
        simp only [hwaits.failed, Bool.toNat_false, ite_self, Nat.add_zero] at hset
        rw [hset, Nat.add_assoc]
        rfl
      · by_cases hij : i = j
        · subst hij
          obtain rfl : _ = c' := by simpa [State.turn, State.count, State.setConn, hi] using hc'
          show Served _ (queriesOf i s.tasks)
          rw [hqueries]
          exact hserved
        · exact hother hij (by simpa [State.turn, State.count, State.setConn, hij] using hc')
      · simpa [State.turn, State.count, State.setConn] using hknown u hu j hj
    · rw [if_neg hover] at hserved ⊢
      refine ⟨hall, hstats, hsent', fun j c' hc' => ?_, hknown⟩
      by_cases hij : i = j
      · subst hij
        obtain rfl : c = c' := Option.some.inj (hc.symm.trans hc')
        rw [hqueries]
        exact hserved
      · exact hother hij hc'

/-! ## Steps -/

@[simp] theorem setConn_tasks (s : State Q M) (i : Nat) (c : Conn) : (s.setConn i c).tasks = s.tasks := rfl

@[simp] theorem setConn_sent (s : State Q M) (i : Nat) (c : Conn) : (s.setConn i c).sent = s.sent := rfl

@[simp] theorem setConn_conns (s : State Q M) (i : Nat) (c : Conn) : (s.setConn i c).conns = s.conns.set i c := rfl

@[simp] theorem count_nil (s : State Q M) : s.count [] = s := by simp [State.count]

theorem inv_initial (settings : Settings) : Inv H D isSelf (initial settings : State Q M) := by
  refine ⟨by simp [initial], fun k => by simp [initial, failures], by simp [initial], by simp [initial], by simp [initial]⟩

theorem Ready.congr {origin : Origin} {data : Bytes} {before after : List (Task Q M)}
    (h : Ready H D isSelf origin data before after s) (hsent : s'.sent = s.sent) (hconns : s'.conns = s.conns) :
    Ready H D isSelf origin data before after s' := by
  obtain ⟨hhonest, hsent', hserved, hwaits, hknown⟩ := h
  exact ⟨hhonest, hsent ▸ hsent', hconns ▸ hserved, hconns ▸ hwaits, hconns ▸ hknown⟩

/-- A query starts. -/
theorem Ready.start {origin : Origin} {data : Bytes} (h : Ready H D isSelf origin data s.tasks [] s) (client : Str)
    (hstats : ∀ k, s.stats k = (s.tasks.map fun t => t.tally H D isSelf k).sum + failures s.conns k) :
    Inv H D isSelf (start H D isSelf s origin client data) := by
  let t : Task Q M := Task.begun H D isSelf origin client s.settings data
  let begun := { s with tasks := s.tasks ++ [t] }.count (handleQuery H D (isSelf client) s.settings data).2
  have hready : Ready H D isSelf t.origin t.data s.tasks [] begun := h.congr rfl rfl
  refine hready.deliver rfl (honest_begun origin client s.settings data) fun k => ?_
  show s.stats k + _ = _ + failures s.conns k
  rw [hstats, ← tally_begun origin]
  simp only [begun, State.count, List.map_append, List.map_cons, List.map_nil, List.sum_append, List.sum_singleton, t]
  omega

theorem Inv.datagram (h : Inv H D isSelf s) (client : Str) (data : Bytes) :
    Inv H D isSelf (start H D isSelf s (.udp client) client data) := by
  refine Ready.start ⟨?_, ?_, fun i c hc _ => ?_, fun i hi => ?_, ?_⟩ client h.stats
  · simpa using h.honest
  · simpa using h.sent
  · simpa using h.served i c hc
  · cases hi
  · simpa using h.known

/-- A query that waits becomes another. -/
theorem Inv.replace {i : Nat} {t : Task Q M} (h : Inv H D isSelf s) (t' : Task Q M) (ht : s.tasks[i]? = some t)
    (hw : t.phase.over = false) (horigin : t'.origin = t.origin) (hdata : t'.data = t.data)
    (hhonest : t'.Honest H D isSelf) {counted : List Counter}
    (htally : ∀ k, t'.tally H D isSelf k = t.tally H D isSelf k + counted.count k) :
    Inv H D isSelf (deliver ({ s with tasks := s.tasks.set i t' }.count counted) t'.origin t'.phase) := by
  obtain ⟨before, after, hsplit, hset⟩ := Slots.exists_split ht t'
  have hnone : t.datagram = none := by
    cases hphase : t.phase with
    | returned response => rw [hphase] at hw; cases hw
    | udp query server rest => simp [Task.datagram, hphase]
    | tcp query server rest => simp [Task.datagram, hphase]
    | raised => simp [Task.datagram, hphase]
    | cancelled => simp [Task.datagram, hphase]
  have hmem {u : Task Q M} (hu : u ∈ before ++ after) : u ∈ s.tasks := by
    rw [hsplit]
    simp only [List.mem_append, List.mem_cons] at hu ⊢
    tauto
  have hready : Ready H D isSelf t'.origin t'.data before after s := by
    rw [horigin, hdata]
    refine ⟨fun u hu => h.honest u (hmem hu), ?_, fun j c hc hj => ?_, fun j hj => ?_, fun u hu => h.known u (hmem hu)⟩
    · simpa [hsplit, hnone] using h.sent
    · rw [← queriesOf_ne hj, ← hsplit]
      exact h.served j c hc
    · have hlt := h.known t (by simp [hsplit]) j hj
      have hserved := h.served j s.conns[j] (by simp [hlt])
      rw [hsplit, queriesOf_self hj] at hserved
      obtain ⟨hafter, hwaits⟩ := hserved.waits hw
      exact ⟨s.conns[j], by simp [hlt], hwaits, hafter⟩
  have hmoved : Ready H D isSelf t'.origin t'.data before after ({ s with tasks := s.tasks.set i t' }.count counted) :=
    hready.congr rfl rfl
  refine hmoved.deliver hset hhonest fun k => ?_
  show s.stats k + _ = (List.map _ (s.tasks.set i t')).sum + failures s.conns k
  have hstats := h.stats k
  rw [hsplit] at hstats
  rw [hset]
  simp only [List.map_append, List.map_cons, List.sum_append, List.sum_cons, htally k] at hstats ⊢
  omega

/-- A resolver answered or failed. -/
theorem Inv.goOn {i : Nat} {t : Task Q M} {answer : Option M} (h : Inv H D isSelf s) (ht : s.tasks[i]? = some t)
    (hs : goOn H D s i t answer = some s') : Inv H D isSelf s' := by
  obtain ⟨next, hnext, rfl⟩ := Option.map_eq_some_iff.mp hs
  have hhonest := h.honest t (List.mem_of_getElem? ht)
  exact h.replace (t.resumed next) ht (waiting_of_resume hnext) rfl rfl (hhonest.resumed hnext)
    (hhonest.tally_resumed hnext)

theorem Inv.cancel {i : Nat} {t : Task Q M} (h : Inv H D isSelf s) (ht : s.tasks[i]? = some t)
    (hw : t.phase.over = false) :
    Inv H D isSelf (deliver { s with tasks := s.tasks.set i { t with phase := .cancelled } } t.origin .cancelled) := by
  let t' : Task Q M := { t with phase := .cancelled }
  have hhonest : t'.Honest H D isSelf := (h.honest t (List.mem_of_getElem? ht)).cancelled hw
  have htally (k : Counter) : t'.tally H D isSelf k = t.tally H D isSelf k + ([] : List Counter).count k := rfl
  simpa using h.replace t' ht hw rfl rfl hhonest htally

/-- A connection becomes another that is served, and counts its failure. -/
theorem Inv.turn {i : Nat} {c : Conn} (h : Inv H D isSelf s) (hc : s.conns[i]? = some c) (next : Conn × List Counter)
    (hserved : Served next.1 (queriesOf i s.tasks))
    (hcounts : ∀ k, next.2.count k + (if k = .errors then c.failed.toNat else 0) =
      if k = .errors then next.1.failed.toNat else 0) : Inv H D isSelf (s.turn i next) := by
  have hi : i < s.conns.length := (List.getElem?_eq_some_iff.mp hc).1
  refine ⟨h.honest, fun k => ?_, h.sent, fun j c' hc' => ?_, fun t ht j hj => ?_⟩
  · show s.stats k + next.2.count k = _ + failures (s.conns.set i next.1) k
    have hset := failures_set hc next.1 k
    have hstats := h.stats k
    have hcount := hcounts k
    show s.stats k + next.2.count k = (s.tasks.map fun t => t.tally H D isSelf k).sum + _
    omega
  · show Served c' (queriesOf j s.tasks)
    by_cases hij : i = j
    · subst hij
      obtain rfl : next.1 = c' := by simpa [State.turn, State.count, State.setConn, hi] using hc'
      exact hserved
    · exact h.served j c' (by simpa [State.turn, State.count, State.setConn, hij] using hc')
  · simpa [State.turn, State.count, State.setConn] using h.known t ht j hj

/-- A connection changes without counting. -/
theorem Inv.setConn {i : Nat} {c : Conn} (h : Inv H D isSelf s) (hc : s.conns[i]? = some c) (c' : Conn)
    (hserved : Served c' (queriesOf i s.tasks)) (hfailed : c'.failed = c.failed) : Inv H D isSelf (s.setConn i c') := by
  have hturn : Inv H D isSelf (s.turn i (c', [])) := h.turn hc (c', []) hserved fun k => by simp [hfailed]
  simpa [State.turn] using hturn

/-- `_handle_tcp` ends while it reads. -/
theorem Inv.close {i : Nat} {c : Conn} (h : Inv H D isSelf s) (hc : s.conns[i]? = some c) (c' : Conn)
    (hserved : Served c' (queriesOf i s.tasks)) (hreading : c.status = .reading) (hreading' : c'.status = .reading)
    (failed : Bool) : Inv H D isSelf (s.turn i (c'.close failed)) := by
  have hfailed : c.failed = false := by
    by_contra hf
    rw [(h.served i c hc).failed (by simpa using hf)] at hreading
    cases hreading
  obtain ⟨answered, last, hqueries, hanswered, hlast⟩ := hserved.answered
  rw [hreading'] at hlast
  have hclosed : Served (c'.close failed).1 (queriesOf i s.tasks) := by
    refine ⟨fun _ => rfl, hserved.received, answered, last, hqueries, hanswered, ?_⟩
    cases hlast
    exact .closed
  exact h.turn hc _ hclosed fun k => by simp [close_count, hfailed]

/-- A connection reads. -/
theorem Inv.readConn {i : Nat} {c : Conn} (h : Inv H D isSelf s) (hc : s.conns[i]? = some c)
    (hs : readConn H D isSelf s i c = some s') : Inv H D isSelf s' := by
  have hserved := h.served i c hc
  have hi : i < s.conns.length := (List.getElem?_eq_some_iff.mp hc).1
  unfold Server.readConn at hs
  split at hs
  · next payload rest hreading hframe =>
    obtain rfl := Option.some.inj hs
    obtain ⟨answered, last, hqueries, hanswered, hlast⟩ := hserved.answered
    have hfailed : c.failed = false := by
      by_contra hf
      rw [hserved.failed (by simpa using hf)] at hreading
      cases hreading
    rw [hreading] at hlast
    have hlast' : last = [] := by cases hlast; rfl
    let c' : Conn := { c with input := rest, status := .waiting }
    have hwaits : Waits c' (queriesOf i s.tasks) payload := by
      refine ⟨rfl, hfailed, ?_, ?_⟩
      · show c.received = _ ++ rest
        rw [hserved.received, readFrame_spec hframe, List.append_assoc]
      · rw [hqueries, hlast', List.append_nil]
        exact hanswered
    refine Ready.start ⟨?_, ?_, fun j d hd hj => ?_, fun j hj => ⟨c', ?_, ?_, rfl⟩, ?_⟩ c.peer fun k => ?_
    · simpa using h.honest
    · simpa using h.sent
    · have hij : i ≠ j := by simpa using hj
      simpa using h.served j d (by simpa [hij] using hd)
    · obtain rfl : i = j := by simpa using hj
      simp [hi, c']
    · obtain rfl : i = j := by simpa using hj
      exact hwaits
    · simpa using h.known
    · have hset := failures_set hc c' k
      have hstats := h.stats k
      show s.stats k = (s.tasks.map fun t => t.tally H D isSelf k).sum + failures (s.conns.set i c') k
      simp only [c'] at hset ⊢
      omega
  · next hreading hframe =>
    obtain rfl := Option.some.inj hs
    exact h.close hc c hserved hreading hreading false
  · next hreading hframe =>
    split_ifs at hs
    obtain rfl := Option.some.inj hs
    exact h.close hc c hserved hreading hreading false
  · cases hs

theorem Inv.step {l : Label M} (h : Inv H D isSelf s) (hs : step H D isSelf s l = some s') : Inv H D isSelf s' := by
  cases l with
  | datagram client data =>
    obtain rfl := Option.some.inj hs
    exact h.datagram client data
  | connect peer =>
    obtain rfl := Option.some.inj hs
    refine ⟨h.honest, fun k => ?_, h.sent, fun i c hc => ?_, fun t ht i hi => ?_⟩
    · simpa [failures] using h.stats k
    · by_cases hi : i < s.conns.length
      · exact h.served i c (by simpa [List.getElem?_append, hi] using hc)
      · have hnone : queriesOf i s.tasks = [] := by
          refine List.filter_eq_nil_iff.mpr fun t ht horigin => hi ?_
          exact h.known t ht i (by simpa using horigin)
        have hc' : c = { peer } := by
          rw [List.getElem?_append_right (Nat.le_of_not_lt hi)] at hc
          exact List.mem_singleton.mp (List.mem_of_getElem? hc)
        show Served c (queriesOf i s.tasks)
        rw [hnone, hc']
        exact ⟨by simp, by simp, [], [], rfl, ⟨[], .nil, rfl⟩, .reading⟩
    · exact Nat.lt_of_lt_of_le (h.known t ht i hi) (by simp)
  | receive i bytes =>
    obtain ⟨c, hc, hs⟩ := Option.bind_eq_some_iff.mp hs
    split_ifs at hs
    obtain rfl := Option.some.inj hs
    obtain ⟨hfailed, hreceived, hanswered⟩ := h.served i c hc
    exact h.setConn hc _ ⟨hfailed, by simp [hreceived], hanswered⟩ rfl
  | eof i =>
    obtain ⟨c, hc, rfl⟩ := Option.map_eq_some_iff.mp hs
    obtain ⟨hfailed, hreceived, hanswered⟩ := h.served i c hc
    exact h.setConn hc _ ⟨hfailed, hreceived, hanswered⟩ rfl
  | lost i how =>
    obtain ⟨c, hc, hs⟩ := Option.bind_eq_some_iff.mp hs
    obtain ⟨hfailed, hreceived, hanswered⟩ := h.served i c hc
    let c' : Conn := { c with ended := true, broken := some how }
    have hserved : Served c' (queriesOf i s.tasks) := ⟨hfailed, hreceived, hanswered⟩
    dsimp only at hs
    split_ifs at hs with hbroken hreading
    · obtain rfl := Option.some.inj hs
      exact h.close hc c' hserved hreading hreading _
    · obtain rfl := Option.some.inj hs
      exact h.setConn hc c' hserved rfl
  | read i =>
    obtain ⟨c, hc, hs⟩ := Option.bind_eq_some_iff.mp hs
    exact h.readConn hc hs
  | answered i answer =>
    obtain ⟨t, ht, hs⟩ := Option.bind_eq_some_iff.mp hs
    exact h.goOn ht hs
  | cancel i =>
    obtain ⟨t, ht, hs⟩ := Option.bind_eq_some_iff.mp hs
    split_ifs at hs with hover
    obtain rfl := Option.some.inj hs
    exact h.cancel ht (by simpa using hover)
  | applySettings cfg detected =>
    obtain rfl := Option.some.inj hs
    exact ⟨h.honest, h.stats, h.sent, h.served, h.known⟩

/-! ## Runs -/

variable {settings : Settings}

theorem inv_reached (h : Reaches (step H D isSelf) (initial settings) s) : Inv H D isSelf s :=
  h.invariant (inv_initial settings) fun _ _ _ hinv _ hs => hinv.step hs

/-- **A query is answered as if it were alone.** What it is answered and whom it asked follow from its data, its client
    and the settings it started under, in every run: one that cannot be read or asks nothing is not answered, one the
    policy intercepts is answered without asking anyone, and any other gets what the first resolver delivered that did
    not fail, each asked in its turn and again over TCP when its answer was truncated, and a failure when all failed. -/
theorem answers_honest (h : Reaches (step H D isSelf) (initial settings) s) : ∀ t ∈ s.tasks, t.Honest H D isSelf :=
  (inv_reached h).honest

/-- **The counters are exact.** In every run each counter is what the queries add to it, and `errors` counts besides the
    connections that an unexpected exception ended. -/
theorem stats_exact (h : Reaches (step H D isSelf) (initial settings) s) (k : Counter) :
    s.stats k = (s.tasks.map fun t => t.tally H D isSelf k).sum + failures s.conns k :=
  (inv_reached h).stats k

/-- **Nothing is lost, swapped or sent twice.** In every run the datagrams sent are the answers to the datagrams, one for
    each that has one, and what a connection was sent are the answers to the queries it sent, in their order, whatever
    order they come in. -/
theorem transports_exact (h : Reaches (step H D isSelf) (initial settings) s) :
    s.sent.Perm (s.tasks.filterMap Task.datagram) ∧
    ∀ i c, s.conns[i]? = some c → Served c (queriesOf i s.tasks) :=
  ⟨(inv_reached h).sent, (inv_reached h).served⟩

/-- `a.`, asked for its address. -/
def sampleQuery : Bytes := [0x12, 0x34, 1, 0, 0, 1, 0, 0, 0, 0, 0, 0, 1, 0x61, 0, 0, 1, 0, 1]

/-- Messages that are their bytes, for that query. -/
def sampleDns : Dnspython Bytes Bytes where
  fromWire data := if data = sampleQuery then some data else none
  question _ := [{ name := str "a.", rdtype := 1 }]
  makeResponse query := some (query.set 2 0x81)
  addAddress message _ ttl _ :=
    some (message.set 7 1 ++ [0xc0, 0x0c, 0, 1, 0, 1, 0, 0, 0, Fin.ofNat 256 ttl.toNat, 0, 4, 10, 0, 0, 1])
  setServfail message := message.set 3 2
  truncated message := (message.getD 2 0).val / 2 % 2 == 1
  toWire := some

/-- Two resolvers are known. -/
def sampleSettings : Settings :=
  { answerIp := str "10.0.0.1", ttl := 60, upstreams := [str "10.0.0.53", str "10.0.0.54:5353"] }

/-- A query arrives twice, over UDP and TCP; everything is intercepted from then on; both go on with the resolvers they
    know, and the answer of the second comes first. -/
def sampleRun : List (Label Bytes) :=
  [.datagram (str "10.0.0.7") sampleQuery, .connect (str "10.0.0.8"), .receive 0 (frame sampleQuery), .read 0,
   .applySettings { interceptAll := true } [], .answered 1 (some (sampleQuery.set 2 0x83)),
   .answered 0 none, .answered 1 (some (sampleQuery.set 2 0x81)), .answered 0 none, .receive 0 (frame sampleQuery), .read 0]

/-- What the queries came to in the end. -/
def sampleEnd : List (Phase Bytes) :=
  [.returned (some ((sampleQuery.set 2 0x81).set 3 2)), .returned (some (sampleQuery.set 2 0x81)),
   .returned (sampleDns.addAddress (sampleQuery.set 2 0x81) [] 60 [])]

theorem sampleRun_reaches : ∃ s, Reaches (step asciiHost sampleDns fun _ => false) (initial sampleSettings) s ∧
    s.tasks.map Task.phase = sampleEnd ∧
    [s.stats .refused, s.stats .forwarded, s.stats .tcpRetries, s.sent.length, s.conns.length] = [1, 2, 1, 1, 1] := by
  have hfacts : (exec (step asciiHost sampleDns fun _ => false) (initial sampleSettings) sampleRun).map (fun s =>
      (s.tasks.map Task.phase,
        [s.stats .refused, s.stats .forwarded, s.stats .tcpRetries, s.sent.length, s.conns.length])) =
      some (sampleEnd, [1, 2, 1, 1, 1]) := by decide +kernel
  obtain ⟨s, hrun, hs⟩ := Option.map_eq_some_iff.mp hfacts
  simp only [Prod.mk.injEq] at hs
  exact ⟨s, reaches_of_exec sampleRun hrun, hs⟩

theorem answers_honest_sampleRun : ∃ s : State Bytes Bytes, s.tasks.map Task.phase = sampleEnd ∧
    ∀ t ∈ s.tasks, t.Honest asciiHost sampleDns fun _ => false := by
  obtain ⟨s, hs, hphases, -⟩ := sampleRun_reaches
  exact ⟨s, hphases, answers_honest hs⟩

theorem stats_exact_sampleRun : ∃ s : State Bytes Bytes, s.tasks.map Task.phase = sampleEnd ∧ s.stats .refused = 1 ∧
    s.stats .refused = (s.tasks.map fun t => t.tally asciiHost sampleDns (fun _ => false) .refused).sum +
      failures s.conns .refused := by
  obtain ⟨s, hs, hphases, hcounts⟩ := sampleRun_reaches
  exact ⟨s, hphases, (List.cons.inj hcounts).1, stats_exact hs .refused⟩

theorem transports_exact_sampleRun : ∃ s : State Bytes Bytes, s.tasks.map Task.phase = sampleEnd ∧ s.sent.length = 1 ∧
    s.sent.Perm (s.tasks.filterMap Task.datagram) ∧ ∃ c, s.conns[0]? = some c ∧ Served c (queriesOf 0 s.tasks) := by
  obtain ⟨s, hs, hphases, hcounts⟩ := sampleRun_reaches
  obtain ⟨hperm, hserved⟩ := transports_exact hs
  simp only [List.cons.injEq] at hcounts
  obtain ⟨-, -, -, hsent, hconns, -⟩ := hcounts
  have hc : s.conns[0]? = some s.conns[0] := List.getElem?_eq_getElem _
  exact ⟨s, hphases, hsent, hperm, s.conns[0], hc, hserved 0 _ hc⟩

end RideTheApi.Dns.Server
