import Mathlib.Data.List.Forall2
import RideTheApi.Dns.Server

/-!
# `Dns.Queries` — what one query comes to

A query is **honest** (`Task.Honest`) when its answer and whom it asked follow from its data, its client and the settings
it started under: the server's own address where the policy says so, and else what the first resolver delivered that did
not fail, never a truncated datagram. It is from the start (`honest_begun`), and stays so whatever a resolver does
(`Task.Honest.resumed`) or when it is cancelled. What it adds to the counters shows in it (`Task.tally`).
-/

namespace RideTheApi.Dns.Server

open Py Transition

variable {Q M : Type}

/-! ## What a query comes to -/

section
variable (H : Host) (D : Dnspython Q M) (isSelf : Str → Bool)

/-- A resolver was asked, by TCP too if what it answered was truncated, and delivered nothing. -/
inductive Failed (server : Str) : List (Exchange M) → Prop where
  | udp : Failed server [⟨server, false, none⟩]
  | tcp {m : M} (h : D.truncated m = true) : Failed server [⟨server, false, some m⟩, ⟨server, true, none⟩]

/-- A resolver delivered a message, by UDP if that was not truncated. -/
inductive Delivered (server : Str) (message : M) : List (Exchange M) → Prop where
  | udp (h : D.truncated message = false) : Delivered server message [⟨server, false, some message⟩]
  | tcp {m : M} (h : D.truncated m = true) :
      Delivered server message [⟨server, false, some m⟩, ⟨server, true, some message⟩]

/-- A resolver is being asked. -/
inductive Asking (query : Q) (server : Str) (rest : List Str) : List (Exchange M) → Phase Q → Prop where
  | udp : Asking query server rest [] (.udp query server rest)
  | tcp {m : M} (h : D.truncated m = true) :
      Asking query server rest [⟨server, false, some m⟩] (.tcp query server rest)

/-- How far a query is with the resolvers that have not failed it. -/
inductive Standing (query : Q) : List Str → List (Exchange M) → Phase Q → Prop where
  | asking {server : Str} {rest : List Str} {es : List (Exchange M)} {phase : Phase Q}
      (h : Asking D query server rest es phase) : Standing query (server :: rest) es phase
  | cancelled {server : Str} {rest : List Str} {es : List (Exchange M)} {phase : Phase Q}
      (h : Asking D query server rest es phase) : Standing query (server :: rest) es .cancelled
  | unusable {server : Str} {rest : List Str} (h : splitUpstream H server = none) :
      Standing query (server :: rest) [] .raised
  | delivered {server : Str} {rest : List Str} {message : M} {es : List (Exchange M)}
      (h : Delivered D server message es) : Standing query (server :: rest) es (Phase.ofWire D (some message))
  | refused : Standing query [] [] (Phase.ofWire D (servfail D query))

/-- **Forwarded**: the resolvers are asked in their order, each after those before it failed. -/
def Forwarded (query : Q) (upstreams : List Str) (es : List (Exchange M)) (phase : Phase Q) : Prop :=
  ∃ (tried left : List Str) (attempts : List (List (Exchange M))) (last : List (Exchange M)),
    upstreams = tried ++ left ∧ List.Forall₂ (Failed D) tried attempts ∧ es = attempts.flatten ++ last ∧
      Standing H D query left last phase

namespace Task

variable (t : Task Q M)

/-- What a query asks. -/
def asks : Option (Q × Question) :=
  (D.fromWire t.data).bind fun query => (D.question query).head?.map fun question => (query, question)

/-- What the policy decides about it, by the settings it started under. -/
def decided (question : Question) : Dns.Status :=
  classify H t.settings.toInterceptor (H.lowerStr question.name) (isSelf t.client)

/-- **Honest.** What a query was answered and whom it asked follow from its data, its client and the settings it
    started under. -/
def Honest : Prop :=
  match t.asks D with
  | none => t.exchanges = [] ∧ t.phase = .returned none
  | some (query, question) =>
    if t.decided H isSelf question = .intercepted then
      t.exchanges = [] ∧ t.phase = Phase.ofWire D (interceptResponse D t.settings query question)
    else Forwarded H D query t.settings.upstreams t.exchanges t.phase

end Task

/-- Every resolver was asked in its turn, and none delivered. -/
def exhausted : List Str → List (Exchange M) → Bool
  | [], es => es.isEmpty
  | server :: rest, ⟨asked, false, none⟩ :: es => asked == server && exhausted rest es
  | server :: rest, ⟨asked, false, some m⟩ :: ⟨again, true, none⟩ :: es =>
    asked == server && again == server && D.truncated m && exhausted rest es
  | _ :: _, _ => false

namespace Task

variable (t : Task Q M)

def decision : Option Dns.Status := (t.asks D).map fun asked => t.decided H isSelf asked.2

def forwards : Bool :=
  t.decision H D isSelf == some .excluded || t.decision H D isSelf == some .forwarded

/-- What a query adds to a counter. -/
def tally : Counter → Nat
  | .intercepted => (t.decision H D isSelf == some .intercepted).toNat
  | .excluded    => (t.decision H D isSelf == some .excluded).toNat
  | .forwarded   => (t.forwards H D isSelf).toNat
  | .tcpRetries  => t.exchanges.countP fun e => e.overTcp && e.answer.isSome
  | .refused     => (t.forwards H D isSelf && exhausted D t.settings.upstreams t.exchanges).toNat
  | .errors      => (D.fromWire t.data).isNone.toNat

/-- The datagram that answers a query. -/
def datagram : Option (Str × Bytes) :=
  match t.origin, t.phase with
  | .udp client, .returned (some (b :: wire)) => some (client, b :: wire)
  | _, _ => none

end Task

/-! ## Forwarding -/

variable {H D} {query : Q} {upstreams left rest : List Str} {es : List (Exchange M)} {phase : Phase Q}

@[simp] theorem over_ofWire (message : Option M) : (Phase.ofWire D message : Phase Q).over = true := by
  unfold Phase.ofWire
  split <;> rfl

/-- What goes on is not over. -/
theorem waiting_of_resume {answer : Option M} {next : Exchange M × Phase Q × List Counter}
    (h : resume H D phase answer = some next) : phase.over = false := by
  cases phase with
  | udp query server rest => rfl
  | tcp query server rest => rfl
  | returned response => cases h
  | raised => cases h
  | cancelled => cases h

theorem standing_next (query : Q) (left : List Str) :
    Standing H D query left [] (nextUpstream H D query left).1 := by
  cases left with
  | nil => exact .refused
  | cons server rest =>
    by_cases h : (splitUpstream H server).isSome
    · simpa [nextUpstream, h] using .asking .udp
    · simpa [nextUpstream, h] using .unusable (by simpa using h)

theorem forwarded_next (query : Q) (upstreams : List Str) :
    Forwarded H D query upstreams [] (nextUpstream H D query upstreams).1 :=
  ⟨[], upstreams, [], [], rfl, .nil, rfl, standing_next query upstreams⟩

/-- A query that waits is asking a resolver. -/
theorem Standing.asking_of_waiting (h : Standing H D query left es phase) (hw : phase.over = false) :
    ∃ server rest, left = server :: rest ∧ Asking D query server rest es phase := by
  cases h with
  | asking h => exact ⟨_, _, rfl, h⟩
  | cancelled h => simp [Phase.over] at hw
  | unusable h => simp [Phase.over] at hw
  | delivered h => simp at hw
  | refused => simp at hw

/-- One more resolver has failed. -/
theorem Forwarded.next {tried : List Str} {attempts : List (List (Exchange M))} {server : Str}
    (htried : List.Forall₂ (Failed D) tried attempts) (hfailed : Failed D server es) (rest : List Str) :
    Forwarded H D query (tried ++ server :: rest) (attempts.flatten ++ es) (nextUpstream H D query rest).1 :=
  ⟨tried ++ [server], rest, attempts ++ [es], [], by simp, List.rel_append htried (.cons hfailed .nil), by simp,
    standing_next query rest⟩

/-- What a resolver did keeps a query in order. -/
theorem Forwarded.resumed {answer : Option M} {next : Exchange M × Phase Q × List Counter}
    (h : Forwarded H D query upstreams es phase) (hnext : resume H D phase answer = some next) :
    Forwarded H D query upstreams (es ++ [next.1]) next.2.1 := by
  obtain ⟨tried, left, attempts, last, rfl, htried, rfl, hstands⟩ := h
  obtain ⟨server, rest, rfl, hasking⟩ := hstands.asking_of_waiting (waiting_of_resume hnext)
  cases hasking with
  | udp =>
    obtain rfl := Option.some.inj hnext
    cases answer with
    | none => simpa using Forwarded.next htried .udp rest
    | some m =>
      refine ⟨tried, server :: rest, attempts, [⟨server, false, some m⟩], rfl, htried, by simp, ?_⟩
      by_cases htrunc : D.truncated m = true
      · simpa [htrunc] using Standing.asking (.tcp htrunc)
      · simpa [htrunc] using Standing.delivered (.udp (by simpa using htrunc))
  | tcp htrunc =>
    obtain rfl := Option.some.inj hnext
    cases answer with
    | none => simpa using Forwarded.next htried (.tcp htrunc) rest
    | some m =>
      exact ⟨tried, server :: rest, attempts, _, rfl, htried, by simp, .delivered (.tcp htrunc)⟩

/-! ## Counting -/

@[simp] theorem counted_next (query : Q) (left : List Str) :
    (nextUpstream H D query left).2 = if left = [] then [.refused] else [] := by
  cases left with
  | nil => rfl
  | cons server rest => unfold nextUpstream; simp [apply_ite Prod.snd]

/-- Resolvers that failed do not decide whether all did. -/
theorem exhausted_failed {tried left : List Str} {attempts : List (List (Exchange M))} {last : List (Exchange M)}
    (h : List.Forall₂ (Failed D) tried attempts) :
    exhausted D (tried ++ left) (attempts.flatten ++ last) = exhausted D left last := by
  induction h with
  | nil => rfl
  | cons hfailed _ ih =>
    cases hfailed with
    | udp => simpa [exhausted] using ih
    | tcp htrunc => simpa [exhausted, htrunc] using ih

@[simp] theorem exhausted_nil (left : List Str) : exhausted D left [] = decide (left = []) := by
  cases left <;> rfl

theorem Asking.not_exhausted {server : Str} (h : Asking D query server rest es phase) :
    exhausted D (server :: rest) es = false := by
  cases h <;> rfl

/-- `refused` counts the query whose last resolver fails. -/
theorem Forwarded.refusals {answer : Option M} {next : Exchange M × Phase Q × List Counter}
    (h : Forwarded H D query upstreams es phase) (hnext : resume H D phase answer = some next) :
    (exhausted D upstreams (es ++ [next.1])).toNat = (exhausted D upstreams es).toNat + next.2.2.count .refused := by
  obtain ⟨tried, left, attempts, last, rfl, htried, rfl, hstands⟩ := h
  obtain ⟨server, rest, rfl, hasking⟩ := hstands.asking_of_waiting (waiting_of_resume hnext)
  rw [List.append_assoc, exhausted_failed htried, exhausted_failed htried, hasking.not_exhausted]
  cases hasking with
  | udp =>
    obtain rfl := Option.some.inj hnext
    cases answer with
    | none => by_cases hrest : rest = [] <;> simp [exhausted, hrest]
    | some m => by_cases htrunc : D.truncated m = true <;> simp [exhausted, htrunc]
  | tcp htrunc =>
    obtain rfl := Option.some.inj hnext
    cases answer with
    | none => by_cases hrest : rest = [] <;> simp [exhausted, hrest, htrunc]
    | some m => simp [exhausted]

/-- Nothing else is counted on the way but what came over TCP. -/
theorem resume_counts {answer : Option M} {next : Exchange M × Phase Q × List Counter}
    (hnext : resume H D phase answer = some next) (k : Counter) (hk : k ≠ .refused) :
    next.2.2.count k = if k = .tcpRetries then [next.1].countP (fun e => e.overTcp && e.answer.isSome) else 0 := by
  cases phase with
  | udp query server rest =>
    obtain rfl := Option.some.inj hnext
    cases answer with
    | none => by_cases hrest : rest = [] <;> simp [hrest, hk.symm]
    | some m => by_cases htrunc : D.truncated m = true <;> simp [htrunc]
  | tcp query server rest =>
    obtain rfl := Option.some.inj hnext
    cases answer with
    | none => by_cases hrest : rest = [] <;> simp [hrest, hk.symm]
    | some m => by_cases hretry : k = .tcpRetries <;> simp [hretry, eq_comm]
  | returned response => cases hnext
  | raised => cases hnext
  | cancelled => cases hnext

/-! ## One query -/

section
variable {isSelf : Str → Bool} {t : Task Q M} {answer : Option M} {next : Exchange M × Phase Q × List Counter}

variable (H D isSelf) in
/-- A query that starts. -/
def Task.begun (origin : Origin) (client : Str) (settings : Settings) (data : Bytes) : Task Q M :=
  { origin, data, client, settings, phase := (handleQuery H D (isSelf client) settings data).1 }

/-- A query after a resolver did something. -/
def Task.resumed (t : Task Q M) (next : Exchange M × Phase Q × List Counter) : Task Q M :=
  { t with exchanges := t.exchanges ++ [next.1], phase := next.2.1 }

theorem honest_begun (origin : Origin) (client : Str) (settings : Settings) (data : Bytes) :
    (Task.begun H D isSelf origin client settings data).Honest H D isSelf := by
  unfold Task.Honest Task.asks Task.begun Task.decided handleQuery
  cases hquery : D.fromWire data with
  | none => simp
  | some query =>
    cases hquestion : D.question query with
    | nil => simp [hquestion]
    | cons question rest =>
      cases hdecided : classify H settings.toInterceptor (H.lowerStr question.name) (isSelf client) with
      | intercepted => simp [hquestion, hdecided]
      | excluded => simpa [hquestion, hdecided] using forwarded_next query settings.upstreams
      | forwarded => simpa [hquestion, hdecided] using forwarded_next query settings.upstreams

theorem tally_begun (origin : Origin) (client : Str) (settings : Settings) (data : Bytes) (k : Counter) :
    (Task.begun H D isSelf origin client settings data).tally H D isSelf k =
      (handleQuery H D (isSelf client) settings data).2.count k := by
  cases hquery : D.fromWire data with
  | none => cases k <;>
      simp [Task.tally, Task.forwards, Task.decision, Task.asks, Task.begun, handleQuery, hquery]
  | some query =>
    cases hquestion : D.question query with
    | nil => cases k <;>
        simp [Task.tally, Task.forwards, Task.decision, Task.asks, Task.begun, handleQuery, hquery, hquestion]
    | cons question rest =>
      cases hdecided : classify H settings.toInterceptor (H.lowerStr question.name) (isSelf client) <;> cases k <;>
        by_cases hup : settings.upstreams = [] <;>
        simp [Task.tally, Task.forwards, Task.decision, Task.decided, Task.asks, Task.begun, handleQuery, hquery,
          hquestion, hdecided, hup]

/-- A query that waits is forwarded. -/
theorem Task.Honest.forwarded_of_waiting (h : t.Honest H D isSelf) (hw : t.phase.over = false) :
    ∃ query question, t.asks D = some (query, question) ∧ t.decided H isSelf question ≠ .intercepted ∧
      Forwarded H D query t.settings.upstreams t.exchanges t.phase := by
  unfold Task.Honest at h
  cases hasks : t.asks D with
  | none =>
    rw [hasks] at h
    rw [h.2] at hw
    cases hw
  | some asked =>
    obtain ⟨query, question⟩ := asked
    simp only [hasks] at h
    split at h
    · rw [h.2, over_ofWire] at hw
      cases hw
    · next hdecided => exact ⟨query, question, rfl, hdecided, h⟩

theorem Task.Honest.of_forwarded {question : Question} (hasks : t.asks D = some (query, question))
    (hdecided : t.decided H isSelf question ≠ .intercepted)
    (h : Forwarded H D query t.settings.upstreams t.exchanges t.phase) : t.Honest H D isSelf := by
  simpa [Task.Honest, hasks, hdecided] using h

theorem Task.Honest.resumed (h : t.Honest H D isSelf) (hnext : resume H D t.phase answer = some next) :
    (t.resumed next).Honest H D isSelf := by
  obtain ⟨query, question, hasks, hdecided, hforwarded⟩ := h.forwarded_of_waiting (waiting_of_resume hnext)
  exact .of_forwarded hasks hdecided (hforwarded.resumed hnext)

theorem Task.Honest.cancelled (h : t.Honest H D isSelf) (hw : t.phase.over = false) :
    Task.Honest H D isSelf { t with phase := .cancelled } := by
  obtain ⟨query, question, hasks, hdecided, hforwarded⟩ := h.forwarded_of_waiting hw
  obtain ⟨tried, left, attempts, last, hup, htried, hes, hstands⟩ := hforwarded
  obtain ⟨server, rest, rfl, hasking⟩ := hstands.asking_of_waiting hw
  exact .of_forwarded hasks hdecided ⟨tried, server :: rest, attempts, last, hup, htried, hes, .cancelled hasking⟩

theorem Task.Honest.tally_resumed (h : t.Honest H D isSelf) (hnext : resume H D t.phase answer = some next)
    (k : Counter) : (t.resumed next).tally H D isSelf k = t.tally H D isSelf k + next.2.2.count k := by
  obtain ⟨query, question, hasks, hdecided, hforwarded⟩ := h.forwarded_of_waiting (waiting_of_resume hnext)
  have hforwards : t.forwards H D isSelf = true := by
    cases hd : t.decided H isSelf question <;> simp_all [Task.forwards, Task.decision]
  by_cases hk : k = .refused
  · subst hk
    show (t.forwards H D isSelf && exhausted D t.settings.upstreams (t.exchanges ++ [next.1])).toNat = _
    simpa [Task.tally, hforwards] using hforwarded.refusals hnext
  · rw [resume_counts hnext k hk]
    cases k with
    | tcpRetries => simp [Task.tally, Task.resumed, List.countP_append]
    | refused => exact absurd rfl hk
    | intercepted => rfl
    | forwarded => rfl
    | excluded => rfl
    | errors => rfl

end

end

end RideTheApi.Dns.Server
