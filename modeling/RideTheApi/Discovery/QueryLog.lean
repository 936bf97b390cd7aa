import Mathlib.Data.List.Sort
import RideTheApi.Lib.Dict
import RideTheApi.Py.Interp

/-!
# `Discovery.QueryLog` — the table of observed DNS queries

One row per (client, hostname, type), upserted in batches. A row has the columns of an observation, which are
the fields of the recorder's counters; the unique constraint on the pair makes the table a dictionary.
-/

namespace RideTheApi.Discovery

open Py

/-- `(client_ip, hostname, qtype)`. -/
structure PairKey where
  clientIp : Str
  hostname : Str
  qtype : Str
deriving DecidableEq, Repr

/-- Counters for one pair; also an observation, and a row of `dns_query_log`. -/
structure PairCounters extends PairKey where
  hitCount : Nat
  firstSeen : Int
  lastSeen : Int
  status : Str
deriving DecidableEq, Repr

abbrev Pairs := Dict PairKey PairCounters

/-- One more observation of a pair in the batch: `_collapse_dns_observations` keeps the later status. -/
def collapseInto : Option PairCounters → PairCounters → PairCounters
  | none,         obs => obs
  | some current, obs =>
    { current with
      hitCount := current.hitCount + obs.hitCount
      firstSeen := min current.firstSeen obs.firstSeen
      lastSeen := max current.lastSeen obs.lastSeen
      status := obs.status }

/-- `_collapse_dns_observations`. -/
def collapseDnsObservations (observations : List PairCounters) : List PairCounters :=
  (Dict.mergeWith collapseInto [] (observations.map fun obs => (obs.toPairKey, obs))).map Prod.snd

/-- `INSERT … ON CONFLICT DO UPDATE` on one row. -/
def upsertRow : Option PairCounters → PairCounters → PairCounters
  | none,     obs => obs
  | some row, obs =>
    { row with
      hitCount := row.hitCount + obs.hitCount
      status := obs.status
      lastSeen := obs.lastSeen }

/-- `record_dns_queries`, once its statement is committed. -/
def recordDnsQueries (log : Pairs) (observations : List PairCounters) : Pairs :=
  if observations.isEmpty then log
  else
    Dict.mergeWith upsertRow log
      ((collapseDnsObservations observations).map fun obs => (obs.toPairKey, obs))

/-- `clear_dns_queries`. -/
def clearDnsQueries (_log : Pairs) : Pairs := []

/-- `prune_dns_queries`: the rows past the cap that were seen the longest ago are deleted. -/
def pruneDnsQueries (log : Pairs) (maxRows : Nat) : Pairs :=
  let excess := log.length - maxRows
  let oldest := (log.insertionSort fun r r' => r.2.lastSeen ≤ r'.2.lastSeen).take excess
  log.filter fun r => !oldest.contains r

/-! ## What a batch does to a pair -/

/-- Every entry is filed under its own pair, and no pair twice. -/
structure Filed (d : Pairs) : Prop where
  nodup : d.keys.Nodup
  own : ∀ kv ∈ d, kv.2.toPairKey = kv.1

theorem Filed.nil : Filed [] := ⟨List.nodup_nil, fun _ h => absurd h List.not_mem_nil⟩

/-- Filing the values of a filed dictionary again gives the dictionary. -/
theorem Filed.refile {d : Pairs} (h : Filed d) : (d.map Prod.snd).map (fun obs => (obs.toPairKey, obs)) = d := by
  rw [List.map_map]
  conv_rhs => rw [← List.map_id d]
  refine List.map_congr_left fun kv hkv => ?_
  exact Prod.ext (h.own kv hkv) rfl

theorem Filed.set {d : Pairs} {k : PairKey} {c : PairCounters} (h : Filed d) (hc : c.toPairKey = k) :
    Filed (d.set k c) where
  nodup := Dict.nodup_keys_set h.nodup
  own kv hkv := by
    rcases Dict.mem_set hkv with hmem | rfl
    · exact h.own kv hmem
    · exact hc

theorem Filed.own_get? {d : Pairs} {k : PairKey} {c : PairCounters} (h : Filed d) (hc : d.get? k = some c) :
    c.toPairKey = k :=
  h.own (k, c) (Dict.mem_of_get? hc)

/-- Merging two filed dictionaries with a function that keeps the pair. -/
theorem Filed.mergeWith {f : Option PairCounters → PairCounters → PairCounters} {d e : Pairs}
    (hd : Filed d) (he : Filed e) (hnone : ∀ c, (f none c).toPairKey = c.toPairKey)
    (hsome : ∀ m c, (f (some m) c).toPairKey = m.toPairKey) : Filed (Dict.mergeWith f d e) := by
  have hown := he.own
  clear he
  induction e generalizing d with
  | nil => exact hd
  | cons kv e ih =>
    refine ih (hd.set ?_) fun kv' hkv' => hown kv' (List.mem_cons_of_mem _ hkv')
    cases hget : d.get? kv.1 with
    | none => rw [hnone, hown kv List.mem_cons_self]
    | some m => rw [hsome, hd.own_get? hget]

/-- Collapsing a batch of distinct pairs changes nothing. -/
theorem collapse_of_filed {d : Pairs} (h : Filed d) : collapseDnsObservations (d.map Prod.snd) = d.map Prod.snd := by
  rw [collapseDnsObservations, h.refile]
  have hnd : ([] ++ d : Pairs).keys.Nodup := h.nodup
  rw [Dict.mergeWith_of_nodup (fun _ => rfl) hnd, List.nil_append]

/-- **A committed batch.** Each of its pairs is upserted once; the other rows stay. -/
theorem recordDnsQueries_eq {d : Pairs} (h : Filed d) (log : Pairs) :
    recordDnsQueries log (d.map Prod.snd) = Dict.mergeWith upsertRow log d := by
  rw [recordDnsQueries, collapse_of_filed h, h.refile]
  cases d with
  | nil => rfl
  | cons kv d => rfl

/-- A log within the cap loses no row. -/
theorem pruneDnsQueries_of_le {log : Pairs} {maxRows : Nat} (h : log.length ≤ maxRows) :
    pruneDnsQueries log maxRows = log := by
  have hexcess : log.length - maxRows = 0 := by omega
  simp [pruneDnsQueries, hexcess]

end RideTheApi.Discovery
