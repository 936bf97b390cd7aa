import RideTheApi.Lib.Transition
import RideTheApi.Py.Value

/-!
# `Tls.Ports` — the TLS listener's ports: asked for, bound, listening

`TLSMITMServer` keeps the ports it was asked for, its servers and the ports that came up in three lists. Beside them
stand the sockets themselves, which only a bind opens and only a close takes away. A call is one of `start`,
`add_port`, `remove_port` and `stop`, and carries what the operating system makes of its binds.

`bookkept_iff`: the lists agree with the sockets after every call of a run exactly when no call of it opens a port that
`start` was not asked for, closes one that `stop` does not close, or takes a listed port for a listening one.
-/

namespace RideTheApi.Tls

open Py Transition

/-- A TCP port as it is asked for; `0` asks for any free one. -/
abbrev Port := Int

/-- What the operating system makes of a bind: it can let the port be opened (`free` is the port it picks where any
    will do), refuse it, or the call raises another exception. -/
inductive Bind where
  | opens (free : Port)
  | osError
  | otherError
deriving Repr, DecidableEq

/-- How a bind fails: with an `OSError`, or with another exception. -/
inductive BindError where
  | osError
  | otherError
deriving Repr, DecidableEq

/-- `asyncio.start_server(…, port=port)`: the port the new socket listens on. Another socket on it is an `OSError`, a
    number that is no port an `OverflowError`. -/
def startServer (sockets : List Port) (port : Port) : Bind → Except BindError Port
  | .opens free  =>
    if port < 0 ∨ 65535 < port then .error .otherError
    else
      let at_ := if port = 0 then free else port
      if at_ ≤ 0 ∨ 65535 < at_ ∨ at_ ∈ sockets then .error .osError else .ok at_
  | .osError     => .error .osError
  | .otherError  => .error .otherError

/-- The listener's lists, and the sockets that listen. A server is known by the port of its socket. -/
structure PortBook where
  listenPorts : List Port
  servers     : List Port
  boundPorts  : List Port
  sockets     : List Port
deriving Repr, DecidableEq

/-- A call, with the outcome of its binds in order. -/
inductive PortCall where
  | start (binds : List Bind)
  | addPort (port : Port) (bind : Bind)
  | removePort (port : Port)
  | stop
deriving Repr, DecidableEq

/-- What a call answers: `start` returns or raises, `add_port` gives the reason of a failure. -/
inductive PortAnswer where
  | started
  | raised
  | added (reason : Option Str)
  | removed (ok : Bool)
  | stopped
deriving Repr, DecidableEq

namespace PortBook

/-- `TLSMITMServer(listen_ports=ports)`. -/
def init (ports : List Port) : PortBook := ⟨ports, [], [], []⟩

/-- `self._servers.append(server)`, for a server whose socket has just been opened on `at_`. -/
def opened (s : PortBook) (at_ : Port) : PortBook :=
  { s with servers := s.servers ++ [at_], sockets := s.sockets ++ [at_] }

/-- The loop of `start` over the ports still to try: an `OSError` is logged, another exception ends it. -/
def startPorts : PortBook → List Port → List Bind → PortBook × PortAnswer
  | s, [],            _     => (s, .started)
  | s, port :: ports, binds =>
    match startServer s.sockets port (binds.headD .osError) with
    | .ok at_             =>
      let s' := s.opened at_
      startPorts { s' with boundPorts := s'.boundPorts ++ [port] } ports binds.tail
    | .error .osError     => startPorts s ports binds.tail
    | .error .otherError  => (s, .raised)

/-- `start`. -/
def start (s : PortBook) (binds : List Bind) : PortBook × PortAnswer := s.startPorts s.listenPorts binds

/-- `add_port`: a port that is listed counts as added. -/
def addPort (s : PortBook) (port : Port) (bind : Bind) : PortBook × PortAnswer :=
  if port ∈ s.listenPorts then (s, .added none)
  else
    match startServer s.sockets port bind with
    | .ok at_            =>
      let s' := s.opened at_
      ({ s' with listenPorts := s'.listenPorts ++ [port] }, .added none)
    | .error .osError    => (s, .added (some "port already in use or cannot be bound"))
    | .error .otherError => (s, .added (some "unexpected error while binding port"))

/-- `remove_port`: the first server whose socket is on the port is closed and dropped. -/
def removePort (s : PortBook) (port : Port) : PortBook × PortAnswer :=
  if port ∉ s.listenPorts then (s, .removed false)
  else if port ∈ s.servers then
    ({ s with servers := s.servers.erase port, sockets := s.sockets.erase port,
              listenPorts := s.listenPorts.erase port }, .removed true)
  else ({ s with listenPorts := s.listenPorts.erase port }, .removed true)

/-- `stop`: every server is closed, and the two lists of what runs are cleared. -/
def stop (s : PortBook) : PortBook × PortAnswer :=
  ({ s with sockets := s.sockets.filter (· ∉ s.servers), servers := [], boundPorts := [] }, .stopped)

/-- A call. -/
def call (s : PortBook) : PortCall → PortBook × PortAnswer
  | .start binds        => s.start binds
  | .addPort port bind  => s.addPort port bind
  | .removePort port    => s.removePort port
  | .stop               => s.stop

/-- The state a call leads to. -/
def step (s : PortBook) (c : PortCall) : Option PortBook := some (s.call c).1

/-- `bound_ports` lists the listening ports. -/
def Matches (s : PortBook) : Prop := ∀ port, port ∈ s.boundPorts ↔ port ∈ s.sockets

/-- What a call owes: the lists agree with the sockets, a port that `add_port` reports as added listens, one that
    `remove_port` was called for does not, and after `stop` none does. -/
def Kept (s : PortBook) (c : PortCall) : Prop :=
  (s.call c).1.Matches ∧
    match c with
    | .start _         => True
    | .addPort port _  => (s.call c).2 = .added none → port ∈ (s.call c).1.sockets
    | .removePort port => port ∉ (s.call c).1.sockets
    | .stop            => (s.call c).1.sockets = []

/-- The loop of `start` opens some port because `0` is listed. -/
def opensAnyFree : List Port → List Port → List Bind → Bool
  | _,       [],            _     => false
  | sockets, port :: ports, binds =>
    match startServer sockets port (binds.headD .osError) with
    | .ok at_             => port == 0 || opensAnyFree (sockets ++ [at_]) ports binds.tail
    | .error .osError     => opensAnyFree sockets ports binds.tail
    | .error .otherError  => false

/-- The calls the lists follow: `start` where it opens no port for `0`, `add_port` of a listed port that listens or of
    an unlisted one that cannot be bound, `remove_port` of a port that does not listen, and `stop`. -/
def Followed (s : PortBook) : PortCall → Prop
  | .start binds       => opensAnyFree s.sockets s.listenPorts binds = false
  | .addPort port bind =>
    if port ∈ s.listenPorts then port ∈ s.sockets else ∀ at_, startServer s.sockets port bind ≠ .ok at_
  | .removePort port   => port ∉ s.sockets
  | .stop              => True

/-! ## What a bind gives -/

theorem startServer_ok {sockets : List Port} {port at_ : Port} {b : Bind} (h : startServer sockets port b = .ok at_) :
    0 < at_ ∧ at_ ∉ sockets ∧ (port ≠ 0 → at_ = port) := by
  cases b with
  | opens free =>
    rw [startServer] at h
    by_cases hport : port < 0 ∨ 65535 < port
    · rw [if_pos hport] at h
      cases h
    · rw [if_neg hport] at h
      by_cases hfree : (if port = 0 then free else port) ≤ 0 ∨ 65535 < (if port = 0 then free else port) ∨
          (if port = 0 then free else port) ∈ sockets
      · rw [if_pos hfree] at h
        cases h
      · rw [if_neg hfree] at h
        obtain rfl := Except.ok.inj h
        obtain ⟨hpos, hrest⟩ := not_or.mp hfree
        exact ⟨Int.not_le.mp hpos, (not_or.mp hrest).2, fun hne => if_neg hne⟩
  | osError => cases h
  | otherError => cases h

/-! ## The invariant of the runs the lists follow -/

/-- The servers are the sockets, one on a port, each on a port that was asked for, and `bound_ports` lists them. -/
structure Inv (s : PortBook) : Prop where
  servers : s.servers = s.sockets
  nodup   : s.sockets.Nodup
  pos     : ∀ port ∈ s.sockets, 0 < port
  listed  : ∀ port ∈ s.sockets, port ∈ s.listenPorts
  matched : s.Matches

theorem inv_init (ports : List Port) : Inv (init ports) :=
  ⟨rfl, .nil, fun _ h => absurd h List.not_mem_nil, fun _ h => absurd h List.not_mem_nil, fun _ => Iff.rfl⟩

/-- One more port that `start` has opened under its own number. -/
theorem Inv.opened {s : PortBook} (h : Inv s) {port : Port} (hpos : 0 < port) (hnew : port ∉ s.sockets)
    (hlisted : port ∈ s.listenPorts) :
    Inv { s.opened port with boundPorts := (s.opened port).boundPorts ++ [port] } where
  servers := by
    show s.servers ++ [port] = s.sockets ++ [port]
    rw [h.servers]
  nodup := by
    show (s.sockets ++ [port]).Nodup
    exact List.nodup_append.mpr ⟨h.nodup, by simp, by grind⟩
  pos := by
    intro q hq
    rcases List.mem_append.mp hq with hq | hq
    · exact h.pos q hq
    · rwa [List.mem_singleton.mp hq]
  listed := by
    intro q hq
    rcases List.mem_append.mp hq with hq | hq
    · exact h.listed q hq
    · rwa [List.mem_singleton.mp hq]
  matched := by
    intro q
    show q ∈ s.boundPorts ++ [port] ↔ q ∈ s.sockets ++ [port]
    rw [List.mem_append, List.mem_append, h.matched q]

/-- The loop only adds to the lists. -/
theorem startPorts_mono {s : PortBook} {ports : List Port} {binds : List Bind} {port : Port}
    (h : port ∈ s.boundPorts) : port ∈ (s.startPorts ports binds).1.boundPorts := by
  fun_induction startPorts s ports binds with
  | case1 => exact h
  | case2 s port' ports binds at_ _ s' ih => exact ih (List.mem_append_left _ h)
  | case3 _ _ _ _ _ ih => exact ih h
  | case4 => exact h

/-- Every socket the loop leaves is on a real port. -/
theorem startPorts_pos {s : PortBook} {ports : List Port} {binds : List Bind} (h : ∀ port ∈ s.sockets, 0 < port) :
    ∀ port ∈ (s.startPorts ports binds).1.sockets, 0 < port := by
  fun_induction startPorts s ports binds with
  | case1 => exact h
  | case2 s port' ports binds at_ hat s' ih =>
    refine ih fun port hport => ?_
    rcases List.mem_append.mp hport with hport | hport
    · exact h port hport
    · rw [List.mem_singleton.mp hport]
      exact (startServer_ok hat).1
  | case3 _ _ _ _ _ ih => exact ih h
  | case4 => exact h

/-- **The loop of `start`.** It keeps the invariant where it opens no port for `0`, and where it does, `0` is bound. -/
theorem startPorts_spec {s : PortBook} {ports : List Port} {binds : List Bind} (h : Inv s)
    (hports : ∀ port ∈ ports, port ∈ s.listenPorts) :
    (opensAnyFree s.sockets ports binds = false → Inv (s.startPorts ports binds).1) ∧
      (opensAnyFree s.sockets ports binds = true → (0 : Port) ∈ (s.startPorts ports binds).1.boundPorts) := by
  fun_induction startPorts s ports binds with
  | case1 => exact ⟨fun _ => h, fun ho => by cases ho⟩
  | case2 s port ports binds at_ hat s' ih =>
    obtain ⟨hpos, hnew, hsame⟩ := startServer_ok hat
    simp only [opensAnyFree, hat]
    by_cases hzero : port = 0
    · -- `0` is listed as bound, and stays so to the end of the loop
      subst hzero
      refine ⟨fun ho => by simp at ho, fun _ => startPorts_mono ?_⟩
      exact List.mem_append_right _ List.mem_cons_self
    · obtain rfl := hsame hzero
      rw [beq_eq_false_iff_ne.mpr hzero, Bool.false_or]
      refine ih (h.opened hpos hnew (hports _ List.mem_cons_self)) fun port' hport' => ?_
      exact hports port' (List.mem_cons_of_mem _ hport')
  | case3 s port ports binds herr ih =>
    simp only [opensAnyFree, herr]
    exact ih h fun port' hport' => hports port' (List.mem_cons_of_mem _ hport')
  | case4 s port ports binds herr =>
    simp only [opensAnyFree, herr]
    exact ⟨fun _ => h, fun ho => by cases ho⟩

/-! ## Call by call -/

theorem kept_start_iff {s : PortBook} (h : Inv s) (binds : List Bind) :
    Kept s (.start binds) ↔ Followed s (.start binds) := by
  obtain ⟨hgood, hbad⟩ := startPorts_spec h fun _ hport => hport
  show (s.startPorts s.listenPorts binds).1.Matches ∧ True ↔ opensAnyFree s.sockets s.listenPorts binds = false
  constructor
  · rintro ⟨hmatch, -⟩
    by_contra ho
    have hzero := (hmatch 0).mp (hbad (by simpa using ho))
    exact absurd (startPorts_pos h.pos 0 hzero) (by decide)
  · intro ho
    exact ⟨(hgood ho).matched, trivial⟩

theorem kept_addPort_iff {s : PortBook} (h : Inv s) (port : Port) (bind : Bind) :
    Kept s (.addPort port bind) ↔ Followed s (.addPort port bind) := by
  unfold Kept Followed
  simp only [call, addPort]
  by_cases hlisted : port ∈ s.listenPorts
  · rw [if_pos hlisted, if_pos hlisted]
    exact ⟨fun hk => hk.2 rfl, fun hport => ⟨h.matched, fun _ => hport⟩⟩
  · rw [if_neg hlisted, if_neg hlisted]
    cases hat : startServer s.sockets port bind with
    | ok at_ =>
      -- the new socket is in no list of ports that came up
      refine ⟨fun hk => ?_, fun hno => absurd rfl (hno at_)⟩
      have hbound : at_ ∈ s.boundPorts := (hk.1 at_).mpr (List.mem_append_right _ List.mem_cons_self)
      exact absurd ((h.matched at_).mp hbound) (startServer_ok hat).2.1
    | error e =>
      refine ⟨fun _ at_ hok => (nomatch hok), fun _ => ?_⟩
      cases e with
      | osError => exact ⟨h.matched, fun ha => by cases ha⟩
      | otherError => exact ⟨h.matched, fun ha => by cases ha⟩

theorem kept_removePort_iff {s : PortBook} (h : Inv s) (port : Port) :
    Kept s (.removePort port) ↔ Followed s (.removePort port) := by
  unfold Kept Followed
  simp only [call, removePort]
  by_cases hlisted : port ∈ s.listenPorts
  · rw [if_neg (not_not.mpr hlisted)]
    by_cases hopen : port ∈ s.sockets
    · rw [if_pos (h.servers.symm ▸ hopen)]
      -- its socket is closed and `bound_ports` still lists it
      refine ⟨fun hk => ?_, fun hno => absurd hopen hno⟩
      exact absurd ((hk.1 port).mp ((h.matched port).mpr hopen)) hk.2
    · rw [if_neg (h.servers.symm ▸ hopen)]
      exact ⟨fun _ => hopen, fun _ => ⟨h.matched, hopen⟩⟩
  · rw [if_pos hlisted]
    have hclosed : port ∉ s.sockets := fun hopen => hlisted (h.listed port hopen)
    exact ⟨fun _ => hclosed, fun _ => ⟨h.matched, hclosed⟩⟩

theorem sockets_stop {s : PortBook} (h : Inv s) : s.stop.1.sockets = [] := by
  show s.sockets.filter (· ∉ s.servers) = []
  rw [h.servers, List.filter_eq_nil_iff]
  intro port hport
  simp [hport]

theorem kept_stop {s : PortBook} (h : Inv s) : Kept s .stop := by
  refine ⟨fun port => ?_, sockets_stop h⟩
  show port ∈ ([] : List Port) ↔ port ∈ s.stop.1.sockets
  rw [sockets_stop h]

theorem kept_iff {s : PortBook} (h : Inv s) (c : PortCall) : Kept s c ↔ Followed s c := by
  cases c with
  | start binds => exact kept_start_iff h binds
  | addPort port bind => exact kept_addPort_iff h port bind
  | removePort port => exact kept_removePort_iff h port
  | stop => exact iff_of_true (kept_stop h) trivial

/-- A call the lists follow keeps the invariant. -/
theorem Inv.step {s s' : PortBook} {c : PortCall} (h : Inv s) (hc : Followed s c) (hs : step s c = some s') :
    Inv s' := by
  cases hs
  cases c with
  | start binds => exact (startPorts_spec h fun _ hport => hport).1 hc
  | addPort port bind =>
    simp only [Followed] at hc
    simp only [call, addPort]
    by_cases hlisted : port ∈ s.listenPorts
    · rw [if_pos hlisted]
      exact h
    · rw [if_neg hlisted] at hc
      rw [if_neg hlisted]
      cases hat : startServer s.sockets port bind with
      | ok at_ => exact absurd hat (hc at_)
      | error e => cases e <;> exact h
  | removePort port =>
    simp only [Followed] at hc
    simp only [call, removePort]
    split
    · exact h
    · rw [if_neg (h.servers.symm ▸ hc)]
      refine { h with listed := fun q hq => ?_ }
      refine (List.mem_erase_of_ne ?_).mpr (h.listed q hq)
      rintro rfl
      exact hc hq
  | stop =>
    have hnil := sockets_stop h
    refine ⟨hnil.symm, hnil ▸ .nil, fun q hq => ?_, fun q hq => ?_, (kept_stop h).1⟩
    · rw [call, hnil] at hq
      cases hq
    · rw [call, hnil] at hq
      cases hq

/-- **`bound_ports` is what listens, exactly in the runs it is kept up in.** From a listener that was just built, over
    any ports and any binds: every call owes and keeps the agreement iff every call of the run is one the lists
    follow. -/
theorem bookkept_iff (ports : List Port) (calls : List PortCall) :
    AllOk step Kept (init ports) calls ↔ AllOk step Followed (init ports) calls :=
  allOk_iff_allOk (fun _ c h => kept_iff h c) (fun _ _ _ h hc hs => h.step hc hs) (inv_init ports)

/-- A port added at run time listens, and `bound_ports` does not list it. -/
theorem not_bookkept_addPort : ¬ ∀ ports calls, AllOk step Kept (init ports) calls := by
  intro h
  have hkept : Kept (init []) (.addPort 9443 (.opens 0)) := (h [] [.addPort 9443 (.opens 0)]).1
  have hbound : (9443 : Port) ∈ ((init []).call (.addPort 9443 (.opens 0))).1.boundPorts :=
    (hkept.1 9443).mpr (by decide)
  exact absurd hbound (by decide)

end PortBook
end RideTheApi.Tls
