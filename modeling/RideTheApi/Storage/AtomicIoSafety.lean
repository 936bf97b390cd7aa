import Mathlib.Data.List.Perm.Subperm
import RideTheApi.Storage.AtomicIo

/-!
# `Storage.AtomicIoSafety` — a file is whole, and what was appended stays

Whatever calls run at once, and wherever one of them fails, the process dies or the machine goes down:

* a file that nobody appends to reads as it did at the start, or as the whole text of some `write_text` on it
  (`reads_whole`);
* what an `append_atomic` that returned had appended is in its file (`appended_kept`).

The first rests on the temporary file: no plain name leads to it before it is synced, so what the destination leads to
is whole in every directory that a crash could bring back (`CrashFs.Whole`). The second rests on the sync: the file has
a safe beginning that holds every record of a call that returned.
-/

namespace RideTheApi.AtomicIo

open Py CrashFs Transition

variable {cwd : Path} {s s' s₀ : State} {l : Label} {ls : List Label} {p q : Path} {id id' : Nat} {call : Call}
  {target : Path → Prop} {saved : Path → Option Bytes → Prop} {d d' : Disk Path Byte}

/-- A step does one of the things listed. -/
theorem did_of_step (h : step cwd s l = some s') : Did cwd s l s' := by
  cases l with
  | writeText id path text random =>
    simp only [step] at h
    split at h
    case h_1 =>
      cases h
      exact .raised
    case h_2 dest hdest =>
      split at h
      · cases h
      case isFalse hfree =>
        cases h
        simp only [Dict.has, Bool.or_eq_true, Option.isSome_iff_ne_none, ne_eq, not_or, not_not] at hfree
        exact .openedTemp hdest hfree.1 hfree.2
  | appendAtomic id path text =>
    simp only [step] at h
    split at h
    case h_1 =>
      cases h
      exact .raised
    case h_2 dest hdest =>
      split at h
      · cases h
      case isFalse hfree =>
        cases h
        simp only [Dict.has, Option.isSome_iff_ne_none, ne_eq, not_not] at hfree
        exact .openedAppend hdest hfree
  | encode id =>
    obtain ⟨call, hcall, hdo⟩ := Option.bind_eq_some_iff.mp h
    unfold State.encode at hdo
    split at hdo
    case h_1 text hphase =>
      obtain ⟨bytes, hbytes, rfl⟩ := Option.map_eq_some_iff.mp hdo
      exact .encoded hcall hphase hbytes
    case h_2 => cases hdo
  | write id n =>
    obtain ⟨call, hcall, hdo⟩ := Option.bind_eq_some_iff.mp h
    unfold State.write at hdo
    split at hdo
    case h_1 done rest hphase =>
      cases hdo
      exact .wrote hcall hphase
    case h_2 => cases hdo
  | fsync id =>
    obtain ⟨call, hcall, hdo⟩ := Option.bind_eq_some_iff.mp h
    unfold State.fsync at hdo
    split at hdo
    case h_1 =>
      cases hdo
      exact .syncedTemp hcall
    case h_2 =>
      cases hdo
      exact .syncedAppend hcall
    case h_3 => cases hdo
  | replace id =>
    obtain ⟨call, hcall, hdo⟩ := Option.bind_eq_some_iff.mp h
    unfold State.replace at hdo
    split at hdo
    case h_1 =>
      obtain ⟨disk, hrename, rfl⟩ := Option.map_eq_some_iff.mp hdo
      obtain ⟨i, htmp, rfl⟩ := Option.map_eq_some_iff.mp hrename
      exact .replaced hcall htmp
    case h_2 => cases hdo
  | fails id unlinked =>
    obtain ⟨call, hcall, hdo⟩ := Option.bind_eq_some_iff.mp h
    unfold State.fails at hdo
    split at hdo
    case h_1 =>
      cases hdo
      cases unlinked with
      | false => exact .failed
      | true => exact .unlinked hcall
    case h_2 =>
      cases hdo
      exact .failed
  | kill =>
    cases h
    exact .killed
  | crash k tails =>
    cases h
    exact .crashed

/-! ## The name of a temporary file -/

theorem endsWith_append (a b : Str) : Str.endsWith (a ++ b) b = true := by simp [Str.endsWith]

/-- `mkstemp` makes no plain name. -/
theorem not_plain_tempName (dest : Path) (random : Str) : ¬ Plain (tempName dest random) := by
  refine fun hplain => hplain ?_
  rw [tempName, List.getLast?_concat, Option.getD_some]
  exact ⟨by simp [Str.startsWith, str], endsWith_append _ _⟩

/-! ## What a call on its way has done -/

/-- The file of a `write_text` holds what was handed over of its text, and the whole text is `allowed`. -/
def Filled (allowed : Bytes → Prop) (n : Inode Byte) : Phase → Prop
  | .opened text       => n.content = [] ∧ ∀ bytes, encodeUtf8 text = some bytes → allowed bytes
  | .writing done rest => n.content = done ∧ allowed (done ++ rest)
  | .synced            => n.safe = n.content.length ∧ allowed n.content

/-- The file of a `write_text` is known by its temporary name alone; the file of an `append_atomic` is that of a plain
    name that is no `target`. What is to become the file of a target is what may be `saved` there. -/
def CallOk (target : Path → Prop) (saved : Path → Option Bytes → Prop) (d : Disk Path Byte) : Call → Prop
  | .writeText dest tmp fd phase =>
    Plain dest ∧ ¬ Plain tmp ∧ d.entries.get? tmp = some fd ∧ Private Plain d fd ∧
      ∃ n, d.inodes[fd]? = some n ∧ Filled (fun bytes => target dest → saved dest (some bytes)) n phase
  | .appendAtomic path fd _ => Plain path ∧ ¬ target path ∧ ∃ D ∈ d.dirs, D.get? path = some fd

/-- No two calls of `write_text` fill the same file. -/
def Apart (calls : Dict Nat Call) : Prop :=
  ∀ id id' dest tmp fd phase dest' tmp' phase', calls.get? id = some (.writeText dest tmp fd phase) →
    calls.get? id' = some (.writeText dest' tmp' fd phase') → id = id'

/-- What holds in every state of a run. -/
structure Inv (target : Path → Prop) (saved : Path → Option Bytes → Prop) (s : State) : Prop where
  tidy : Tidy Plain s.disk
  whole : ∀ p, target p → Whole s.disk p (saved p)
  ok : ∀ id call, s.calls.get? id = some call → CallOk target saved s.disk call
  apart : Apart s.calls

/-- Another step leaves a call as it is when it leaves the call's name, its file and its privacy. -/
theorem CallOk.frame (h : CallOk target saved d call) (hdirs : ∀ D ∈ d.dirs, D ∈ d'.dirs)
    (htemp : ∀ dest tmp fd phase, call = .writeText dest tmp fd phase → ¬ Plain tmp → d.entries.get? tmp = some fd →
      Private Plain d fd →
      d'.entries.get? tmp = some fd ∧ Private Plain d' fd ∧ d'.inodes[fd]? = d.inodes[fd]?) :
    CallOk target saved d' call := by
  cases call with
  | writeText dest tmp fd phase =>
    obtain ⟨hdest, htmp, hentry, hprivate, hfilled⟩ := h
    obtain ⟨hentry', hprivate', hsame⟩ := htemp dest tmp fd phase rfl htmp hentry hprivate
    exact ⟨hdest, htmp, hentry', hprivate', hsame ▸ hfilled⟩
  | appendAtomic path fd phase =>
    obtain ⟨hpath, hne, D, hD, hget⟩ := h
    exact ⟨hpath, hne, D, hdirs D hD, hget⟩

/-- A call that was on its way, or the one that joined. -/
theorem get?_set_some {calls : Dict Nat Call} {new : Call} (h : (calls.set id new).get? id' = some call) :
    (id = id' ∧ new = call) ∨ (id ≠ id' ∧ calls.get? id' = some call) := by
  rw [Dict.get?_set] at h
  split at h
  case isTrue heq => exact .inl ⟨heq, Option.some.inj h⟩
  case isFalse hne => exact .inr ⟨hne, h⟩

/-- Calls of other numbers. -/
theorem get?_erase_some {calls : Dict Nat Call} (h : (calls.erase id).get? id' = some call) :
    id ≠ id' ∧ calls.get? id' = some call := by
  rw [Dict.get?_erase] at h
  split at h
  · cases h
  case isFalse hne => exact ⟨hne, h⟩

theorem Apart.erase {calls : Dict Nat Call} (h : Apart calls) : Apart (calls.erase id) :=
  fun a b _ _ _ _ _ _ _ ha hb => h a b _ _ _ _ _ _ _ (get?_erase_some ha).2 (get?_erase_some hb).2

/-- A call goes on with the file it has. -/
theorem Apart.set_phase {calls : Dict Nat Call} {phase : Phase} (h : Apart calls)
    (hcall : calls.get? id = some call) : Apart (calls.set id (call.withPhase phase)) := by
  have hold : ∀ a dest tmp fd phase', (calls.set id (call.withPhase phase)).get? a = some (.writeText dest tmp fd phase') →
      ∃ phase'', calls.get? a = some (.writeText dest tmp fd phase'') := by
    intro a dest tmp fd phase' ha
    rw [Dict.get?_set] at ha
    split at ha
    case isTrue heq =>
      subst heq
      cases call with
      | writeText => cases ha; exact ⟨_, hcall⟩
      | appendAtomic => cases ha
    case isFalse => exact ⟨_, ha⟩
  intro a b dest tmp fd _ dest' tmp' _ ha hb
  obtain ⟨_, ha⟩ := hold a _ _ _ _ ha
  obtain ⟨_, hb⟩ := hold b _ _ _ _ hb
  exact h a b _ _ _ _ _ _ _ ha hb

/-- A call joins that has a file of its own. -/
theorem Apart.set_new {calls : Dict Nat Call} (h : Apart calls)
    (hnew : ∀ dest tmp fd phase, call = .writeText dest tmp fd phase →
      ∀ id' dest' tmp' phase', calls.get? id' ≠ some (.writeText dest' tmp' fd phase')) : Apart (calls.set id call) := by
  intro a b dest tmp fd phase dest' tmp' phase' ha hb
  rw [Dict.get?_set] at ha hb
  split at ha <;> split at hb
  case isTrue.isTrue heqa heqb => exact heqa.symm.trans heqb
  case isTrue.isFalse => exact absurd hb (hnew _ _ _ _ (Option.some.inj ha) _ _ _ _)
  case isFalse.isTrue => exact absurd ha (hnew _ _ _ _ (Option.some.inj hb) _ _ _ _)
  case isFalse.isFalse => exact h a b _ _ _ _ _ _ _ ha hb

/-! ## One step -/

/-- The calls of a run that keeps the targets: every destination is a plain name, nobody appends to a target, and what
    is written to one may be `saved` there. -/
def Label.Keeps (cwd : Path) (target : Path → Prop) (saved : Path → Option Bytes → Prop) : Label → Prop
  | .writeText _ path text _ => ∀ dest, destination cwd path = some dest →
      Plain dest ∧ (target dest → ∀ bytes, encodeUtf8 text = some bytes → saved dest (some bytes))
  | .appendAtomic _ path _ => ∀ dest, destination cwd path = some dest → Plain dest ∧ ¬ target dest
  | _ => True

/-- A name leads to a file there is. -/
theorem Inv.entry_lt (h : Inv target saved s) {tmp : Path} {fd : Nat} (hentry : s.disk.entries.get? tmp = some fd) :
    fd < s.disk.inodes.length := h.tidy.bounded _ Disk.entries_mem_dirs _ _ hentry

/-- Filling the file of one call, or syncing it, leaves the other calls. -/
theorem CallOk.alter {other : Call} {f : Inode Byte → Inode Byte} {i : Nat} (h : CallOk target saved d other)
    (hother : ∀ dest tmp phase, other ≠ .writeText dest tmp i phase) : CallOk target saved (d.alter i f) other := by
  refine h.frame (fun D hD => hD) fun dest tmp fd phase heq _ hentry hprivate => ⟨hentry, hprivate.alter, ?_⟩
  refine Disk.getElem?_alter_ne fun hi => ?_
  subst hi
  exact hother dest tmp phase heq

/-- The file a call fills is the file of no other `write_text`. -/
theorem Inv.other_file (h : Inv target saved s) (hcall : s.calls.get? id = some call) {other : Call}
    (hother : s.calls.get? id' = some other) (hne : id ≠ id') :
    ∀ dest tmp phase, other ≠ .writeText dest tmp call.fd phase := by
  rintro dest tmp phase rfl
  cases call with
  | writeText dest' tmp' fd' phase' => exact hne (h.apart _ _ _ _ _ _ _ _ _ hcall hother)
  | appendAtomic path fd' phase' =>
    obtain ⟨hpath, -, D, hD, hget⟩ := h.ok id _ hcall
    obtain ⟨-, -, -, hprivate, -⟩ := h.ok id' _ hother
    exact hprivate D hD path hpath hget

/-- The file a call fills is not the file of a target. -/
theorem Inv.not_target (h : Inv target saved s) (hplain : ∀ p, target p → Plain p)
    (hcall : s.calls.get? id = some call) (hp : target p) : ∀ D ∈ s.disk.dirs, D.get? p ≠ some call.fd := by
  intro D hD hget
  cases call with
  | writeText dest tmp fd phase =>
    obtain ⟨-, -, -, hprivate, -⟩ := h.ok id _ hcall
    exact hprivate D hD p (hplain p hp) hget
  | appendAtomic path fd phase =>
    obtain ⟨hpath, hne, D', hD', hget'⟩ := h.ok id _ hcall
    exact hne (h.tidy.apart D' hD' D hD path p _ hpath (hplain p hp) hget' hget ▸ hp)

/-- **A call goes on with its own file**: the others, and the targets, stay as they are. -/
theorem Inv.go_on (h : Inv target saved s) (hplain : ∀ p, target p → Plain p) (hcall : s.calls.get? id = some call) {phase : Phase}
    (f : Inode Byte → Inode Byte)
    (hfilled : ∀ allowed n, Filled allowed n call.phase → Filled allowed (f n) phase) :
    Inv target saved { s with disk := s.disk.alter call.fd f, calls := s.calls.set id (call.withPhase phase) } where
  tidy := h.tidy.alter
  whole := fun p hp => (h.whole p hp).alter (h.not_target hplain hcall hp)
  ok := by
    intro id' other hother
    rcases get?_set_some hother with ⟨rfl, rfl⟩ | ⟨hne, hother⟩
    · have hown := h.ok _ _ hcall
      cases call with
      | writeText dest tmp fd phase' =>
        obtain ⟨hdest, htmp, hentry, hprivate, n, hn, hfill⟩ := hown
        refine ⟨hdest, htmp, hentry, hprivate.alter, f n, ?_, hfilled _ n hfill⟩
        rw [Call.fd, Disk.getElem?_alter_self, hn, Option.map_some]
      | appendAtomic path fd phase' => exact hown
    · exact (h.ok _ _ hother).alter (h.other_file hcall hother hne)
  apart := h.apart.set_phase hcall

/-- A call syncs its file and ends. -/
theorem Inv.synced_end (h : Inv target saved s) (hplain : ∀ p, target p → Plain p) (hcall : s.calls.get? id = some call)
    (f : Inode Byte → Inode Byte) (appended : List (Path × Bytes)) :
    Inv target saved { disk := s.disk.alter call.fd f, calls := s.calls.erase id, appended } where
  tidy := h.tidy.alter
  whole := fun p hp => (h.whole p hp).alter (h.not_target hplain hcall hp)
  ok := by
    intro id' other hother
    obtain ⟨hne, hother⟩ := get?_erase_some hother
    exact (h.ok _ _ hother).alter (h.other_file hcall hother hne)
  apart := h.apart.erase

/-- No call is on its way. -/
theorem inv_idle {appended : List (Path × Bytes)} (htidy : Tidy Plain d) (hwhole : ∀ p, target p → Whole d p (saved p)) :
    Inv target saved { disk := d, calls := [], appended } where
  tidy := htidy
  whole := hwhole
  ok := fun _ _ hget => by cases hget
  apart := fun _ _ _ _ _ _ _ _ _ hget => by cases hget

/-- A call that ends leaves the rest of the invariant. -/
theorem Inv.erase (h : Inv target saved s) : Inv target saved { s with calls := s.calls.erase id } where
  tidy := h.tidy
  whole := h.whole
  ok := fun _ _ hother => h.ok _ _ (get?_erase_some hother).2
  apart := h.apart.erase

/-- The encoding changes no file. -/
theorem Inv.encoded (h : Inv target saved s) (hcall : s.calls.get? id = some call) {text : Str} {bytes : Bytes}
    (hphase : call.phase = .opened text) (hbytes : encodeUtf8 text = some bytes) :
    Inv target saved { s with calls := s.calls.set id (call.withPhase (.writing [] bytes)) } where
  tidy := h.tidy
  whole := h.whole
  ok := by
    intro id' other hother
    rcases get?_set_some hother with ⟨rfl, rfl⟩ | ⟨-, hother⟩
    · have hown := h.ok _ _ hcall
      cases call with
      | writeText dest tmp fd phase' =>
        obtain ⟨hdest, htmp, hentry, hprivate, n, hn, hfill⟩ := hown
        simp only [Call.phase] at hphase
        subst hphase
        exact ⟨hdest, htmp, hentry, hprivate, n, hn, hfill.1, hfill.2 bytes hbytes⟩
      | appendAtomic path fd phase' => exact hown
    · exact h.ok _ _ hother
  apart := h.apart.set_phase hcall

/-- A temporary file is opened. -/
theorem Inv.openedTemp (h : Inv target saved s) (hplain : ∀ p, target p → Plain p) {dest tmp : Path} {text : Str} (hdest : Plain dest)
    (htmp : ¬ Plain tmp) (hfree : s.disk.entries.get? tmp = none)
    (hsaved : target dest → ∀ bytes, encodeUtf8 text = some bytes → saved dest (some bytes)) :
    Inv target saved { s with
      disk := s.disk.create tmp
      calls := s.calls.set id (.writeText dest tmp s.disk.inodes.length (.opened text)) } where
  tidy := h.tidy.create
  whole := fun p hp => (h.whole p hp).create (ne_of_plain (hplain p hp) htmp).symm
  ok := by
    intro id' other hother
    rcases get?_set_some hother with ⟨-, rfl⟩ | ⟨-, hother⟩
    · refine ⟨hdest, htmp, ?_, private_create h.tidy htmp, _, Disk.getElem?_create_self, rfl, fun bytes hbytes heq =>
        hsaved heq bytes hbytes⟩
      exact (Dict.get?_set _ _ _ _).trans (if_pos rfl)
    · refine (h.ok _ _ hother).frame (fun D hD => Disk.mem_dirs_create.mpr (.inr hD)) ?_
      intro _ tmp' fd _ _ htmp' hentry hprivate
      have hlt : fd < s.disk.inodes.length := h.entry_lt hentry
      have hne : tmp ≠ tmp' := fun heq => by simp [← heq, hfree] at hentry
      exact ⟨((Dict.get?_set _ _ _ _).trans (if_neg hne)).trans hentry, hprivate.create hlt, Disk.getElem?_create hlt⟩
  apart := by
    refine h.apart.set_new fun _ _ fd _ heq id' dest' tmp' phase' hget => ?_
    obtain ⟨-, -, hentry, -⟩ := h.ok _ _ hget
    have hlt : fd < s.disk.inodes.length := h.entry_lt hentry
    cases heq
    exact absurd hlt (lt_irrefl _)

/-- A file is opened to be appended to. -/
theorem Inv.openedAppend (h : Inv target saved s) {dest : Path} {text : Str} (hdest : Plain dest) (hne : ¬ target dest) :
    Inv target saved { s with
      disk := (s.disk.openAppend dest).2
      calls := s.calls.set id (.appendAtomic dest (s.disk.openAppend dest).1 (.opened text)) } where
  tidy := h.tidy.openAppend
  whole := fun p hp => (h.whole p hp).openAppend fun heq => hne (heq ▸ hp)
  ok := by
    intro id' other hother
    rcases get?_set_some hother with ⟨-, rfl⟩ | ⟨-, hother⟩
    · refine ⟨hdest, hne, _, Disk.entries_mem_dirs, ?_⟩
      rcases Disk.openAppend_cases s.disk dest with ⟨i, hi, heq⟩ | ⟨-, heq⟩
      · rw [heq]
        exact hi
      · rw [heq]
        exact (Dict.get?_set _ _ _ _).trans (if_pos rfl)
    · rcases Disk.openAppend_cases s.disk dest with ⟨i, -, heq⟩ | ⟨-, heq⟩
      · rw [heq]
        exact h.ok _ _ hother
      · rw [heq]
        refine (h.ok _ _ hother).frame (fun D hD => Disk.mem_dirs_create.mpr (.inr hD)) ?_
        intro _ tmp fd _ _ htmp hentry hprivate
        have hlt : fd < s.disk.inodes.length := h.entry_lt hentry
        refine ⟨((Dict.get?_set _ _ _ _).trans (if_neg (ne_of_plain hdest htmp))).trans hentry, hprivate.create hlt,
          Disk.getElem?_create hlt⟩
  apart := h.apart.set_new fun _ _ _ _ heq => by simp at heq

/-- A temporary file is taken away. -/
theorem Inv.unlinked (h : Inv target saved s) (hplain : ∀ p, target p → Plain p) {dest tmp : Path} {fd : Nat} {phase : Phase}
    (hcall : s.calls.get? id = some (.writeText dest tmp fd phase)) :
    Inv target saved { s with disk := s.disk.unlink tmp, calls := s.calls.erase id } := by
  obtain ⟨-, htmp, hentry, -⟩ := h.ok _ _ hcall
  refine ⟨h.tidy.unlink, fun p hp => (h.whole p hp).unlink (ne_of_plain (hplain p hp) htmp), fun id' other hleft => ?_, h.apart.erase⟩
  obtain ⟨hne, hother⟩ := get?_erase_some hleft
  refine (h.ok _ _ hother).frame (fun D hD => Disk.mem_dirs_relink.mpr (.inr hD)) ?_
  intro dest' tmp' fd' phase' heq _ hentry' hprivate
  -- The names differ as the files do.
  have hnames : tmp' ≠ tmp := by
    rintro rfl
    have hfd : fd = fd' := Option.some.inj (hentry.symm.trans hentry')
    exact h.other_file hcall hother hne dest' _ phase' (heq.trans (by rw [Call.fd, hfd]))
  exact ⟨(Disk.get?_erase_of_ne hnames).trans hentry', hprivate.unlink htmp, rfl⟩

/-- **The temporary file, synced, takes the place of the destination.** -/
theorem Inv.replaced (h : Inv target saved s) (hplain : ∀ p, target p → Plain p) {dest tmp : Path} {fd i : Nat}
    (hcall : s.calls.get? id = some (.writeText dest tmp fd .synced)) (hi : s.disk.entries.get? tmp = some i) :
    Inv target saved { s with
      disk := s.disk.relink ((s.disk.entries.erase tmp).set dest i), calls := s.calls.erase id } := by
  obtain ⟨hdest, htmp, hentry, hprivate, n, hn, hsafe, hsaved⟩ := h.ok _ _ hcall
  obtain rfl : fd = i := Option.some.inj (hentry.symm.trans hi)
  have hwhole : ∀ p, target p → Whole (s.disk.relink ((s.disk.entries.erase tmp).set dest fd)) p (saved p) := by
    intro p hp
    by_cases hdp : dest = p
    · subst hdp
      exact (h.whole dest hp).rename ⟨n, hn, hsafe, hsaved hp⟩
    · exact (h.whole p hp).rename_ne (ne_of_plain (hplain p hp) htmp) hdp
  refine ⟨h.tidy.rename hprivate htmp (h.entry_lt hentry), hwhole, fun id' other hother => ?_, h.apart.erase⟩
  obtain ⟨hne, hother⟩ := get?_erase_some hother
  refine (h.ok _ _ hother).frame (fun D hD => Disk.mem_dirs_relink.mpr (.inr hD)) ?_
  intro dest' tmp' fd' phase' heq htmp' hentry' hprivate'
  have hfds : fd ≠ fd' := fun hfd => h.other_file hcall hother hne dest' tmp' phase' (by rw [heq, Call.fd, hfd])
  have hnames : tmp' ≠ tmp := by
    rintro rfl
    exact hfds (Option.some.inj (hentry.symm.trans hentry'))
  refine ⟨?_, hprivate'.rename htmp hfds, rfl⟩
  exact (Disk.get?_rename hnames).trans ((if_neg (ne_of_plain hdest htmp')).trans hentry')

/-- **A step keeps the invariant.** -/
theorem Inv.step (h : Inv target saved s) (hplain : ∀ p, target p → Plain p) (hl : l.Keeps cwd target saved) (hstep : step cwd s l = some s') :
    Inv target saved s' := by
  cases did_of_step hstep with
  | raised => exact h
  | openedTemp hdest hid htmp =>
    obtain ⟨hdestPlain, hsaved⟩ := hl _ hdest
    exact h.openedTemp hplain hdestPlain (not_plain_tempName _ _) htmp hsaved
  | openedAppend hdest hid =>
    obtain ⟨hdestPlain, hne⟩ := hl _ hdest
    exact h.openedAppend hdestPlain hne
  | encoded hcall hphase hbytes => exact h.encoded hcall hphase hbytes
  | wrote hcall hphase =>
    refine h.go_on hplain hcall _ fun allowed n hfill => ?_
    rw [hphase] at hfill
    obtain ⟨hcontent, hallowed⟩ := hfill
    exact ⟨by rw [hcontent], by rwa [List.append_assoc, List.take_append_drop]⟩
  | @syncedTemp id dest tmp fd done hcall =>
    have hfilled : ∀ allowed n, Filled allowed n (.writing done []) →
        Filled allowed { n with safe := n.content.length } .synced := by
      rintro allowed n ⟨hcontent, hallowed⟩
      exact ⟨rfl, by rwa [List.append_nil, ← hcontent] at hallowed⟩
    exact h.go_on hplain hcall _ hfilled
  | syncedAppend hcall => exact h.synced_end hplain hcall _ _
  | replaced hcall htmp => exact h.replaced hplain hcall htmp
  | unlinked hcall => exact h.unlinked hplain hcall
  | failed => exact h.erase
  | killed => exact inv_idle h.tidy h.whole
  | crashed => exact inv_idle h.tidy.crash fun p hp => (h.whole p hp).crash

/-! ## Every run -/

/-- The state a machine comes up in: no call, every file safe, and every name a file of its own. -/
structure Booted (s : State) : Prop where
  idle : s.calls = []
  none_appended : s.appended = []
  settled : s.disk.past = []
  safe : ∀ n ∈ s.disk.inodes, n.safe = n.content.length
  tidy : Tidy Plain s.disk

/-- A machine with one file. -/
def single (p : Path) (content : Bytes) : State :=
  { disk := { inodes := [{ content, safe := content.length }], entries := [(p, 0)], past := [] } }

theorem booted_single (p : Path) (content : Bytes) : Booted (single p content) where
  idle := rfl
  none_appended := rfl
  settled := rfl
  safe := by simp [single]
  tidy := by
    have hone : ∀ q i, Dict.get? ([(p, 0)] : Dict Path Nat) q = some i → p = q ∧ i = 0 := by
      intro q i hget
      rw [Dict.get?_cons] at hget
      split at hget
      case isTrue heq => exact ⟨heq, (Option.some.inj hget).symm⟩
      case isFalse => cases hget
    refine ⟨fun D hD q i hget => ?_, fun D hD D' hD' q q' i _ _ hget hget' => ?_⟩
    · obtain rfl : D = _ := List.mem_singleton.mp hD
      simp [single, (hone q i hget).2]
    · obtain rfl : D = _ := List.mem_singleton.mp hD
      obtain rfl : D' = _ := List.mem_singleton.mp hD'
      exact (hone q i hget).1.symm.trans (hone q' i hget').1

/-- A run keeps what its labels keep, whatever the state. -/
theorem allOk_of_mem {σ ℓ : Type} {step : σ → ℓ → Option σ} {ok : ℓ → Prop} {s : σ} {ls : List ℓ}
    (h : ∀ l ∈ ls, ok l) : AllOk step (fun _ l => ok l) s ls := by
  induction ls generalizing s with
  | nil => trivial
  | cons l ls ih =>
    refine ⟨h l List.mem_cons_self, ?_⟩
    cases step s l with
    | none => trivial
    | some s' => exact ih fun l' hl' => h l' (List.mem_cons_of_mem _ hl')

/-- A machine that came up meets the invariant for what the targets read as. -/
theorem Booted.inv (h : Booted s) (hsaved : ∀ p, target p → saved p (s.disk.read p)) : Inv target saved s := by
  have hwhole : ∀ p, target p → Whole s.disk p (saved p) := by
    intro p hp D hD
    have hread := hsaved p hp
    rw [Disk.dirs, h.settled, List.mem_singleton] at hD
    subst hD
    cases hi : s.disk.entries.get? p with
    | none =>
      rw [Disk.read, hi] at hread
      exact hread
    | some i =>
      have hlt := h.tidy.bounded _ Disk.entries_mem_dirs p i hi
      refine ⟨s.disk.inodes[i], List.getElem?_eq_getElem hlt, h.safe _ (List.getElem_mem hlt), ?_⟩
      rwa [Disk.read, hi, Option.bind_some, List.getElem?_eq_getElem hlt, Option.map_some] at hread
  have hidle : s = { disk := s.disk, calls := [], appended := s.appended } := by rw [← h.idle]
  rw [hidle]
  exact inv_idle h.tidy hwhole

/-- **Whole files.** After any run, in which calls interleave, fail and die and the machine goes down, a file that
    nobody appends to reads as it did at the start, or as the whole text of a `write_text` on it. -/
theorem reads_whole (hboot : Booted s₀) (hp : Plain p) (hrun : exec (step cwd) s₀ ls = some s)
    (hwrites : ∀ id path text random, .writeText id path text random ∈ ls → ∀ dest, destination cwd path = some dest →
      Plain dest)
    (happends : ∀ id path text, .appendAtomic id path text ∈ ls → ∀ dest, destination cwd path = some dest →
      Plain dest ∧ dest ≠ p) :
    s.disk.read p = s₀.disk.read p ∨
      ∃ id path text random bytes, .writeText id path text random ∈ ls ∧ destination cwd path = some p ∧
        encodeUtf8 text = some bytes ∧ s.disk.read p = some bytes := by
  let saved : Path → Option Bytes → Prop := fun p content =>
    content = s₀.disk.read p ∨
      ∃ id path text random bytes, .writeText id path text random ∈ ls ∧ destination cwd path = some p ∧
        encodeUtf8 text = some bytes ∧ content = some bytes
  have hkeeps : ∀ l ∈ ls, l.Keeps cwd (· = p) saved := by
    intro l hl
    cases l with
    | writeText id path text random =>
      intro dest hdest
      exact ⟨hwrites id path text random hl dest hdest, fun _ bytes hbytes =>
        .inr ⟨id, path, text, random, bytes, hl, hdest, hbytes, rfl⟩⟩
    | appendAtomic id path text => exact happends id path text hl
    | _ => trivial
  have hreaches := reachesUnder_of_exec .start ls hrun (allOk_of_mem hkeeps)
  have hinv : Inv (· = p) saved s :=
    hreaches.invariant (hboot.inv fun _ _ => .inl rfl) fun _ _ _ hi hl hs => hi.step (fun _ heq => heq ▸ hp) hl hs
  exact (hinv.whole p rfl).read

/-- A `write_text` is half written when the machine goes down, and another one then replaces the file. -/
theorem reads_whole_after_crash : ∃ ls s, exec (step []) (single [str "a"] [0x5b, 0x5d]) ls = some s ∧
    .crash 1 [] ∈ ls ∧ s.disk.read [str "a"] = some [0x7b, 0x7d] ∧
    (s.disk.read [str "a"] = (single [str "a"] [0x5b, 0x5d]).disk.read [str "a"] ∨
      ∃ id path text random bytes, .writeText id path text random ∈ ls ∧ destination [] path = some [str "a"] ∧
        encodeUtf8 text = some bytes ∧ s.disk.read [str "a"] = some bytes) := by
  let ls : List Label :=
    [.writeText 0 (str "/a") (str "{}") (str "rs"), .encode 0, .write 0 1, .crash 1 [],
     .writeText 1 (str "/a") (str "{}") (str "tu"), .encode 1, .write 1 2, .fsync 1, .replace 1]
  have hread : (exec (step []) (single [str "a"] [0x5b, 0x5d]) ls).map (fun s => s.disk.read [str "a"]) =
      some (some [0x7b, 0x7d]) := by decide +kernel
  obtain ⟨s, hrun, hs⟩ := Option.map_eq_some_iff.mp hread
  refine ⟨ls, s, hrun, by simp [ls], hs, reads_whole (booted_single _ _) (by decide) hrun ?_ ?_⟩
  · intro id path text random hmem dest hdest
    have hpath : path = str "/a" := by
      simp [ls] at hmem
      tauto
    have hd : destination [] (str "/a") = some [str "a"] := by decide +kernel
    rw [hpath, hd] at hdest
    cases hdest
    decide
  · intro id path text hmem
    simp [ls] at hmem

/-! ## What was appended -/

/-- A record of a file that a call handed to the system in one piece. -/
def Call.handed (p : Path) (record : Bytes) : Call → Bool
  | .appendAtomic path _ (.writing done []) => path = p && done = record
  | _ => false

/-- The records that the calls which returned appended to a file. -/
def State.appendedTo (s : State) (p : Path) : List Bytes := (s.appended.filter fun kv => kv.1 = p).map Prod.snd

/-- How much of its record a call of `append_atomic` has not handed over. -/
def Call.unwritten : Call → Nat
  | .appendAtomic _ _ (.writing _ rest) => rest.length
  | _ => 0

/-- Nobody replaces the file, every destination is a plain name, and a record is written in one piece. -/
def Appending (cwd p : Path) (s : State) : Label → Prop
  | .writeText _ path _ _  => ∀ dest ∈ destination cwd path, Plain dest ∧ dest ≠ p
  | .appendAtomic _ path _ => ∀ dest ∈ destination cwd path, Plain dest
  | .write id n            => ∀ call ∈ s.calls.get? id, call.unwritten ≤ n
  | _                      => True

instance (cwd p : Path) (s : State) : (l : Label) → Decidable (Appending cwd p s l)
  | .writeText _ path _ _  => inferInstanceAs (Decidable (∀ dest ∈ destination cwd path, Plain dest ∧ dest ≠ p))
  | .appendAtomic _ path _ => inferInstanceAs (Decidable (∀ dest ∈ destination cwd path, Plain dest))
  | .write id n            => inferInstanceAs (Decidable (∀ call ∈ s.calls.get? id, call.unwritten ≤ n))
  | .encode _ | .fsync _ | .replace _ | .fails _ _ | .kill | .crash _ _ => .isTrue trivial

/-- A call of `append_atomic` on the file writes to that file, nothing yet or all; one of `write_text` is about
    another. -/
def OnFile (p : Path) (i : Nat) : Call → Prop
  | .writeText dest _ _ _ => dest ≠ p
  | .appendAtomic path fd phase =>
    path = p → fd = i ∧ ∀ done rest, phase = .writing done rest → done = [] ∨ rest = []

/-- The file is what it was and then pieces, of which the first are safe. Each record of a call that returned is a
    piece of its own among the safe ones, and each record handed over another piece. -/
def Pieces (returned : List Bytes) (handed : Bytes → Nat) (initial : Bytes) (n : Inode Byte) : Prop :=
  ∃ kept late : List Bytes, n.content = initial ++ (kept ++ late).flatten ∧
    (initial ++ kept.flatten).length ≤ n.safe ∧ (∀ r, returned.count r ≤ kept.count r) ∧
    ∀ r, returned.count r + handed r ≤ (kept ++ late).count r

/-- What holds in every state of a run that only appends to `p`. -/
structure Log (p : Path) (i : Nat) (initial : Bytes) (s : State) : Prop where
  base : Inv (fun _ => False) (fun _ _ => True) s
  placed : Placed s.disk p i
  on : ∀ id call, s.calls.get? id = some call → OnFile p i call
  pieces : ∃ n, s.disk.inodes[i]? = some n ∧
    Pieces (s.appendedTo p) (fun r => s.calls.countP fun kv => kv.2.handed p r) initial n

variable {i : Nat} {initial : Bytes} {returned returned' : List Bytes} {handed handed' : Bytes → Nat} {n : Inode Byte}

/-- Fewer records on their way. -/
theorem Pieces.mono (h : Pieces returned handed initial n) (hle : ∀ r, handed' r ≤ handed r) :
    Pieces returned handed' initial n := by
  obtain ⟨kept, late, hcontent, hsafe, hkept, hall⟩ := h
  exact ⟨kept, late, hcontent, hsafe, hkept, fun r => (Nat.add_le_add_left (hle r) _).trans (hall r)⟩

/-- One record more is written, in one piece. -/
theorem Pieces.write (h : Pieces returned handed initial n) (record : Bytes)
    (hle : ∀ r, handed' r ≤ handed r + if record = r then 1 else 0) :
    Pieces returned handed' initial { n with content := n.content ++ record } := by
  obtain ⟨kept, late, hcontent, hsafe, hkept, hall⟩ := h
  refine ⟨kept, late ++ [record], by simp [hcontent], hsafe, hkept, fun r => ?_⟩
  have hone : (kept ++ (late ++ [record])).count r = (kept ++ late).count r + if record = r then 1 else 0 := by
    rw [← List.append_assoc, List.count_append, List.count_singleton]
    simp
  have := hall r
  have := hle r
  omega

/-- The file is synced, and one of the records on their way is that of a call that returns. -/
theorem Pieces.sync (h : Pieces returned handed initial n) (record : Bytes)
    (hle : ∀ r, handed' r + (if record = r then 1 else 0) ≤ handed r) :
    Pieces (returned ++ [record]) handed' initial { n with safe := n.content.length } := by
  obtain ⟨kept, late, hcontent, hsafe, hkept, hall⟩ := h
  have hone : ∀ r, (returned ++ [record]).count r = returned.count r + if record = r then 1 else 0 := by
    intro r
    rw [List.count_append, List.count_singleton]
    simp
  refine ⟨kept ++ late, [], by simp [hcontent], by simp [hcontent], fun r => ?_, fun r => ?_⟩
  · have := hall r
    have := hle r
    rw [hone]
    omega
  · have := hall r
    have := hle r
    rw [List.append_nil, hone]
    omega

/-- **A crash keeps the safe pieces**; the rest of the file is one piece more. -/
theorem Pieces.torn (h : Pieces returned handed initial n) (tail : List Byte) :
    Pieces returned (fun _ => 0) initial (n.torn tail) := by
  obtain ⟨kept, late, hcontent, hsafe, hkept, -⟩ := h
  have hbegin : ∃ rest, n.content.take n.safe = initial ++ kept.flatten ++ rest := by
    refine ⟨late.flatten.take (n.safe - (initial ++ kept.flatten).length), ?_⟩
    rw [hcontent, List.flatten_append, ← List.append_assoc, List.take_append, List.take_of_length_le hsafe]
  obtain ⟨rest, hrest⟩ := hbegin
  refine ⟨kept, [rest ++ tail.take (n.content.length - n.safe)], ?_, ?_, hkept, fun r => ?_⟩
  · simp [Inode.torn, hrest]
  · simp only [Inode.torn, hrest, List.length_append]
    omega
  · have := hkept r
    rw [List.count_append, Nat.add_zero]
    omega

/-- The calls on their way after one of them went on. -/
theorem handed_set_le (calls : Dict Nat Call) (id : Nat) (call : Call) (p : Path) (r : Bytes) :
    (calls.set id call).countP (fun kv => kv.2.handed p r) ≤
      calls.countP (fun kv => kv.2.handed p r) + if call.handed p r then 1 else 0 :=
  Dict.countP_set_le (Call.handed p r) calls id call

/-- … and where it has handed over nothing. -/
theorem handed_set_of_not (calls : Dict Nat Call) (id : Nat) {call : Call} {p : Path} {r : Bytes}
    (h : call.handed p r = false) :
    (calls.set id call).countP (fun kv => kv.2.handed p r) ≤ calls.countP (fun kv => kv.2.handed p r) := by
  have := handed_set_le calls id call p r
  rwa [h, if_neg (by decide), Nat.add_zero] at this

/-- … and after one of them ended. -/
theorem handed_erase_le (calls : Dict Nat Call) (id : Nat) (p : Path) (r : Bytes) :
    (calls.erase id).countP (fun kv => kv.2.handed p r) ≤ calls.countP (fun kv => kv.2.handed p r) :=
  (Nat.le_add_right _ _).trans (Dict.countP_erase_le (Call.handed p r) calls id)

/-- The calls on their way after one of them went on. -/
theorem on_set {calls : Dict Nat Call} (h : ∀ id call, calls.get? id = some call → OnFile p i call)
    (hnew : OnFile p i call) : ∀ id' other, (calls.set id call).get? id' = some other → OnFile p i other := by
  intro id' other hother
  rcases get?_set_some hother with ⟨-, rfl⟩ | ⟨-, hother⟩
  · exact hnew
  · exact h _ _ hother

/-- … and after one of them ended. -/
theorem on_erase {calls : Dict Nat Call} (h : ∀ id call, calls.get? id = some call → OnFile p i call) :
    ∀ id' other, (calls.erase id).get? id' = some other → OnFile p i other :=
  fun _ _ hother => h _ _ (get?_erase_some hother).2

/-- A call on another file does not touch this one. -/
theorem Log.fd_ne (h : Log p i initial s) (hp : Plain p) (hcall : s.calls.get? id = some call)
    (hother : ∀ fd phase, call ≠ .appendAtomic p fd phase) : call.fd ≠ i := by
  intro heq
  have hget : s.disk.entries.get? p = some i := h.placed _ Disk.entries_mem_dirs
  have hok := h.base.ok _ _ hcall
  cases call with
  | writeText dest tmp fd phase =>
    obtain ⟨-, -, -, hprivate, -⟩ := hok
    have heq : fd = i := heq
    exact hprivate _ Disk.entries_mem_dirs p hp (heq ▸ hget)
  | appendAtomic path fd phase =>
    obtain ⟨hpath, -, D, hD, hget'⟩ := hok
    have heq : fd = i := heq
    have hpp : path = p := h.base.tidy.apart D hD _ Disk.entries_mem_dirs path p i hpath hp (heq ▸ hget') hget
    exact hother fd phase (by rw [hpp])

/-- **A step of a call that leaves the file alone.** -/
theorem Log.other (h : Log p i initial s) (hbase : Inv (fun _ => False) (fun _ _ => True) s')
    (hplaced : Placed s'.disk p i) (hon : ∀ id call, s'.calls.get? id = some call → OnFile p i call)
    (hsame : s'.disk.inodes[i]? = s.disk.inodes[i]?) (happended : s'.appendedTo p = s.appendedTo p)
    (hhanded : ∀ r, s'.calls.countP (fun kv => kv.2.handed p r) ≤ s.calls.countP fun kv => kv.2.handed p r) :
    Log p i initial s' := by
  refine ⟨hbase, hplaced, hon, ?_⟩
  obtain ⟨n, hn, hpieces⟩ := h.pieces
  refine ⟨n, hsame.trans hn, ?_⟩
  rw [happended]
  exact hpieces.mono hhanded

/-- The file is there. -/
theorem Log.lt (h : Log p i initial s) : i < s.disk.inodes.length := by
  obtain ⟨n, hn, -⟩ := h.pieces
  exact (List.getElem?_eq_some_iff.mp hn).1

theorem handed_append {path : Path} {fd : Nat} {done rest record : Bytes} :
    Call.handed p record (.appendAtomic path fd (.writing done rest)) = true ↔
      rest = [] ∧ path = p ∧ done = record := by
  cases rest <;> simp [Call.handed]

/-- Bytes are handed over. -/
theorem Log.wrote (h : Log p i initial s) (hp : Plain p) {n : Nat} {done rest : Bytes}
    (hbase : Inv (fun _ => False) (fun _ _ => True)
      { s with disk := s.disk.append call.fd (rest.take n)
               calls := s.calls.set id (call.withPhase (.writing (done ++ rest.take n) (rest.drop n))) })
    (hcall : s.calls.get? id = some call) (hphase : call.phase = .writing done rest)
    (hlength : ∀ path fd, call = .appendAtomic path fd (.writing done rest) → rest.length ≤ n) :
    Log p i initial
      { s with disk := s.disk.append call.fd (rest.take n)
               calls := s.calls.set id (call.withPhase (.writing (done ++ rest.take n) (rest.drop n))) } := by
  have hon := h.on _ _ hcall
  have hothers : (∀ fd phase, call ≠ .appendAtomic p fd phase) →
      OnFile p i (call.withPhase (.writing (done ++ rest.take n) (rest.drop n))) →
      (∀ r, (call.withPhase (.writing (done ++ rest.take n) (rest.drop n))).handed p r = false) →
      Log p i initial
        { s with disk := s.disk.append call.fd (rest.take n)
                 calls := s.calls.set id (call.withPhase (.writing (done ++ rest.take n) (rest.drop n))) } :=
    fun hne honNew hnot => h.other hbase h.placed.alter (on_set h.on honNew)
      (Disk.getElem?_alter_ne (h.fd_ne hp hcall hne)) rfl fun r => handed_set_of_not _ _ (hnot r)
  cases call with
  | writeText dest tmp fd phase => exact hothers (fun _ _ heq => by simp at heq) hon fun _ => rfl
  | appendAtomic path fd phase =>
    obtain rfl : phase = .writing done rest := hphase
    have hfull := hlength path fd rfl
    by_cases hpath : path = p
    · subst hpath
      obtain ⟨rfl, hunsplit⟩ := hon rfl
      obtain ⟨n₀, hn₀, hpieces⟩ := h.pieces
      simp only [Call.withPhase, List.take_of_length_le hfull, List.drop_of_length_le hfull] at hbase ⊢
      by_cases hrest : rest = []
      · -- All was handed over already: nothing changes.
        subst hrest
        simp only [List.append_nil, Dict.set_of_get? hcall] at hbase ⊢
        refine ⟨hbase, h.placed.alter, h.on, _, Disk.getElem?_append hn₀, ?_⟩
        rw [List.append_nil]
        exact hpieces
      · obtain rfl : done = [] := (hunsplit _ _ rfl).resolve_right hrest
        refine ⟨hbase, h.placed.alter, on_set h.on fun _ => ⟨rfl, fun _ _ heq => ?_⟩, _,
          Disk.getElem?_append hn₀, hpieces.write rest fun r => ?_⟩
        · cases heq
          exact .inr rfl
        · refine (handed_set_le _ _ _ _ _).trans (Nat.add_le_add_left (le_of_eq ?_) _)
          simp [Call.handed]
    · refine hothers (fun fd' phase heq => ?_) (fun heq => absurd heq hpath) fun r => ?_
      · cases heq
        exact hpath rfl
      · rw [Bool.eq_false_iff]
        exact fun hhanded => hpath (handed_append.mp hhanded).2.1

/-- A call syncs its file and returns. -/
theorem Log.synced (h : Log p i initial s) (hp : Plain p) {path : Path} {fd : Nat} {done : Bytes}
    (hbase : Inv (fun _ => False) (fun _ _ => True)
      { s with disk := s.disk.sync fd, calls := s.calls.erase id, appended := s.appended ++ [(path, done)] })
    (hcall : s.calls.get? id = some (.appendAtomic path fd (.writing done []))) :
    Log p i initial
      { s with disk := s.disk.sync fd, calls := s.calls.erase id, appended := s.appended ++ [(path, done)] } := by
  by_cases hpath : path = p
  · subst hpath
    obtain ⟨rfl, -⟩ := h.on _ _ hcall rfl
    obtain ⟨n, hn, hpieces⟩ := h.pieces
    refine ⟨hbase, h.placed.alter, on_erase h.on, _, Disk.getElem?_sync hn, ?_⟩
    have happended : State.appendedTo
        { s with disk := s.disk.sync fd, calls := s.calls.erase id, appended := s.appended ++ [(path, done)] } path =
        s.appendedTo path ++ [done] := by
      simp [State.appendedTo]
    rw [happended]
    refine hpieces.sync done fun r => ?_
    have hless := Dict.countP_erase_le (Call.handed path r) s.calls id
    rw [hcall] at hless
    simpa [Call.handed] using hless
  · refine h.other hbase h.placed.alter (on_erase h.on) (Disk.getElem?_alter_ne ?_) ?_ fun r => handed_erase_le _ _ _ _
    · exact h.fd_ne hp hcall fun fd' phase heq => hpath (by cases heq; rfl)
    · simp [State.appendedTo, hpath]

theorem onFile_encoded {bytes : Bytes} (h : OnFile p i call) : OnFile p i (call.withPhase (.writing [] bytes)) := by
  cases call with
  | writeText dest tmp fd phase => exact h
  | appendAtomic path fd phase =>
    refine fun hpath => ⟨(h hpath).1, fun done rest heq => ?_⟩
    cases heq
    exact .inl rfl

theorem handed_encoded_le (call : Call) (bytes : Bytes) (p : Path) (r : Bytes) :
    (if (call.withPhase (.writing [] bytes)).handed p r then 1 else 0) ≤ if [] = r then 1 else 0 := by
  cases call with
  | writeText dest tmp fd phase => simp [Call.withPhase, Call.handed]
  | appendAtomic path fd phase =>
    by_cases hhanded : (Call.appendAtomic path fd (.writing [] bytes)).handed p r = true
    · obtain ⟨-, -, hr⟩ := handed_append.mp hhanded
      rw [if_pos hr]
      split <;> omega
    · rw [Call.withPhase, if_neg hhanded]
      exact Nat.zero_le _

/-- **A step keeps what was appended.** -/
theorem Log.step (h : Log p i initial s) (hp : Plain p) (hl : Appending cwd p s l) (hstep : step cwd s l = some s') :
    Log p i initial s' := by
  have hbase : Inv (fun _ => False) (fun _ _ => True) s' := by
    refine h.base.step (fun _ hfalse => hfalse.elim) ?_ hstep
    cases l with
    | writeText id path text random => exact fun dest hdest => ⟨(hl dest hdest).1, fun hfalse => hfalse.elim⟩
    | appendAtomic id path text => exact fun dest hdest => ⟨hl dest hdest, not_false⟩
    | _ => trivial
  cases did_of_step hstep with
  | raised => exact h
  | @openedTemp id path text random dest hdest hid htmp =>
    have hne := ne_of_plain hp (not_plain_tempName dest random)
    exact h.other hbase (h.placed.create hne.symm) (on_set h.on (hl _ hdest).2) (Disk.getElem?_create h.lt) rfl
      fun r => handed_set_of_not _ _ rfl
  | @openedAppend id path text dest hdest hid =>
    by_cases hdp : dest = p
    · subst hdp
      rw [h.placed.openAppend_self] at hbase ⊢
      exact h.other hbase h.placed (on_set h.on fun _ => ⟨rfl, fun _ _ heq => by simp at heq⟩) rfl rfl
        fun r => handed_set_of_not _ _ rfl
    · refine h.other hbase (h.placed.openAppend hdp) (on_set h.on fun heq => absurd heq hdp) ?_ rfl
        fun r => handed_set_of_not _ _ rfl
      rcases Disk.openAppend_cases s.disk dest with ⟨j, -, heq⟩ | ⟨-, heq⟩
      · rw [heq]
      · rw [heq]
        exact Disk.getElem?_create h.lt
  | @encoded id call text bytes hcall hphase hbytes =>
    obtain ⟨n, hn, hpieces⟩ := h.pieces
    refine ⟨hbase, h.placed, on_set h.on (onFile_encoded (h.on _ _ hcall)), n, hn, ?_⟩
    -- An empty text is handed over at once: an empty piece.
    have hpiece := hpieces.write [] fun r => (handed_set_le s.calls id (call.withPhase (.writing [] bytes)) p r).trans
      (Nat.add_le_add_left (handed_encoded_le call bytes p r) _)
    rwa [List.append_nil] at hpiece
  | wrote hcall hphase =>
    refine h.wrote hp hbase hcall hphase fun path fd heq => ?_
    subst heq
    exact hl _ hcall
  | syncedTemp hcall =>
    exact h.other hbase h.placed.alter (on_set h.on (h.on _ _ hcall :))
      (Disk.getElem?_alter_ne (h.fd_ne hp hcall fun _ _ heq => by simp at heq)) rfl fun r => handed_set_of_not _ _ rfl
  | syncedAppend hcall => exact h.synced hp hbase hcall
  | replaced hcall htmp =>
    obtain ⟨-, htmpPlain, -⟩ := h.base.ok _ _ hcall
    exact h.other hbase (h.placed.rename_ne (ne_of_plain hp htmpPlain) (h.on _ _ hcall)) (on_erase h.on) rfl rfl
      fun r => handed_erase_le _ _ _ _
  | unlinked hcall =>
    obtain ⟨-, htmpPlain, -⟩ := h.base.ok _ _ hcall
    exact h.other hbase (h.placed.unlink (ne_of_plain hp htmpPlain)) (on_erase h.on) rfl rfl
      fun r => handed_erase_le _ _ _ _
  | failed => exact h.other hbase h.placed (on_erase h.on) rfl rfl fun r => handed_erase_le _ _ _ _
  | killed => exact h.other hbase h.placed (fun _ _ hget => by cases hget) rfl rfl fun r => Nat.zero_le _
  | @crashed k tails =>
    obtain ⟨n, hn, hpieces⟩ := h.pieces
    refine ⟨hbase, h.placed.crash, fun id call hget => (by cases hget), n.torn (tails[i]?.getD []), ?_, hpieces.torn _⟩
    rw [Disk.getElem?_crash, hn, Option.map_some]

/-- **Nothing appended is lost.** Where a file that was there is only appended to, and each record goes to the system in
    one piece, the file is in every state of a run what it was and then pieces, and the records of the calls that
    returned are among the pieces, each as often as it was appended. -/
theorem appended_kept (hboot : Booted s₀) (hp : Plain p) (hread : s₀.disk.read p = some initial)
    (h : ReachesUnder (step cwd) (Appending cwd p) s₀ s) :
    ∃ pieces, s.disk.read p = some (initial ++ pieces.flatten) ∧ (s.appendedTo p).Subperm pieces := by
  obtain ⟨i, hi, hcontent⟩ := Option.bind_eq_some_iff.mp hread
  obtain ⟨n, hn, rfl⟩ := Option.map_eq_some_iff.mp hcontent
  have hstart : Log p i n.content s₀ := by
    refine ⟨hboot.inv fun _ _ => trivial, fun D hD => ?_, fun id call hget => ?_, n, hn, [], [], ?_⟩
    · rw [Disk.dirs, hboot.settled, List.mem_singleton] at hD
      exact hD ▸ hi
    · rw [hboot.idle] at hget
      cases hget
    · have hsafe := hboot.safe n (List.mem_of_getElem? hn)
      simp [State.appendedTo, hboot.none_appended, hboot.idle, hsafe]
  have hlog : Log p i n.content s := h.invariant hstart fun _ _ _ hi hl hs => hi.step hp hl hs
  obtain ⟨n', hn', kept, late, hcontent', -, -, hall⟩ := hlog.pieces
  have hcount : ∀ r, (s.appendedTo p).count r ≤ (kept ++ late).count r :=
    fun r => (Nat.le_add_right _ _).trans (hall r)
  exact ⟨kept ++ late, by rw [hlog.placed.read hn', hcontent'], List.subperm_ext_iff.mpr fun r _ => hcount r⟩

/-- Two calls append, the machine goes down before the second one has synced, and a third call appends. -/
theorem appended_kept_after_crash : ∃ s, Reaches (step []) (single [str "a"] []) s ∧
    s.disk.read [str "a"] = some [0x31, 0x0a, 0x32, 0x33, 0x0a] ∧ s.appendedTo [str "a"] = [[0x31, 0x0a], [0x33, 0x0a]] ∧
    ∃ pieces, s.disk.read [str "a"] = some ([] ++ pieces.flatten) ∧ (s.appendedTo [str "a"]).Subperm pieces := by
  let ls : List Label :=
    [.appendAtomic 0 (str "/a") (str "1\n"), .appendAtomic 1 (str "/a") (str "2\n"), .encode 0, .encode 1, .write 0 2,
     .fsync 0, .write 1 2, .crash 0 [[0x32]], .appendAtomic 2 (str "/a") (str "3\n"), .encode 2, .write 2 2, .fsync 2]
  have hfacts : (exec (step []) (single [str "a"] []) ls).map
      (fun s => (s.disk.read [str "a"], s.appendedTo [str "a"])) =
      some (some [0x31, 0x0a, 0x32, 0x33, 0x0a], [[0x31, 0x0a], [0x33, 0x0a]]) := by decide +kernel
  obtain ⟨s, hrun, hs⟩ := Option.map_eq_some_iff.mp hfacts
  have hok : AllOk (step []) (Appending [] [str "a"]) (single [str "a"] []) ls := by decide +kernel
  simp only [Prod.mk.injEq] at hs
  exact ⟨s, reaches_of_exec ls hrun, hs.1, hs.2,
    appended_kept (booted_single _ _) (by decide) (by decide) (reachesUnder_of_exec .start ls hrun hok)⟩

end RideTheApi.AtomicIo
