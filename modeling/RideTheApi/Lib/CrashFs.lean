import Mathlib.Data.List.Infix
import RideTheApi.Lib.Dict

/-!
# `Lib.CrashFs` — files, directory entries, and what a crash leaves of them

A disk holds files (`Inode`) and one directory that names them. What was written to a file is visible at once, but
only its first `safe` elements survive a crash; `sync` makes all of it safe. A change of the directory is visible at
once too, and a crash may bring back any directory since the last crash (`dirs`): nothing here makes the directory
itself safe. A crash keeps the safe part of each file and puts anything at all, no longer than what was there, in
place of the rest.

Two facts about a name survive under such a crash, and each has a rule for every operation:

* `Whole plain p saved` — in whatever directory a crash brings back, `p` names a file all of which is safe and whose
  content meets `saved`. A file prepared under another name and synced before it is renamed to `p` keeps it
  (`Whole.rename`), and so does all that is done to files no plain name leads to (`Private`).
* `Kept p pre` — every directory has `p` for one file, and `pre` is a safe beginning of it. Appending keeps it.
-/

namespace CrashFs

/-- A file: its elements, and how many of them are on the medium. -/
structure Inode (β : Type) where
  content : List β
  safe : Nat
deriving Repr, DecidableEq

/-- What a crash leaves of a file, with `tail` where its unsafe end was. -/
def Inode.torn {β : Type} (n : Inode β) (tail : List β) : Inode β :=
  let content := n.content.take n.safe ++ tail.take (n.content.length - n.safe)
  { content, safe := content.length }

/-- The files, the directory, and the directories a crash may bring back instead. -/
structure Disk (ι β : Type) where
  inodes : List (Inode β)
  entries : Dict ι Nat
  past : List (Dict ι Nat)
deriving Repr, DecidableEq

variable {ι β : Type} [DecidableEq ι]

namespace Disk

/-- The directories a crash may leave. -/
def dirs (d : Disk ι β) : List (Dict ι Nat) := d.entries :: d.past

/-- The content of the file a name leads to. -/
def read (d : Disk ι β) (p : ι) : Option (List β) :=
  (d.entries.get? p).bind fun i => d.inodes[i]?.map Inode.content

/-- A new directory; the one so far may come back. -/
def relink (d : Disk ι β) (entries : Dict ι Nat) : Disk ι β := { d with entries, past := d.dirs }

/-- A file changed. -/
def alter (d : Disk ι β) (i : Nat) (f : Inode β → Inode β) : Disk ι β := { d with inodes := d.inodes.modify i f }

/-- A new empty file under a name. -/
def create (d : Disk ι β) (t : ι) : Disk ι β :=
  { d with inodes := d.inodes ++ [{ content := [], safe := 0 }], past := d.dirs,
           entries := d.entries.set t d.inodes.length }

/-- The file a name leads to, made when there is none. -/
def openAppend (d : Disk ι β) (p : ι) : Nat × Disk ι β :=
  match d.entries.get? p with
  | some i => (i, d)
  | none   => (d.inodes.length, d.create p)

/-- Write at the end of a file. -/
def append (d : Disk ι β) (i : Nat) (data : List β) : Disk ι β :=
  d.alter i fun n => { n with content := n.content ++ data }

/-- Bring all of a file to the medium. -/
def sync (d : Disk ι β) (i : Nat) : Disk ι β := d.alter i fun n => { n with safe := n.content.length }

/-- Give a file another name, in place of what that name led to. -/
def rename (d : Disk ι β) (t p : ι) : Option (Disk ι β) :=
  (d.entries.get? t).map fun i => d.relink ((d.entries.erase t).set p i)

/-- Take a name away. -/
def unlink (d : Disk ι β) (t : ι) : Disk ι β := d.relink (d.entries.erase t)

/-- A crash: the `k`-th directory comes back, and each file's unsafe end is replaced. -/
def crash (d : Disk ι β) (k : Nat) (tails : List (List β)) : Disk ι β :=
  { inodes := d.inodes.mapIdx fun i n => Inode.torn n (tails[i]?.getD [])
    entries := d.dirs[k]?.getD d.entries, past := [] }

variable {d : Disk ι β} {D E : Dict ι Nat} {p q t : ι} {i j k : Nat} {f : Inode β → Inode β} {tails : List (List β)}

omit [DecidableEq ι] in
theorem entries_mem_dirs : d.entries ∈ d.dirs := List.mem_cons_self

omit [DecidableEq ι] in
@[simp] theorem dirs_alter : (d.alter i f).dirs = d.dirs := rfl

omit [DecidableEq ι] in
@[simp] theorem inodes_relink : (d.relink E).inodes = d.inodes := rfl

omit [DecidableEq ι] in
theorem mem_dirs_relink : D ∈ (d.relink E).dirs ↔ D = E ∨ D ∈ d.dirs := List.mem_cons

theorem mem_dirs_create : D ∈ (d.create t).dirs ↔ D = d.entries.set t d.inodes.length ∨ D ∈ d.dirs := List.mem_cons

theorem length_create : (d.create t).inodes.length = d.inodes.length + 1 := by simp [create]

omit [DecidableEq ι] in
@[simp] theorem length_alter : (d.alter i f).inodes.length = d.inodes.length := by simp [alter]

omit [DecidableEq ι] in
@[simp] theorem length_crash : (d.crash k tails).inodes.length = d.inodes.length := by simp [crash]

theorem getElem?_create (h : i < d.inodes.length) : (d.create t).inodes[i]? = d.inodes[i]? :=
  List.getElem?_append_left h

theorem getElem?_create_self : (d.create t).inodes[d.inodes.length]? = some { content := [], safe := 0 } := by
  simp [create]

omit [DecidableEq ι] in
theorem getElem?_alter_self : (d.alter i f).inodes[i]? = d.inodes[i]?.map f := by
  simp [alter]

omit [DecidableEq ι] in
theorem getElem?_alter_ne (h : i ≠ j) : (d.alter i f).inodes[j]? = d.inodes[j]? := by
  simp [alter, h]

omit [DecidableEq ι] in
theorem getElem?_append {n : Inode β} {data : List β} (h : d.inodes[i]? = some n) :
    (d.append i data).inodes[i]? = some { n with content := n.content ++ data } := by
  rw [append, getElem?_alter_self, h, Option.map_some]

omit [DecidableEq ι] in
theorem getElem?_sync {n : Inode β} (h : d.inodes[i]? = some n) :
    (d.sync i).inodes[i]? = some { n with safe := n.content.length } := by
  rw [sync, getElem?_alter_self, h, Option.map_some]

omit [DecidableEq ι] in
theorem getElem?_crash : (d.crash k tails).inodes[i]? = d.inodes[i]?.map fun n => n.torn (tails[i]?.getD []) := by
  simp [crash]

omit [DecidableEq ι] in
/-- A crash brings back a directory that was there. -/
theorem mem_dirs_crash (h : D ∈ (d.crash k tails).dirs) : D ∈ d.dirs := by
  have heq : D = d.dirs[k]?.getD d.entries := by simpa [crash, dirs] using h
  rw [heq]
  cases hk : d.dirs[k]? with
  | none => exact entries_mem_dirs
  | some D' => exact List.mem_of_getElem? hk

/-- A rename puts the file under its new name and leaves the other names. -/
theorem get?_rename (h : q ≠ t) :
    ((d.entries.erase t).set p i).get? q = if p = q then some i else d.entries.get? q := by
  rw [Dict.get?_set, Dict.get?_erase, if_neg (Ne.symm h)]

theorem get?_erase_of_ne (h : q ≠ t) : (d.entries.erase t).get? q = d.entries.get? q := by
  rw [Dict.get?_erase, if_neg (Ne.symm h)]

/-- Opening a name that is there changes nothing; else it makes a file. -/
theorem openAppend_cases (d : Disk ι β) (p : ι) :
    (∃ i, d.entries.get? p = some i ∧ d.openAppend p = (i, d)) ∨
    (d.entries.get? p = none ∧ d.openAppend p = (d.inodes.length, d.create p)) := by
  unfold openAppend
  cases h : d.entries.get? p with
  | none => exact .inr ⟨rfl, rfl⟩
  | some i => exact .inl ⟨i, rfl, rfl⟩

end Disk

/-- A file that is safe as it is comes back as it was. -/
theorem Inode.torn_of_safe {n : Inode β} (h : n.safe = n.content.length) (tail : List β) : n.torn tail = n := by
  cases n with
  | mk content safe =>
    have hsafe : safe = content.length := h
    subst hsafe
    simp [torn]

open Disk

variable {d d' : Disk ι β} {p q t : ι} {i j k : Nat} {plain : ι → Prop} {saved : Option (List β) → Prop}
  {E : Dict ι Nat} {f : Inode β → Inode β} {tails : List (List β)}

/-! ## Files no plain name leads to -/

/-- No plain name leads to the file, in any directory a crash may bring back. -/
def Private (plain : ι → Prop) (d : Disk ι β) (i : Nat) : Prop := ∀ D ∈ d.dirs, ∀ q, plain q → D.get? q ≠ some i

/-- Every name leads to a file, and no two plain names ever lead to the same one. -/
structure Tidy (plain : ι → Prop) (d : Disk ι β) : Prop where
  bounded : ∀ D ∈ d.dirs, ∀ p i, D.get? p = some i → i < d.inodes.length
  apart : ∀ D ∈ d.dirs, ∀ D' ∈ d.dirs, ∀ p q i, plain p → plain q → D.get? p = some i → D'.get? q = some i → p = q

omit [DecidableEq ι] in
theorem ne_of_plain (hq : plain q) (ht : ¬ plain t) : q ≠ t := fun heq => ht (heq ▸ hq)

/-- The files may change as they like. -/
theorem Private.alter (h : Private plain d i) : Private plain (d.alter j f) i := h

/-- A directory in which no plain name leads to the file keeps it private. -/
theorem Private.relink (h : Private plain d i) (hE : ∀ q, plain q → E.get? q ≠ some i) :
    Private plain (d.relink E) i := by
  intro D hD
  rcases mem_dirs_relink.mp hD with rfl | hD
  · exact hE
  · exact h D hD

theorem Private.create (h : Private plain d i) (hi : i < d.inodes.length) : Private plain (d.create t) i := by
  intro D hD q hq hget
  rcases mem_dirs_create.mp hD with rfl | hD
  · rw [Dict.get?_set] at hget
    split at hget
    · have : d.inodes.length = i := Option.some.inj hget
      omega
    · exact h _ entries_mem_dirs q hq hget
  · exact h D hD q hq hget

theorem Private.openAppend (h : Private plain d i) (hi : i < d.inodes.length) :
    Private plain (d.openAppend p).2 i := by
  rcases openAppend_cases d p with ⟨j, -, heq⟩ | ⟨-, heq⟩
  · rw [heq]
    exact h
  · rw [heq]
    exact h.create hi

theorem Private.rename (h : Private plain d i) (ht : ¬ plain t) (hne : j ≠ i) :
    Private plain (d.relink ((d.entries.erase t).set p j)) i := by
  refine h.relink fun q hq hget => ?_
  rw [get?_rename (ne_of_plain hq ht)] at hget
  split at hget
  · exact hne (Option.some.inj hget)
  · exact h _ entries_mem_dirs q hq hget

theorem Private.unlink (h : Private plain d i) (ht : ¬ plain t) : Private plain (d.unlink t) i := by
  refine h.relink fun q hq hget => ?_
  rw [get?_erase_of_ne (ne_of_plain hq ht)] at hget
  exact h _ entries_mem_dirs q hq hget

/-- **A new file under a name that is not plain is private.** -/
theorem private_create (h : Tidy plain d) (ht : ¬ plain t) : Private plain (d.create t) d.inodes.length := by
  intro D hD q hq hget
  rcases mem_dirs_create.mp hD with rfl | hD
  · rw [Dict.get?_set, if_neg (ne_of_plain hq ht).symm] at hget
    exact absurd (h.bounded _ entries_mem_dirs q _ hget) (lt_irrefl _)
  · exact absurd (h.bounded D hD q _ hget) (lt_irrefl _)

/-! ## Names that stay apart -/

/-- A directory keeps the names apart when it does so itself and against those before. -/
theorem Tidy.relink (h : Tidy plain d) (hbounded : ∀ p i, E.get? p = some i → i < d.inodes.length)
    (hself : ∀ p q i, plain p → plain q → E.get? p = some i → E.get? q = some i → p = q)
    (hpast : ∀ D ∈ d.dirs, ∀ p q i, plain p → plain q → E.get? p = some i → D.get? q = some i → p = q) :
    Tidy plain (d.relink E) := by
  constructor
  · intro D hD p i hget
    rcases mem_dirs_relink.mp hD with rfl | hD
    · exact hbounded p i hget
    · exact h.bounded D hD p i hget
  · intro D hD D' hD' p q i hp hq hget hget'
    rcases mem_dirs_relink.mp hD with rfl | hold <;> rcases mem_dirs_relink.mp hD' with rfl | hold'
    · exact hself p q i hp hq hget hget'
    · exact hpast D' hold' p q i hp hq hget hget'
    · exact (hpast D hold q p i hq hp hget' hget).symm
    · exact h.apart D hold D' hold' p q i hp hq hget hget'

theorem Tidy.alter (h : Tidy plain d) : Tidy plain (d.alter i f) :=
  ⟨fun D hD p i hget => by simpa using h.bounded D hD p i hget, h.apart⟩

theorem Tidy.crash (h : Tidy plain d) : Tidy plain (d.crash k tails) :=
  ⟨fun D hD p i hget => by simpa using h.bounded D (mem_dirs_crash hD) p i hget,
   fun D hD D' hD' => h.apart D (mem_dirs_crash hD) D' (mem_dirs_crash hD')⟩

theorem Tidy.create (h : Tidy plain d) : Tidy plain (d.create t) := by
  have hgrow : Tidy plain { d with inodes := d.inodes ++ [{ content := [], safe := 0 }] } :=
    ⟨fun D hD p i hget => by simpa using Nat.lt_succ_of_lt (h.bounded D hD p i hget), h.apart⟩
  -- An entry of the new directory is the new file's, whose number no directory has, or an old one.
  have hnew : ∀ p i, (d.entries.set t d.inodes.length).get? p = some i →
      (p = t ∧ i = d.inodes.length) ∨ d.entries.get? p = some i := by
    intro p i hget
    rw [Dict.get?_set] at hget
    split at hget
    case isTrue heq => exact .inl ⟨heq.symm, (Option.some.inj hget).symm⟩
    case isFalse => exact .inr hget
  have hlt : ∀ D ∈ d.dirs, ∀ p, D.get? p ≠ some d.inodes.length :=
    fun D hD p hget => absurd (h.bounded D hD p _ hget) (lt_irrefl _)
  refine hgrow.relink (fun p i hget => ?_) (fun p q i hp hq hget hget' => ?_) fun D hD p q i hp hq hget hget' => ?_
  · rcases hnew p i hget with ⟨-, rfl⟩ | hget
    · simp
    · simpa using Nat.lt_succ_of_lt (h.bounded _ entries_mem_dirs p i hget)
  · rcases hnew p i hget with ⟨rfl, rfl⟩ | hold <;> rcases hnew q _ hget' with ⟨rfl, hi⟩ | hold'
    · rfl
    · exact absurd hold' (hlt _ entries_mem_dirs q)
    · exact absurd (hi ▸ hold) (hlt _ entries_mem_dirs p)
    · exact h.apart _ entries_mem_dirs _ entries_mem_dirs p q i hp hq hold hold'
  · rcases hnew p i hget with ⟨-, rfl⟩ | hget
    · exact absurd hget' (hlt D hD q)
    · exact h.apart _ entries_mem_dirs D hD p q i hp hq hget hget'

theorem Tidy.openAppend (h : Tidy plain d) : Tidy plain (d.openAppend p).2 := by
  rcases openAppend_cases d p with ⟨i, -, heq⟩ | ⟨-, heq⟩
  · rw [heq]
    exact h
  · rw [heq]
    exact h.create

theorem Tidy.unlink (h : Tidy plain d) : Tidy plain (d.unlink t) := by
  have hold : ∀ p i, (d.entries.erase t).get? p = some i → d.entries.get? p = some i := by
    intro p i hget
    rw [Dict.get?_erase] at hget
    split at hget
    · cases hget
    · exact hget
  exact h.relink (fun p i hget => h.bounded _ entries_mem_dirs p i (hold p i hget))
    (fun p q i hp hq hget hget' =>
      h.apart _ entries_mem_dirs _ entries_mem_dirs p q i hp hq (hold p i hget) (hold q i hget'))
    fun D hD p q i hp hq hget hget' => h.apart _ entries_mem_dirs D hD p q i hp hq (hold p i hget) hget'

/-- **A private file may be given a plain name.** -/
theorem Tidy.rename (h : Tidy plain d) (hprivate : Private plain d i) (ht : ¬ plain t) (hi : i < d.inodes.length) :
    Tidy plain (d.relink ((d.entries.erase t).set p i)) := by
  have hplain : ∀ q j, plain q → ((d.entries.erase t).set p i).get? q = some j →
      (p = q ∧ i = j) ∨ d.entries.get? q = some j := by
    intro q j hq hget
    rw [get?_rename (ne_of_plain hq ht)] at hget
    split at hget
    case isTrue heq => exact .inl ⟨heq, Option.some.inj hget⟩
    case isFalse => exact .inr hget
  refine h.relink (fun q j hget => ?_) (fun x y j hx hy hget hget' => ?_) fun D hD x y j hx hy hget hget' => ?_
  · rw [Dict.get?_set] at hget
    split at hget
    · exact Option.some.inj hget ▸ hi
    · rw [Dict.get?_erase] at hget
      split at hget
      · cases hget
      · exact h.bounded _ entries_mem_dirs q j hget
  · rcases hplain x j hx hget with ⟨rfl, rfl⟩ | hget <;> rcases hplain y _ hy hget' with ⟨rfl, hj⟩ | hget'
    · rfl
    · exact absurd hget' (hprivate _ entries_mem_dirs y hy)
    · exact absurd (hj ▸ hget) (hprivate _ entries_mem_dirs x hx)
    · exact h.apart _ entries_mem_dirs _ entries_mem_dirs x y j hx hy hget hget'
  · rcases hplain x j hx hget with ⟨-, rfl⟩ | hget
    · exact absurd hget' (hprivate D hD y hy)
    · exact h.apart _ entries_mem_dirs D hD x y j hx hy hget hget'

/-! ## A name that always leads to a whole file -/

/-- An entry leads to no file and `saved` allows that, or to a file that is safe to its end and that `saved` allows. -/
def Settled (d : Disk ι β) (saved : Option (List β) → Prop) : Option Nat → Prop
  | none   => saved none
  | some i => ∃ n, d.inodes[i]? = some n ∧ n.safe = n.content.length ∧ saved (some n.content)

/-- In every directory a crash may bring back, the name's entry is settled. -/
def Whole (d : Disk ι β) (p : ι) (saved : Option (List β) → Prop) : Prop :=
  ∀ D ∈ d.dirs, Settled d saved (D.get? p)

/-- What the name reads as is allowed. -/
theorem Whole.read (h : Whole d p saved) : saved (d.read p) := by
  have hentry := h _ entries_mem_dirs
  unfold Disk.read
  cases hi : d.entries.get? p with
  | none =>
    rw [hi] at hentry
    exact hentry
  | some i =>
    rw [hi] at hentry
    obtain ⟨n, hn, -, hsaved⟩ := hentry
    simpa [hn] using hsaved

omit [DecidableEq ι] in
/-- An entry stays settled where its file stays as it is. -/
theorem Settled.of_inodes {entry : Option Nat} (h : Settled d saved entry)
    (hsame : ∀ i n, entry = some i → d.inodes[i]? = some n → n.safe = n.content.length → d'.inodes[i]? = some n) :
    Settled d' saved entry := by
  cases entry with
  | none => exact h
  | some i =>
    obtain ⟨n, hn, hsafe, hsaved⟩ := h
    exact ⟨n, hsame i n rfl hn hsafe, hsafe, hsaved⟩

/-- Changing a file the name never leads to. -/
theorem Whole.alter (h : Whole d p saved) (hne : ∀ D ∈ d.dirs, D.get? p ≠ some i) : Whole (d.alter i f) p saved := by
  intro D hD
  refine (h D hD).of_inodes fun j n hj hn _ => ?_
  have hij : i ≠ j := fun heq => hne D hD (heq ▸ hj)
  rw [getElem?_alter_ne hij, hn]

/-- Changing the directory elsewhere. -/
theorem Whole.relink (h : Whole d p saved) (hE : E.get? p = d.entries.get? p) : Whole (d.relink E) p saved := by
  intro D hD
  rcases mem_dirs_relink.mp hD with rfl | hold
  · rw [hE]
    exact (h _ entries_mem_dirs).of_inodes fun _ _ _ hn _ => hn
  · exact (h D hold).of_inodes fun _ _ _ hn _ => hn

theorem Whole.create (h : Whole d p saved) (hne : t ≠ p) : Whole (d.create t) p saved := by
  have hsame : ∀ entry, Settled d saved entry → Settled (d.create t) saved entry :=
    fun entry hentry => hentry.of_inodes fun i n _ hn _ => by
      rw [getElem?_create (List.getElem?_eq_some_iff.mp hn).1, hn]
  intro D hD
  rcases mem_dirs_create.mp hD with rfl | hold
  · rw [Dict.get?_set, if_neg hne]
    exact hsame _ (h _ entries_mem_dirs)
  · exact hsame _ (h D hold)

theorem Whole.openAppend (h : Whole d p saved) (hne : q ≠ p) : Whole (d.openAppend q).2 p saved := by
  rcases openAppend_cases d q with ⟨i, -, heq⟩ | ⟨-, heq⟩
  · rw [heq]
    exact h
  · rw [heq]
    exact h.create hne

theorem Whole.unlink (h : Whole d p saved) (hne : p ≠ t) : Whole (d.unlink t) p saved :=
  h.relink (get?_erase_of_ne hne)

/-- Giving a file another name than this one. -/
theorem Whole.rename_ne (h : Whole d p saved) (hne : p ≠ t) (hq : q ≠ p) :
    Whole (d.relink ((d.entries.erase t).set q i)) p saved :=
  h.relink (by rw [get?_rename hne, if_neg hq])

/-- **A whole file may take the name.** -/
theorem Whole.rename (h : Whole d p saved) (hentry : Settled d saved (some i)) :
    Whole (d.relink ((d.entries.erase t).set p i)) p saved := by
  intro D hD
  rcases mem_dirs_relink.mp hD with rfl | hold
  · rw [Dict.get?_set, if_pos rfl]
    exact hentry.of_inodes fun _ _ _ hn _ => hn
  · exact (h D hold).of_inodes fun _ _ _ hn _ => hn

/-- **A crash leaves whole files whole.** -/
theorem Whole.crash (h : Whole d p saved) : Whole (d.crash k tails) p saved := by
  intro D hD
  refine (h D (mem_dirs_crash hD)).of_inodes fun i n _ hn hsafe => ?_
  rw [getElem?_crash, hn, Option.map_some, Inode.torn_of_safe hsafe]

/-! ## A name that keeps its file -/

/-- Every directory a crash may bring back has the name for this file. -/
def Placed (d : Disk ι β) (p : ι) (i : Nat) : Prop := ∀ D ∈ d.dirs, D.get? p = some i

theorem Placed.alter (h : Placed d p i) : Placed (d.alter j f) p i := h

theorem Placed.relink (h : Placed d p i) (hE : E.get? p = d.entries.get? p) : Placed (d.relink E) p i := by
  intro D hD
  rcases mem_dirs_relink.mp hD with rfl | hold
  · rw [hE]
    exact h _ entries_mem_dirs
  · exact h D hold

theorem Placed.create (h : Placed d p i) (hne : t ≠ p) : Placed (d.create t) p i := by
  intro D hD
  rcases mem_dirs_create.mp hD with rfl | hold
  · rw [Dict.get?_set, if_neg hne]
    exact h _ entries_mem_dirs
  · exact h D hold

/-- **Opening the name finds its file.** -/
theorem Placed.openAppend_self (h : Placed d p i) : d.openAppend p = (i, d) := by
  unfold Disk.openAppend
  rw [h _ entries_mem_dirs]

theorem Placed.openAppend (h : Placed d p i) (hne : q ≠ p) : Placed (d.openAppend q).2 p i := by
  rcases openAppend_cases d q with ⟨j, -, heq⟩ | ⟨-, heq⟩
  · rw [heq]
    exact h
  · rw [heq]
    exact h.create hne

theorem Placed.unlink (h : Placed d p i) (hne : p ≠ t) : Placed (d.unlink t) p i := h.relink (get?_erase_of_ne hne)

theorem Placed.rename_ne (h : Placed d p i) (hne : p ≠ t) (hq : q ≠ p) :
    Placed (d.relink ((d.entries.erase t).set q j)) p i :=
  h.relink (by rw [get?_rename hne, if_neg hq])

theorem Placed.crash (h : Placed d p i) : Placed (d.crash k tails) p i := fun D hD => h D (mem_dirs_crash hD)

/-- The name reads as its file. -/
theorem Placed.read (h : Placed d p i) {n : Inode β} (hn : d.inodes[i]? = some n) : d.read p = some n.content := by
  unfold Disk.read
  rw [h _ entries_mem_dirs, Option.bind_some, hn, Option.map_some]

end CrashFs
