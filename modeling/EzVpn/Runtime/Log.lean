import EzVpn.Lib.Bytes
import Mathlib.Data.List.Infix

/-!
# The daemon's log

`drain_to_capped_log` (src/main.rs) copies the daemon's output from a pipe to a log file.  A
chunk that would take the file over its cap first makes it the one backup, in place of the
backup before it.

What is on disk is always a subsequence of what was there before and the output, whatever
fails (`log_inOrder`).  While nothing fails it is the end of it, both files stay below the cap
(or a chunk, or what they were), and more than the cap less a chunk is kept
(`log_keeps_end`).
-/

namespace EzVpn

open Lib

/-- Bytes of `buf`. -/
def logChunkSize : Nat := 16 * 1024

/-- The files at `path` and at `rotated_log_path`, and the variables of the loop. -/
structure CappedLog where
  active : Option Bytes
  backup : Option Bytes
  opened : Bool
  size : Nat
deriving DecidableEq

/-- The system's answers while one chunk is handled. -/
structure LogAnswers where
  openOk : Bool
  metadataOk : Bool
  renameOk : Bool
  reopenOk : Bool
  /-- `write_all` fails after this many bytes -/
  writeFails : Option Nat
deriving DecidableEq

/-- Every call succeeds. -/
def LogAnswers.ok : LogAnswers := ⟨true, true, true, true, none⟩

inductive PipeRead
  | chunk (data : Bytes) (os : LogAnswers)
  | interrupted
  /-- the end of the pipe, or an error -/
  | closed

namespace CappedLog

variable (maxBytes : Nat) (s : CappedLog)

/-- `open_active` and the length of the file, 0 where the metadata cannot be read. -/
def openActive (openOk metadataOk : Bool) : CappedLog :=
  if openOk then
    { s with
      active := some (s.active.getD [])
      opened := true
      size := if metadataOk then (s.active.getD []).length else 0 }
  else s

def start (active backup : Option Bytes) (openOk metadataOk : Bool) : CappedLog :=
  openActive ⟨active, backup, false, 0⟩ openOk metadataOk

def recover (os : LogAnswers) : CappedLog :=
  if s.opened then s else s.openActive os.openOk os.metadataOk

/-- `rename` fails where there is no file. -/
def rotate (n : Nat) (os : LogAnswers) : CappedLog :=
  if 0 < s.size ∧ s.size + n > maxBytes ∧ os.renameOk = true ∧ s.active.isSome = true then
    { active := if os.reopenOk then some [] else none
      backup := s.active
      opened := os.reopenOk
      size := 0 }
  else s

def write (data : Bytes) (os : LogAnswers) : CappedLog :=
  if s.opened then
    match os.writeFails with
    | none => { s with active := some (s.active.getD [] ++ data), size := s.size + data.length }
    | some k => { s with active := some (s.active.getD [] ++ data.take k) }
  else s

def drainChunk (data : Bytes) (os : LogAnswers) : CappedLog :=
  ((s.recover os).rotate maxBytes data.length os).write data os

def drainToCappedLog : CappedLog → List PipeRead → CappedLog
  | s, [] => s
  | s, .chunk data os :: rest => drainToCappedLog (s.drainChunk maxBytes data os) rest
  | s, .interrupted :: rest => drainToCappedLog s rest
  | s, .closed :: _ => s

/-- The bytes on disk, oldest first. -/
def kept : Bytes := s.backup.getD [] ++ s.active.getD []

/-- What came through the pipe. -/
def received : List PipeRead → Bytes
  | [] => []
  | .chunk data _ :: rest => data ++ received rest
  | .interrupted :: rest => received rest
  | .closed :: _ => []

/-! ## Whatever fails -/

theorem kept_openActive (openOk metadataOk : Bool) : (s.openActive openOk metadataOk).kept = s.kept := by
  unfold openActive
  split <;> rfl

theorem kept_recover (os : LogAnswers) : (s.recover os).kept = s.kept := by
  unfold recover
  split
  · rfl
  · exact kept_openActive s _ _

theorem kept_rotate (n : Nat) (os : LogAnswers) : (s.rotate maxBytes n os).kept <:+ s.kept := by
  unfold rotate
  split
  · have hkept : kept ⟨if os.reopenOk then some [] else none, s.active, os.reopenOk, 0⟩ =
        s.active.getD [] := by
      cases os.reopenOk <;> simp [kept]
    rw [hkept]
    exact List.suffix_append _ _
  · exact List.suffix_refl _

theorem kept_write (data : Bytes) (os : LogAnswers) :
    ∃ part, part <+: data ∧ (s.write data os).kept = s.kept ++ part := by
  unfold write
  split
  · split
    · exact ⟨data, List.prefix_refl _, by simp [kept]⟩
    · next k _ => exact ⟨data.take k, List.take_prefix _ _, by simp [kept]⟩
  · exact ⟨[], List.nil_prefix, (List.append_nil _).symm⟩

theorem kept_drainChunk (data : Bytes) (os : LogAnswers) :
    (s.drainChunk maxBytes data os).kept.Sublist (s.kept ++ data) := by
  obtain ⟨part, hpart, hkept⟩ := kept_write ((s.recover os).rotate maxBytes data.length os) data os
  rw [drainChunk, hkept]
  refine List.Sublist.append ?_ hpart.sublist
  rw [← kept_recover s os]
  exact (kept_rotate maxBytes (s.recover os) data.length os).sublist

/-- **Nothing is invented, doubled or reordered**, whatever the system answers. -/
theorem log_inOrder (reads : List PipeRead) :
    (drainToCappedLog maxBytes s reads).kept.Sublist (s.kept ++ received reads) := by
  induction reads generalizing s with
  | nil => simp [drainToCappedLog, received]
  | cons r rest ih =>
    cases r with
    | chunk data os =>
      rw [drainToCappedLog, received, ← List.append_assoc]
      exact (ih _).trans ((kept_drainChunk maxBytes s data os).append_right _)
    | interrupted => exact ih s
    | closed => simp [drainToCappedLog, received]

/-! ## While nothing fails -/

/-- Every read is at most a chunk, and the system does what it is asked. -/
def Works : PipeRead → Prop
  | .chunk data os => data.length ≤ logChunkSize ∧ os = .ok
  | _ => True

instance : DecidablePred Works := fun r => by
  cases r <;> unfold Works <;> infer_instance

/-- The log at work; `total` are all bytes it has had, `old` is the longest file before. -/
structure Working (old : Nat) (total : Bytes) (s : CappedLog) : Prop where
  opened : s.opened = true
  size : ∃ a, s.active = some a ∧ s.size = a.length
  activeLe : (s.active.getD []).length ≤ max old (max maxBytes logChunkSize)
  backupLe : (s.backup.getD []).length ≤ max old (max maxBytes logChunkSize)
  suffix : s.kept <:+ total
  /-- bytes are dropped only behind a full backup -/
  whole : s.kept = total ∨ maxBytes < (s.backup.getD []).length + logChunkSize

variable {maxBytes s} {old : Nat} {total data : Bytes}

theorem Working.rotate (h : Working maxBytes old total s) (hlen : data.length ≤ logChunkSize) :
    Working maxBytes old total (s.rotate maxBytes data.length .ok) ∧
      ((s.rotate maxBytes data.length .ok).size = 0 ∨
        (s.rotate maxBytes data.length .ok).size + data.length ≤ maxBytes) := by
  obtain ⟨a, ha, hsize⟩ := h.size
  unfold CappedLog.rotate
  split
  · next hfull =>
    have hactive := h.activeLe
    rw [ha] at hactive
    have hkept : kept { active := some [], backup := s.active, opened := true, size := 0 } = a := by
      simp [kept, ha]
    have hsuffix : a <:+ s.kept := by
      rw [kept, ha]; exact List.suffix_append _ _
    refine ⟨⟨rfl, ⟨[], rfl, rfl⟩, Nat.zero_le _, by simpa [ha] using hactive, ?_, .inr ?_⟩, .inl rfl⟩
    · exact hkept ▸ hsuffix.trans h.suffix
    · simp only [ha, Option.getD_some]
      omega
  · next hfits =>
    refine ⟨h, ?_⟩
    by_cases hzero : s.size = 0
    · exact .inl hzero
    · right
      by_contra hover
      exact hfits ⟨by omega, by omega, rfl, by rw [ha]; rfl⟩

theorem Working.write (h : Working maxBytes old total s) (hlen : data.length ≤ logChunkSize)
    (hroom : s.size = 0 ∨ s.size + data.length ≤ maxBytes) :
    Working maxBytes old (total ++ data) (s.write data .ok) := by
  obtain ⟨a, ha, hsize⟩ := h.size
  have hwrite : s.write data .ok =
      { s with active := some (a ++ data), size := s.size + data.length } := by
    simp [CappedLog.write, h.opened, LogAnswers.ok, ha]
  have hkept : (s.write data .ok).kept = s.kept ++ data := by
    rw [hwrite, kept, kept, ha]; simp
  refine ⟨by rw [hwrite]; exact h.opened, ⟨a ++ data, by rw [hwrite], ?_⟩, ?_, by rw [hwrite]; exact h.backupLe,
    ?_, ?_⟩
  · rw [hwrite, List.length_append, hsize]
  · rw [hwrite]
    simp only [Option.getD_some, List.length_append]
    omega
  · obtain ⟨front, hfront⟩ := h.suffix
    exact ⟨front, by rw [hkept, ← hfront, List.append_assoc]⟩
  · rw [hkept]
    rcases h.whole with hall | hfull
    · exact .inl (by rw [hall])
    · exact .inr (by rw [hwrite]; exact hfull)

theorem Working.drainChunk (h : Working maxBytes old total s) (hlen : data.length ≤ logChunkSize) :
    Working maxBytes old (total ++ data) (s.drainChunk maxBytes data .ok) := by
  have hrecover : s.recover .ok = s := by rw [recover, if_pos h.opened]
  rw [CappedLog.drainChunk, hrecover]
  obtain ⟨hrotated, hroom⟩ := h.rotate hlen
  exact hrotated.write hlen hroom

theorem Working.drain {reads : List PipeRead} (h : Working maxBytes old total s)
    (hworks : ∀ r ∈ reads, Works r) :
    Working maxBytes old (total ++ received reads) (drainToCappedLog maxBytes s reads) := by
  induction reads generalizing s total with
  | nil => rw [received, List.append_nil]; exact h
  | cons r rest ih =>
    have hrest : ∀ r ∈ rest, Works r := fun r hr => hworks r (List.mem_cons_of_mem _ hr)
    cases r with
    | chunk data os =>
      obtain ⟨hlen, rfl⟩ := hworks _ List.mem_cons_self
      rw [received, ← List.append_assoc]
      exact ih (h.drainChunk hlen) hrest
    | interrupted => exact ih h hrest
    | closed => rw [received, List.append_nil]; exact h

/-- **The log keeps its end.**  Let the file system do what it is asked.  However long the
daemon runs, the two files are the end of the old files and the output; neither is longer than
the cap, a chunk, or the longer file found at the start; and if anything was dropped, the
backup alone has more than the cap less a chunk. -/
theorem log_keeps_end (maxBytes : Nat) (active backup : Option Bytes) (reads : List PipeRead)
    (hworks : ∀ r ∈ reads, Works r) :
    let log := drainToCappedLog maxBytes (start active backup true true) reads
    let old := max (active.getD []).length (backup.getD []).length
    let all := backup.getD [] ++ active.getD [] ++ received reads
    log.kept <:+ all ∧
      (log.active.getD []).length ≤ max old (max maxBytes logChunkSize) ∧
      (log.backup.getD []).length ≤ max old (max maxBytes logChunkSize) ∧
      (log.kept = all ∨ maxBytes < (log.backup.getD []).length + logChunkSize) := by
  intro log old all
  have hstart : Working maxBytes old (backup.getD [] ++ active.getD []) (start active backup true true) := by
    refine ⟨rfl, ⟨active.getD [], rfl, rfl⟩, ?_, ?_, List.suffix_refl _, .inl rfl⟩
    · exact le_trans (le_max_left _ _) (le_max_left _ _)
    · exact le_trans (le_max_right _ _) (le_max_left _ _)
  have h := hstart.drain hworks
  exact ⟨h.suffix, h.activeLe, h.backupLe, h.whole⟩

/-- Three chunks of two bytes under a cap of four: the third rotates. -/
theorem log_keeps_end_threeChunks :
    (drainToCappedLog 4 (start none none true true)
      [.chunk [1, 2] .ok, .chunk [3, 4] .ok, .interrupted, .chunk [5, 6] .ok, .closed]).backup =
        some [1, 2, 3, 4] ∧
    (drainToCappedLog 4 (start none none true true)
      [.chunk [1, 2] .ok, .chunk [3, 4] .ok, .interrupted, .chunk [5, 6] .ok, .closed]).kept <:+
        [1, 2, 3, 4, 5, 6] :=
  ⟨by decide +kernel, (log_keeps_end 4 none none
    [.chunk [1, 2] .ok, .chunk [3, 4] .ok, .interrupted, .chunk [5, 6] .ok, .closed] (by decide +kernel)).1⟩

end CappedLog

end EzVpn
